import Dnfs.Meta.Release
import Dnfs.Run.Sequences

/-! One smart pointer's value for all that are the same: what a pool of handles is for. -/

namespace Dnfs

open SmartPtrValue

variable {α : Type} [SmartPtrValue α]

/-- Being the same is an equivalence, and values that are the same have the same id. -/
class LawfulSmartPtrValue (α : Type) [SmartPtrValue α] : Prop where
  equivalence : Equivalence fun a b : α => comporeData a b = true
  getId_eq : ∀ a b : α, comporeData a b = true → getId a = getId b

open LawfulSmartPtrValue

namespace Pools

section Canonical

/-- Values that are the same are held by one pointer, and looking for one finds it. -/
structure Canonical (pool : Nat) (s : Pools α) : Prop where
  same : ∀ (i j : Nat) (item other : SmartPtr) (a b : Shared α),
    s.slots[i]? = some (some item) → s.slots[j]? = some (some other) →
    s.shared[item.ptr]? = some a → s.shared[other.ptr]? = some b →
    comporeData a.value b.value = true → item.ptr = other.ptr
  found : ∀ (i : Nat) (item : SmartPtr) (a : Shared α) (searched : α),
    s.slots[i]? = some (some item) → s.shared[item.ptr]? = some a →
    comporeData searched a.value = true →
    ∃ entry, s.lookup pool searched = some (some entry) ∧ entry.ptr = item.ptr

/-- What makes it so: one pool, and no value twice. -/
structure Distinct (pool : Nat) (s : Pools α) : Prop extends Kept s where
  home : ∀ ptr shared, s.read ptr = some shared → shared.home = pool
  reports : ∀ (i : Nat) (item : SmartPtr), s.slots[i]? = some (some item) →
    item.smartPtrPool = pool
  distinct : ∀ p q a b, s.read p = some a → s.read q = some b →
    comporeData a.value b.value = true → p = q

/-- Destroying drops nothing else, and never brings the count to zero by itself. -/
def DropsAlone (s : Pools α) : PoolOp α → Prop
  | .destroy i => ∀ item shared, s.slots[i]? = some (some item) →
      s.read item.ptr = some shared →
      s.count item.ptr - 1 ≠ 0 ∧ (s.count item.ptr - 1 = 1 → s.Apart i shared)
  | _ => True

instance apartDecidable (s : Pools α) (i : Nat) (shared : Shared α) :
    Decidable (s.Apart i shared) :=
  decidable_of_iff (∀ j < s.slots.length, j ≠ i → ∀ other ∈ s.slots[j]?.join,
      ∀ beside ∈ s.read other.ptr, beside.home = shared.home →
        getId beside.value ≠ getId shared.value) <| by
    constructor
    · intro all j other beside differs at_ reads
      exact all j (List.getElem?_eq_some_iff.mp at_).1 differs other (by simp [at_]) beside reads
    · intro apart j _ differs other at_ beside reads
      exact apart j other beside differs (Option.join_eq_some_iff.mp at_) reads

instance dropsAloneDecidable (s : Pools α) : (op : PoolOp α) → Decidable (s.DropsAlone op)
  | .destroy i =>
    decidable_of_iff (∀ item ∈ s.slots[i]?.join, ∀ shared ∈ s.read item.ptr,
        s.count item.ptr - 1 ≠ 0 ∧ (s.count item.ptr - 1 = 1 → s.Apart i shared)) <| by
      simp only [Option.mem_def, Option.join_eq_some_iff, DropsAlone]
      exact ⟨fun all item shared at_ => all item at_ shared,
        fun all item at_ shared => all item shared at_⟩
  | .push .. | .get .. | .copy .. | .assign .. => inferInstanceAs (Decidable True)

variable {pool : Nat} {s : Pools α}

/-- In the beginning there is nothing to tell apart. -/
theorem Distinct.empty : (empty : Pools α).Distinct pool where
  toKept := Kept.empty
  home := by simp [Pools.empty, read]
  reports := by simp [Pools.empty]
  distinct := by simp [Pools.empty, read]

end Canonical

section Keeping

variable {pool : Nat} {s : Pools α}

/-- What is held can be read, as it was inserted. -/
theorem Kept.read_of_slot (kept : s.Kept) {i : Nat} {item : SmartPtr} {shared : Shared α}
    (at_ : s.slots[i]? = some (some item)) (inserted : s.shared[item.ptr]? = some shared) :
    s.read item.ptr = some shared := by
  obtain ⟨other, reads⟩ := kept.alive at_
  rw [(shared_of_read reads).1] at inserted
  cases inserted
  exact reads

/-- Copying a smart pointer of the pool changes no value. -/
theorem Distinct.copied (kept : s.Distinct pool) {item : SmartPtr} {shared : Shared α}
    (reports : item.smartPtrPool = pool) (reads : s.read item.ptr = some shared) :
    (s.copied item).Distinct pool where
  toKept := kept.toKept.copied reads
  home := kept.home
  reports := by
    intro i other at_
    rcases List.mem_append.mp (List.mem_of_getElem? at_) with before | new
    · obtain ⟨j, atOther⟩ := List.getElem?_of_mem before
      exact kept.reports j other atOther
    · cases List.mem_singleton.mp new
      exact reports
  distinct := kept.distinct

/-- Dropping one of several smart pointers keeps the values apart. -/
theorem Distinct.dropped (kept : s.Distinct pool) {i : Nat} {item : SmartPtr}
    {shared : Shared α} (at_ : s.slots[i]? = some (some item))
    (reads : s.read item.ptr = some shared) (notOne : s.count item.ptr - 1 ≠ 1) :
    (s.dropped i item.ptr).Distinct pool where
  toKept := kept.toKept.dropped at_ reads notOne
  home := kept.home
  reports := fun j other atOther => kept.reports j other (slot_vacated.mp atOther).2
  distinct := kept.distinct

/-- So does dropping the last one outside. -/
theorem Distinct.droppedLast (kept : s.Distinct pool) {i : Nat} {item : SmartPtr}
    {shared : Shared α} (at_ : s.slots[i]? = some (some item))
    (reads : s.read item.ptr = some shared) (apart : s.Apart i shared) :
    (s.droppedLast i item.ptr shared).Distinct pool := by
  have before : ∀ ptr other, (s.droppedLast i item.ptr shared).read ptr = some other →
      s.read ptr = some other := by
    intro ptr other readsAfter
    have after : (if ptr = item.ptr then none else s.read ptr) = some other :=
      (read_free ptr).symm.trans readsAfter
    split at after
    · cases after
    · exact after
  exact
    { toKept := kept.toKept.droppedLast at_ reads apart
      home := fun ptr other readsAfter => kept.home ptr other (before ptr other readsAfter)
      reports := fun j other atOther => kept.reports j other (slot_vacated.mp atOther).2
      distinct := fun p q a b first second =>
        kept.distinct p q a b (before p a first) (before q b second) }

variable [LawfulSmartPtrValue α]

/-- A value that its pool does not find is not the same as any that can be read. -/
theorem Distinct.differs (kept : s.Distinct pool) {value : α}
    (misses : s.lookup pool value = some none) {ptr : Nat} {other : Shared α}
    (reads : s.read ptr = some other) : comporeData value other.value = false := by
  by_contra alike
  have alike : comporeData value other.value = true := by simpa using alike
  -- The entry of the other value is in the list that was searched.
  obtain ⟨list, keeps, mem⟩ := kept.pooled ptr other reads
  rw [kept.home ptr other reads] at keeps mem
  rw [lookup, getId_eq value other.value alike, keeps] at misses
  have differs := searchData_missed misses _ mem other reads
  rw [alike] at differs
  cases differs

/-- Values that are apart by id have one smart pointer each. -/
theorem Distinct.canonical (kept : s.Distinct pool) : s.Canonical pool where
  same := by
    intro i j item other a b at_ atOther inserted insertedOther alike
    exact kept.distinct _ _ a b (kept.read_of_slot at_ inserted)
      (kept.read_of_slot atOther insertedOther) alike
  found := by
    intro i item a searched at_ inserted alike
    have reads := kept.read_of_slot at_ inserted
    rcases kept.getFh_cases pool searched with ⟨entry, finds, _⟩ | ⟨misses, _⟩
    · obtain ⟨_, b, readsEntry, alikeEntry⟩ := kept.lookup_found finds
      refine ⟨entry, finds, kept.distinct _ _ b a readsEntry reads ?_⟩
      exact equivalence.trans (equivalence.symm alikeEntry) alike
    · rw [kept.differs misses reads] at alike
      cases alike

/-- Inserting a value that was not found leaves no value twice. -/
theorem Distinct.inserted (kept : s.Distinct pool) {value : α}
    (misses : s.lookup pool value = some none) : (s.inserted pool value).Distinct pool where
  toKept := kept.toKept.inserted pool value
  home := by
    intro ptr shared reads
    rw [kept.read_inserted] at reads
    split at reads
    · cases reads
      rfl
    · exact kept.home ptr shared reads
  reports := by
    intro i item at_
    rcases List.mem_append.mp (List.mem_of_getElem? at_) with before | new
    · obtain ⟨j, atOther⟩ := List.getElem?_of_mem before
      exact kept.reports j item atOther
    · cases List.mem_singleton.mp new
      rfl
  distinct := by
    intro p q a b readsFirst readsSecond alike
    rw [kept.read_inserted] at readsFirst readsSecond
    -- The new value differs from all others, whichever of the two it is.
    split at readsFirst
    · next newFirst =>
      cases readsFirst
      split at readsSecond
      · next newSecond => exact newFirst.trans newSecond.symm
      · rw [kept.differs misses readsSecond] at alike
        cases alike
    · split at readsSecond
      · cases readsSecond
        have alike := equivalence.symm alike
        rw [kept.differs misses readsFirst] at alike
        cases alike
      · exact kept.distinct p q a b readsFirst readsSecond alike

end Keeping

section Necessity

variable {pool : Nat} {s t : Pools α} {i : Nat} {item : SmartPtr} {shared : Shared α}

/-- A value that was deleted is not found. -/
theorem lookup_freed {searched : α} {entry : SmartPtr}
    (finds : s.lookup pool searched = some (some entry)) : s.read entry.ptr ≠ none := by
  rw [lookup] at finds
  split at finds
  · obtain ⟨_, other, reads, _⟩ := searchData_found finds
    rw [reads]
    exact Option.some_ne_none other
  · cases finds

/-- A count that comes down to zero by itself had wrapped around, with somebody left to hold. -/
theorem Kept.holders_of_zero (kept : s.Kept) (at_ : s.slots[i]? = some (some item))
    (reads : s.read item.ptr = some shared) (zero : s.count item.ptr - 1 = 0) :
    0 < (s.setSlot i none).holders item.ptr := by
  have fewer := holders_vacated at_ item.ptr
  rw [if_pos rfl] at fewer
  have one : s.count item.ptr = 1 := by
    rw [← UInt32.sub_add_cancel (s.count item.ptr) 1, zero]
    rfl
  have counted := congrArg UInt32.toNat ((kept.counted _ _ reads).symm.trans one)
  rw [UInt32.toNat_ofNat', UInt32.toNat_one] at counted
  omega

variable [LawfulSmartPtrValue α]

/-- Where destroying a smart pointer leaves everything canonical, it dropped nothing else. -/
theorem Distinct.dropsAlone (kept : s.Distinct pool) (destroys : s.destroy i = some t)
    (canonical : t.Canonical pool) : s.DropsAlone (.destroy i) := by
  intro item shared at_ reads
  constructor
  · intro zero
    -- The value is deleted while some other smart pointer holds it.
    obtain ⟨j, other, atOther, samePtr⟩ := holders_pos.mp (kept.holders_of_zero at_ reads zero)
    rw [destroy_zero at_ reads zero] at destroys
    cases destroys
    have inserted : s.shared[other.ptr]? = some shared := by
      rw [samePtr]
      exact (shared_of_read reads).1
    obtain ⟨entry, finds, same⟩ := canonical.found j other shared shared.value atOther inserted
      (equivalence.refl _)
    exact lookup_freed finds ((read_free _).trans (if_pos (same.trans samePtr)))
  · intro one j other beside differs atOther readsBeside home id
    -- The list of the other value is gone, along with its entry.
    rw [destroy_one at_ reads one, kept.reports i item at_] at destroys
    obtain ⟨gone, sameShared, sameSlots⟩ := (realseAt_framed _).deleteItem destroys
    have still : t.slots[j]? = some (some other) := by
      rw [sameSlots]
      exact slot_vacated.mpr ⟨differs, atOther⟩
    have inserted : t.shared[other.ptr]? = some beside := by
      rw [sameShared]
      exact (shared_of_read readsBeside).1
    obtain ⟨entry, finds, _⟩ := canonical.found j other beside beside.value still inserted
      (equivalence.refl _)
    rw [lookup, id, gone] at finds
    cases finds

end Necessity

end Pools

section Demo

instance : LawfulSmartPtrValue Tagged where
  equivalence :=
    ⟨fun _ => decide_eq_true rfl, fun same => decide_eq_true (of_decide_eq_true same).symm,
      fun first second => decide_eq_true
        ((of_decide_eq_true first).trans (of_decide_eq_true second))⟩
  getId_eq := fun _ _ same => congrArg Tagged.id (of_decide_eq_true same)

end Demo

section Runs

/-- What is done with one pool: getting values from it, and copying and destroying what it gave. -/
def PoolOp.Uses (pool : Nat) : PoolOp α → Prop
  | get other _ => other = pool
  | copy _ => True
  | destroy _ => True
  | _ => False

variable {pool : Nat} {s : Pools α}

variable [LawfulSmartPtrValue α]

/-- What is done with one pool leaves no value twice, unless it drops something else. -/
theorem Pools.Distinct.step (kept : s.Distinct pool) {op : PoolOp α} (uses : op.Uses pool)
    (alone : s.DropsAlone op) : ∃ t, op.step s = some t ∧ t.Distinct pool := by
  match op, uses with
  | .get _ value, rfl =>
    rcases kept.getFh_cases _ value with ⟨item, finds, gets⟩ | ⟨misses, gets⟩
    · obtain ⟨reports, shared, reads, _⟩ := kept.lookup_found finds
      exact ⟨_, gets, kept.copied reports reads⟩
    · exact ⟨_, gets, kept.inserted misses⟩
  | .copy i, _ =>
    rcases kept.copySlot_cases i with same | ⟨item, shared, at_, reads, copies⟩
    · exact ⟨s, same, kept⟩
    · exact ⟨_, copies, kept.copied (kept.reports i item at_) reads⟩
  | .destroy i, _ =>
    rcases kept.destroy_cases i with same | ⟨item, shared, at_, reads⟩
    · exact ⟨s, same, kept⟩
    · obtain ⟨notZero, apart⟩ := alone item shared at_ reads
      -- With the last smart pointer outside, the pool drops its own.
      by_cases one : s.count item.ptr - 1 = 1
      · have home : item.smartPtrPool = shared.home :=
          (kept.reports i item at_).trans (kept.home _ _ reads).symm
        exact ⟨_, kept.destroy_last at_ reads one home
          (LawfulSmartPtrValue.equivalence.refl _) (apart one),
          kept.droppedLast at_ reads (apart one)⟩
      · exact ⟨_, Pools.destroy_several at_ reads one notZero, kept.dropped at_ reads one⟩

/-- Where everything stays canonical, nothing else was dropped. -/
theorem Pools.Distinct.alone_of_canonical {t : Pools α} (kept : s.Distinct pool) {op : PoolOp α}
    (steps : op.step s = some t) (canonical : t.Canonical pool) : s.DropsAlone op := by
  cases op with
  | destroy i => exact kept.dropsAlone steps canonical
  | _ => trivial

/--
A pool stays canonical exactly as long as no release drops what else it keeps for the id.

Each smart pointer that brings a count down to one must be the last one outside to a value of its
id, and none may bring it down to zero, which takes more of them than are counted.
-/
theorem handlePool_canonical_iff (pool : Nat) (ops : List (PoolOp α))
    (uses : ∀ op ∈ ops, op.Uses pool) :
    AtEveryPoint PoolOp.step (Pools.Canonical pool) Pools.empty ops ↔
      AtEveryStep PoolOp.step Pools.DropsAlone Pools.empty ops := by
  refine atEveryPoint_iff_of_assumed (fun s kept => kept.canonical) ?_ ?_ Pools.Distinct.empty
    (atEveryStep_of_forall uses)
  · exact fun s op kept uses alone => kept.step uses alone
  · exact fun s op t kept _ steps canonical => kept.alone_of_canonical steps canonical

/-- A value is got twice and another one with another id, and all are given up. -/
def demoUses : List (PoolOp Tagged) :=
  [.get 0 ⟨7, 1⟩, .get 0 ⟨7, 1⟩, .get 0 ⟨8, 1⟩, .destroy 0, .destroy 1, .destroy 2]

/-- A pool from which values with different ids are got and given up stays canonical. -/
theorem handlePool_canonical_shared :
    AtEveryPoint PoolOp.step (Pools.Canonical 0) Pools.empty demoUses ∧
    ((demoUses.take 3).foldlM (fun s op => PoolOp.step op s) Pools.empty).map (·.slots)
      = some [some ⟨0, 0⟩, some ⟨0, 0⟩, some ⟨1, 0⟩] :=
  ⟨(handlePool_canonical_iff 0 demoUses (by simp [demoUses, PoolOp.Uses])).mpr (by decide),
    by decide⟩

/-- Giving up one of two values with the same id leaves the other one where nobody finds it. -/
theorem handlePool_loses_other :
    ¬AtEveryPoint PoolOp.step (Pools.Canonical 0) Pools.empty
      [.get 0 (⟨7, 1⟩ : Tagged), .get 0 ⟨7, 2⟩, .destroy 0] := by
  intro holds
  obtain ⟨t, runs, canonical⟩ := holds.last
  have ends : ([.get 0 (⟨7, 1⟩ : Tagged), .get 0 ⟨7, 2⟩, .destroy 0].foldlM
      (fun s op => PoolOp.step op s) Pools.empty).map (fun t =>
        (t.slots[1]?, t.shared[1]?, t.lookup 0 ⟨7, 2⟩))
      = some (some (some ⟨1, 0⟩), some ⟨⟨7, 2⟩, 0⟩, some none) := by decide
  rw [runs] at ends
  obtain ⟨slot, inserted, misses⟩ : t.slots[1]? = some (some ⟨1, 0⟩) ∧
      t.shared[1]? = some ⟨⟨7, 2⟩, 0⟩ ∧ t.lookup 0 ⟨7, 2⟩ = some none := by simpa using ends
  obtain ⟨entry, finds, _⟩ := canonical.found 1 ⟨1, 0⟩ ⟨⟨7, 2⟩, 0⟩ ⟨7, 2⟩ slot inserted rfl
  rw [misses] at finds
  cases finds

end Runs

end Dnfs
