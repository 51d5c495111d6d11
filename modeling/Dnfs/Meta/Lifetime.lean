import Dnfs.Meta.Release
import Dnfs.Run.Sequences
import Mathlib.Data.List.Nodup

/-! How long values live that smart pointers share, over any number of pools. -/

namespace Dnfs

open SmartPtrValue

variable {α : Type}

namespace Pools

section Counting

variable {s : Pools α}

/-- One more smart pointer can be counted. -/
def Room (s : Pools α) (ptr : Nat) : Prop := s.count ptr + 1 ≠ 0

/-- A count with room for one more goes up by one. -/
theorem toNat_succ_of_room {ptr : Nat} (room : s.Room ptr) :
    (s.count ptr + 1).toNat = (s.count ptr).toNat + 1 := by
  have bound : (s.count ptr).toNat + 1 ≠ 2 ^ 32 := by
    intro full
    refine room (UInt32.toNat_inj.mp ?_)
    rw [UInt32.toNat_add, UInt32.toNat_one, full]
    rfl
  have small := (s.count ptr).toNat_lt
  rw [UInt32.toNat_add, UInt32.toNat_one, Nat.mod_eq_of_lt]
  omega

end Counting

variable [SmartPtrValue α]

section Lifetime

/-- How many entries for a value the pool has that it was inserted into. -/
def entries (s : Pools α) (ptr : Nat) (shared : Shared α) : Nat :=
  ((s.handlePool shared.home (getId shared.value)).getD []).countP (·.ptr = ptr)

/-- Every value is counted right, and lives just as long as somebody outside holds it. -/
structure Lifetime (s : Pools α) : Prop where
  /-- A count is the number of smart pointers that hold the value, those of its pool included. -/
  counted : ∀ ptr shared, s.read ptr = some shared →
    (s.count ptr).toNat = s.holders ptr + s.entries ptr shared
  /-- No other list of any pool holds it. -/
  elsewhere : ∀ ptr shared pool key list item, s.read ptr = some shared →
    s.handlePool pool key = some list → item ∈ list → item.ptr = ptr →
    pool = shared.home ∧ key = getId shared.value
  /-- It was only ever deleted from its own pool, and with nobody outside left to hold it. -/
  called : ∀ call ∈ s.deleted, call.held = false ∧
    ∃ shared, s.shared[call.ptr]? = some shared ∧ shared.home = call.pool
  /-- It is gone just when nobody outside holds it. -/
  freed : ∀ ptr, ptr < s.shared.length → (ptr ∈ s.freed ↔ s.holders ptr = 0)
  /-- It went once. -/
  once : s.freed.Nodup

/-- What makes it so: counts that never wrapped around. -/
structure Counts (s : Pools α) : Prop extends Kept s where
  counts : ∀ ptr shared, s.read ptr = some shared → (s.count ptr).toNat = s.holders ptr + 1

variable {s : Pools α}

/-- A value has one entry in its pool. -/
theorem Kept.entries_eq (kept : s.Kept) {ptr : Nat} {shared : Shared α}
    (reads : s.read ptr = some shared) : s.entries ptr shared = 1 := by
  obtain ⟨list, keeps, mem⟩ := kept.pooled ptr shared reads
  have only : ∀ item ∈ list, decide (item.ptr = ptr) = true ↔
      (item == ⟨ptr, shared.home⟩) = true := by
    intro item within
    obtain ⟨pool, _⟩ := kept.items _ _ _ _ keeps within
    obtain ⟨other, smartPtrPool⟩ := item
    subst pool
    simp
  rw [entries, keeps, Option.getD_some, List.countP_congr only]
  exact List.count_eq_one_of_mem (kept.nodup _ _ _ keeps) mem

/-- Right counts give every value its lifetime. -/
theorem Counts.lifetime (counts : s.Counts) : s.Lifetime where
  counted := by
    intro ptr shared reads
    rw [counts.counts ptr shared reads, counts.entries_eq reads]
  elsewhere := by
    rintro ptr shared pool key list item reads keeps mem rfl
    obtain ⟨_, other, readsItem, home, id⟩ := counts.items pool key list item keeps mem
    cases reads.symm.trans readsItem
    exact ⟨home.symm, id.symm⟩
  called := counts.called
  freed := by
    intro ptr below
    have held := counts.held ptr
    rw [read] at held
    -- What is held is read, and what is freed is not.
    by_cases gone : ptr ∈ s.freed
    · simp only [gone, if_true, reduceCtorEq, exists_false, false_iff, not_lt,
        Nat.le_zero] at held
      exact iff_of_true gone held
    · simp only [gone, if_false, List.getElem?_eq_getElem below, Option.some.injEq,
        exists_eq', true_iff] at held
      exact iff_of_false gone (Nat.ne_of_gt held)
  once := counts.once

/-- In the beginning there is nothing to count. -/
theorem Counts.empty : (empty : Pools α).Counts where
  toKept := Kept.empty
  counts := by simp [Pools.empty, read]

end Lifetime

section Keeping

variable {s : Pools α} {i : Nat} {item : SmartPtr} {shared : Shared α}

/-- Releasing the last one is reported to its own pool, which keeps nothing else for the id. -/
def Releases (s : Pools α) (i : Nat) : Prop :=
  ∀ item shared, s.slots[i]? = some (some item) → s.read item.ptr = some shared →
    s.count item.ptr - 1 = 1 →
    item.smartPtrPool = shared.home ∧ comporeData shared.value shared.value = true ∧
      s.Apart i shared

/-- An operation that counts within bounds and releases only what it should. -/
def Sound (s : Pools α) : PoolOp α → Prop
  | .push _ _ => True
  | .get pool value => ∀ item, s.lookup pool value = some (some item) → s.Room item.ptr
  | .copy i => ∀ item, s.slots[i]? = some (some item) → s.Room item.ptr
  | .assign i j => ∀ item other, s.slots[i]? = some (some item) →
      s.slots[j]? = some (some other) → item.ptr ≠ other.ptr → s.Releases i ∧ s.Room other.ptr
  | .destroy i => s.Releases i

/-- Changing holders and counts alike keeps the counts right. -/
theorem Counts.recount (kept : s.Counts) {ptr : Nat} {count : UInt32}
    {slots : List (Option SmartPtr)} (alive : 0 < s.holders ptr)
    (others : ∀ other, other ≠ ptr → holdersOf slots other = s.holders other)
    (still : 0 < holdersOf slots ptr) (counted : count.toNat = holdersOf slots ptr + 1) :
    ({ s.setCount ptr count with slots } : Pools α).Counts where
  toKept := kept.toKept.recount alive others still (by rw [← counted, UInt32.ofNat_toNat])
  counts := by
    intro other shared reads
    by_cases same : other = ptr
    · subst same
      exact (congrArg UInt32.toNat (if_pos rfl)).trans counted
    · have before := kept.counts other shared reads
      rw [← others other same] at before
      exact (congrArg UInt32.toNat (if_neg same)).trans before

/-- A copy is counted. -/
theorem Counts.copied (kept : s.Counts) (reads : s.read item.ptr = some shared)
    (room : s.Room item.ptr) : (s.copied item).Counts := by
  have more := holdersOf_append s.slots item
  refine kept.recount ((kept.held _).mp ⟨shared, reads⟩) (fun other differs => ?_) ?_ ?_
  · rw [more, if_neg differs]
    rfl
  · rw [more, if_pos rfl]
    exact Nat.succ_pos _
  · rw [more, if_pos rfl, toNat_succ_of_room room, kept.counts _ _ reads]
    rfl

/-- A new value is counted. -/
theorem Counts.inserted (kept : s.Counts) (pool : Nat) (value : α) :
    (s.inserted pool value).Counts where
  toKept := kept.toKept.inserted pool value
  counts := by
    intro ptr shared reads
    rw [kept.read_inserted] at reads
    rw [count_inserted, holders_inserted]
    by_cases new : ptr = s.shared.length
    · rw [if_pos new, if_pos new, new, kept.holders_new]
      rfl
    · rw [if_neg new] at reads
      simpa [new] using kept.counts ptr shared reads

/-- Destroying a smart pointer keeps the counts right, and takes nothing off any other. -/
theorem Counts.destroy (kept : s.Counts) (at_ : s.slots[i]? = some (some item))
    (releases : s.Releases i) :
    ∃ t, s.destroy i = some t ∧ t.Counts ∧ t.slots = s.slots.set i none ∧
      ∀ other, other ≠ item.ptr → t.count other = s.count other := by
  obtain ⟨shared, reads⟩ := kept.alive at_
  have vacated := holders_vacated at_
  have counted := kept.counts item.ptr shared reads
  have fewer := vacated item.ptr
  rw [if_pos rfl] at fewer
  by_cases one : s.count item.ptr - 1 = 1
  · obtain ⟨home, same, apart⟩ := releases item shared at_ reads one
    have keptLast := kept.toKept.droppedLast at_ reads apart
    refine ⟨_, kept.destroy_last at_ reads one home same apart, ⟨keptLast, ?_⟩, rfl, ?_⟩
    · intro ptr beside readsAfter
      have before : (if ptr = item.ptr then none else s.read ptr) = some beside :=
        (read_free ptr).symm.trans readsAfter
      split at before
      · cases before
      · next differs =>
        have holds := vacated ptr
        rw [if_neg differs] at holds
        have counts := kept.counts ptr beside before
        rw [← holds] at counts
        exact (congrArg UInt32.toNat ((if_neg differs).trans (if_neg differs))).trans counts
    · exact fun other differs => (if_neg differs).trans (if_neg differs)
  · -- The count stands at three or more, so one less is still not the last.
    have less : (s.count item.ptr - 1).toNat = (s.count item.ptr).toNat - 1 :=
      UInt32.toNat_sub_of_le _ _ (UInt32.le_iff_toNat_le.mpr (by rw [counted]; simp))
    have notZero : s.count item.ptr - 1 ≠ 0 := by
      intro zero
      rw [zero, counted, ← fewer] at less
      simp at less
    have several : (s.setSlot i none).holders item.ptr ≠ 0 := by
      intro none
      refine one (UInt32.toNat_inj.mp ?_)
      rw [less, counted, ← fewer, none]
      rfl
    refine ⟨_, destroy_several at_ reads one notZero, ?_, rfl, fun other differs => if_neg differs⟩
    refine kept.recount ((kept.held _).mp ⟨shared, reads⟩) (fun other differs => ?_)
      (Nat.pos_of_ne_zero several) ?_
    · have same := vacated other
      rwa [if_neg differs] at same
    · rw [less, counted, ← fewer]
      rfl

/-- Assigning is destroying, and then counting the other smart pointer in the same place. -/
theorem Counts.assign (kept : s.Counts) {j : Nat} {other : SmartPtr}
    (at_ : s.slots[i]? = some (some item)) (atOther : s.slots[j]? = some (some other))
    (differs : item.ptr ≠ other.ptr) (releases : s.Releases i) (room : s.Room other.ptr) :
    ∃ t, s.assign i j = some t ∧ t.Counts := by
  obtain ⟨t, destroys, keptAfter, slots, counts⟩ := kept.destroy at_ releases
  -- Two smart pointers to different values are not the same.
  have apart : j ≠ i := by
    rintro rfl
    cases at_.symm.trans atOther
    exact differs rfl
  have still : t.slots[j]? = some (some other) := by
    rw [slots]
    exact slot_vacated.mpr ⟨apart, atOther⟩
  have vacant : t.slots[i]? = some none := by
    rw [slots]
    exact List.getElem?_set_self (List.getElem?_eq_some_iff.mp at_).1
  obtain ⟨shared, reads⟩ := keptAfter.alive still
  have roomAfter : t.Room other.ptr := by
    rw [Room, counts other.ptr (Ne.symm differs)]
    exact room
  have filled := holders_filled ⟨other.ptr, item.smartPtrPool⟩ vacant
  refine ⟨(t.setCount other.ptr (t.count other.ptr + 1)).setSlot i
    (some ⟨other.ptr, item.smartPtrPool⟩), ?_, ?_⟩
  · simp only [Pools.assign, at_, atOther, differs, if_false, ← destroy_eq at_, destroys, addCount,
      Option.bind_eq_bind, Option.bind_some, reads, Option.map_some]
    rfl
  · refine keptAfter.recount ((keptAfter.held _).mp ⟨shared, reads⟩) (fun ptr away => ?_) ?_ ?_
    · have same := filled ptr
      rw [if_neg away] at same
      exact same
    · have more := filled other.ptr
      rw [if_pos rfl] at more
      exact Nat.lt_of_lt_of_eq (Nat.succ_pos _) more.symm
    · have more := filled other.ptr
      rw [if_pos rfl] at more
      rw [toNat_succ_of_room roomAfter, keptAfter.counts _ _ reads]
      exact congrArg (· + 1) more.symm

end Keeping

end Pools

section Runs

variable [SmartPtrValue α]

/-- Every sound operation keeps the counts right. -/
theorem Pools.Counts.step {s : Pools α} (kept : s.Counts) {op : PoolOp α} (sound : s.Sound op) :
    ∃ t, op.step s = some t ∧ t.Counts := by
  cases op with
  | push pool value => exact ⟨_, kept.pushFh_eq pool value, kept.inserted pool value⟩
  | get pool value =>
    rcases kept.getFh_cases pool value with ⟨item, finds, gets⟩ | ⟨misses, gets⟩
    · obtain ⟨_, shared, reads, _⟩ := kept.lookup_found finds
      exact ⟨_, gets, kept.copied reads (sound item finds)⟩
    · exact ⟨_, gets, kept.inserted pool value⟩
  | copy i =>
    rcases kept.copySlot_cases i with same | ⟨item, shared, at_, reads, copies⟩
    · exact ⟨s, same, kept⟩
    · exact ⟨_, copies, kept.copied reads (sound item at_)⟩
  | assign i j =>
    -- Only an assignment between two different values changes anything.
    rcases at_ : s.slots[i]? with _ | _ | item
    · exact ⟨s, by simp [PoolOp.step, Pools.assign, at_], kept⟩
    · exact ⟨s, by simp [PoolOp.step, Pools.assign, at_], kept⟩
    · rcases atOther : s.slots[j]? with _ | _ | other
      · exact ⟨s, by simp [PoolOp.step, Pools.assign, at_, atOther], kept⟩
      · exact ⟨s, by simp [PoolOp.step, Pools.assign, at_, atOther], kept⟩
      · by_cases same : item.ptr = other.ptr
        · exact ⟨s, by simp [PoolOp.step, Pools.assign, at_, atOther, same], kept⟩
        · obtain ⟨releases, room⟩ := sound item other at_ atOther same
          exact kept.assign at_ atOther same releases room
  | destroy i =>
    rcases kept.destroy_cases i with same | ⟨item, shared, at_, reads⟩
    · exact ⟨s, same, kept⟩
    · obtain ⟨t, destroys, keptAfter, _⟩ := kept.destroy at_ sound
      exact ⟨t, destroys, keptAfter⟩

/--
Every value is counted right and deleted once, with the last smart pointer outside its pool.

That takes a pool that is told of its own values only, and keeps one of each id, and counts that
do not wrap around.
-/
theorem smartPtr_lifetime (ops : List (PoolOp α))
    (sound : AtEveryStep PoolOp.step Pools.Sound Pools.empty ops) :
    AtEveryPoint PoolOp.step Pools.Lifetime Pools.empty ops := by
  refine sound.atEveryPoint (fun s kept => kept.lifetime) ?_ Pools.Counts.empty
  exact fun s op kept sound => kept.step sound

/-- One value that is copied, and given up twice. -/
theorem smartPtr_lifetime_copied :
    AtEveryPoint PoolOp.step Pools.Lifetime Pools.empty
      [.get 0 (⟨7, 1⟩ : Tagged), .copy 0, .destroy 0, .destroy 1] := by
  refine smartPtr_lifetime [.get 0 (⟨7, 1⟩ : Tagged), .copy 0, .destroy 0, .destroy 1]
    ⟨nofun, fun first gets => ?_⟩
  obtain rfl : Pools.empty.inserted 0 ⟨7, 1⟩ = first := Option.some.inj gets
  refine ⟨fun item at_ => ?_, fun second copies => ?_⟩
  · obtain rfl : ⟨0, 0⟩ = item := Option.some.inj (Option.some.inj at_)
    exact show (2 : UInt32) + 1 ≠ 0 by decide
  obtain rfl : (Pools.empty.inserted 0 ⟨7, 1⟩).copied ⟨0, 0⟩ = second := Option.some.inj copies
  refine ⟨fun item shared at_ _ one => ?_, fun third destroys => ?_⟩
  · -- The first one to go is not the last.
    obtain rfl : ⟨0, 0⟩ = item := Option.some.inj (Option.some.inj at_)
    exact absurd one (by decide)
  obtain rfl : ((Pools.empty.inserted 0 ⟨7, 1⟩).copied ⟨0, 0⟩).dropped 0 0 = third :=
    Option.some.inj destroys
  refine ⟨fun item shared at_ reads _ => ?_, fun _ _ => trivial⟩
  obtain rfl : ⟨0, 0⟩ = item := Option.some.inj (Option.some.inj at_)
  obtain rfl : ⟨⟨7, 1⟩, 0⟩ = shared := Option.some.inj reads
  refine ⟨rfl, by decide, fun j other beside differs atOther => ?_⟩
  match j with
  | 0 => cases atOther
  | 1 => exact absurd rfl differs
  | _ + 2 => cases atOther

/--
A value is reported to a pool it was never in, by a smart pointer it was assigned to.

Another one is never deleted, since its entry was dropped along with one of the same id.
-/
theorem smartPtr_leaks :
    ¬AtEveryPoint PoolOp.step Pools.Lifetime Pools.empty
        [.get 0 (⟨7, 1⟩ : Tagged), .get 1 ⟨8, 2⟩, .assign 0 1, .destroy 1, .destroy 0] ∧
      ¬AtEveryPoint PoolOp.step Pools.Lifetime Pools.empty
        [.get 0 (⟨7, 1⟩ : Tagged), .get 0 ⟨7, 2⟩, .destroy 0, .destroy 1] := by
  -- One value is deleted from another pool, the other one never.
  constructor
  · intro holds
    obtain ⟨t, runs, lifetime⟩ := holds.last
    have ends : ([.get 0 (⟨7, 1⟩ : Tagged), .get 1 ⟨8, 2⟩, .assign 0 1, .destroy 1,
        .destroy 0].foldlM (fun s op => PoolOp.step op s) Pools.empty).map (fun t =>
          (t.deleted.head?, t.shared[1]?)) = some (some ⟨0, 1, false⟩, some ⟨⟨8, 2⟩, 1⟩) := by
      decide
    rw [runs] at ends
    obtain ⟨called, inserted⟩ : t.deleted.head? = some ⟨0, 1, false⟩ ∧
        t.shared[1]? = some ⟨⟨8, 2⟩, 1⟩ := by simpa using ends
    obtain ⟨_, shared, at_, home⟩ := lifetime.called _ (List.mem_of_mem_head? called)
    cases inserted.symm.trans at_
    cases home
  · intro holds
    obtain ⟨t, runs, lifetime⟩ := holds.last
    have ends : ([.get 0 (⟨7, 1⟩ : Tagged), .get 0 ⟨7, 2⟩, .destroy 0, .destroy 1].foldlM
        (fun s op => PoolOp.step op s) Pools.empty).map (fun t =>
          (t.shared.length, t.freed, t.holders 1)) = some (2, [0], 0) := by decide
    rw [runs] at ends
    obtain ⟨length, freed, unheld⟩ : t.shared.length = 2 ∧ t.freed = [0] ∧ t.holders 1 = 0 := by
      simpa using ends
    have gone := (lifetime.freed 1 (by rw [length]; decide)).mpr unheld
    rw [freed] at gone
    exact absurd gone (by decide)

end Runs

end Dnfs
