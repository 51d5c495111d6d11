import Dnfs.Meta.SmartPtrLaws
import Mathlib.Algebra.Order.BigOperators.Group.List
import Mathlib.Algebra.Order.Group.Nat

/-! Releasing smart pointers, down to the last one and the entry of the pool behind it. -/

namespace Dnfs

open SmartPtrValue

namespace Pools

variable {α : Type}

section Releasing

variable {s : Pools α} {i : Nat} {item : SmartPtr} {shared : Shared α}

/-- No count exceeds all of them together. -/
theorem count_le_total {ptr : Nat}
    (reads : s.read ptr = some shared) : (s.count ptr).toNat ≤ s.total := by
  obtain ⟨below, _⟩ := List.getElem?_eq_some_iff.mp (shared_of_read reads).1
  exact List.le_sum_of_mem (List.mem_map.mpr ⟨ptr, List.mem_range.mpr below, rfl⟩)

/-- A list of one thing only, which is in it once. -/
theorem eq_singleton_of_nodup {β : Type} {list : List β} {thing : β} (nodup : list.Nodup)
    (mem : thing ∈ list) (only : ∀ other ∈ list, other = thing) : list = [thing] := by
  match list with
  | [] => cases mem
  | [other] => rw [only other List.mem_cons_self]
  | first :: second :: rest =>
    have same : first = second := (only first (by simp)).trans (only second (by simp)).symm
    simp [same] at nodup

/-- A count that comes down to one stood at two. -/
theorem count_eq_two {ptr : Nat} (one : s.count ptr - 1 = 1) : s.count ptr = 2 := by
  rw [← UInt32.sub_add_cancel (s.count ptr) 1, one]
  rfl

variable [SmartPtrValue α]

/-- No other smart pointer outside holds a value that its pool keeps in the same list. -/
def Apart (s : Pools α) (i : Nat) (shared : Shared α) : Prop :=
  ∀ (j : Nat) (other : SmartPtr) (beside : Shared α), j ≠ i → s.slots[j]? = some (some other) →
    s.read other.ptr = some beside → beside.home = shared.home →
    getId beside.value ≠ getId shared.value

/-- Then the value is held once, and its entry is all that its pool keeps for its id. -/
theorem Kept.alone (kept : s.Kept) (at_ : s.slots[i]? = some (some item))
    (reads : s.read item.ptr = some shared) (apart : s.Apart i shared) :
    s.holders item.ptr = 1 ∧
      s.handlePool shared.home (getId shared.value) = some [⟨item.ptr, shared.home⟩] := by
  have vacated := holders_vacated at_
  -- Whatever else is held in this list would be held from another place.
  have nobody : ∀ ptr beside, s.read ptr = some beside → beside.home = shared.home →
      getId beside.value = getId shared.value → (s.setSlot i none).holders ptr = 0 := by
    intro ptr beside readsBeside home id
    by_contra held
    obtain ⟨j, other, atOther, rfl⟩ := holders_pos.mp (Nat.pos_of_ne_zero held)
    obtain ⟨differs, atOther⟩ := slot_vacated.mp atOther
    exact apart j other beside differs atOther readsBeside home id
  constructor
  · rw [← vacated, nobody item.ptr shared reads rfl rfl, if_pos rfl]
  · obtain ⟨list, keeps, mem⟩ := kept.pooled item.ptr shared reads
    rw [keeps]
    congr 1
    have only : ∀ entry ∈ list, entry = ⟨item.ptr, shared.home⟩ := by
      intro entry within
      obtain ⟨pool, beside, readsBeside, home, id⟩ := kept.items _ _ _ _ keeps within
      have held := (kept.held entry.ptr).mp ⟨beside, readsBeside⟩
      rw [← vacated, nobody entry.ptr beside readsBeside home id] at held
      have same : entry.ptr = item.ptr := by
        by_contra differs
        simp [differs] at held
      obtain ⟨ptr, smartPtrPool⟩ := entry
      subst same pool
      rfl
    exact eq_singleton_of_nodup (kept.nodup _ _ _ keeps) mem only

/-- Releasing a smart pointer whose value can be read takes one off its count. -/
theorem realseAt_succ (depth : Nat) (reads : s.read item.ptr = some shared) :
    realseAt (depth + 1) item s =
      if s.count item.ptr - 1 = 1 then
        deleteItem (realseAt depth) item.smartPtrPool (getId shared.value) item.ptr
          (s.setCount item.ptr (s.count item.ptr - 1))
      else if s.count item.ptr - 1 = 0 then
        some ((s.setCount item.ptr (s.count item.ptr - 1)).free item.ptr)
      else some (s.setCount item.ptr (s.count item.ptr - 1)) := by
  rw [realseAt, realseWith, reads]
  rfl

/-- Destroying a smart pointer releases it once it is gone from its place. -/
theorem destroy_eq (at_ : s.slots[i]? = some (some item)) :
    s.destroy i = realse item (s.setSlot i none) := by
  rw [destroy, at_]

/-- What destroying one of several smart pointers leaves. -/
def dropped (s : Pools α) (i : Nat) (ptr : Nat) : Pools α :=
  (s.setSlot i none).setCount ptr (s.count ptr - 1)

/-- What destroying the last smart pointer leaves. -/
def droppedLast (s : Pools α) (i : Nat) (ptr : Nat) (shared : Shared α) : Pools α :=
  let s := ((s.setSlot i none).setCount ptr 1).note shared.home ptr
  ((s.setCount ptr 0).free ptr).setList shared.home (getId shared.value) none

section Dropped

variable {ptr : Nat} {beside : Shared α}

/-- What can still be read is something else that could be before. -/
theorem read_droppedLast : (s.droppedLast i item.ptr shared).read ptr = some beside ↔
    ptr ≠ item.ptr ∧ s.read ptr = some beside := by
  have after : (s.droppedLast i item.ptr shared).read ptr
      = if ptr = item.ptr then none else s.read ptr := read_free ptr
  rw [after]
  by_cases same : ptr = item.ptr <;> simp [same]

/-- What is still kept is kept for another id, or by another pool. -/
theorem handlePool_droppedLast {pool : Nat} {key : UInt64} {list : List SmartPtr} :
    (s.droppedLast i item.ptr shared).handlePool pool key = some list ↔
      ¬(pool = shared.home ∧ key = getId shared.value) ∧ s.handlePool pool key = some list := by
  have after : (s.droppedLast i item.ptr shared).handlePool pool key
      = if pool = shared.home ∧ key = getId shared.value then none
        else s.handlePool pool key := rfl
  rw [after]
  by_cases here : pool = shared.home ∧ key = getId shared.value <;> simp [here]

/-- What else can be read has its entry in another list. -/
theorem Kept.elsewhere (kept : s.Kept) (at_ : s.slots[i]? = some (some item))
    (apart : s.Apart i shared) (differs : ptr ≠ item.ptr) (reads : s.read ptr = some beside) :
    ¬(beside.home = shared.home ∧ getId beside.value = getId shared.value) := by
  rintro ⟨home, id⟩
  obtain ⟨j, other, atOther, rfl⟩ := holders_pos.mp ((kept.held ptr).mp ⟨beside, reads⟩)
  refine apart j other beside ?_ atOther reads home id
  rintro rfl
  rw [at_] at atOther
  cases atOther
  exact differs rfl

end Dropped

variable (at_ : s.slots[i]? = some (some item)) (reads : s.read item.ptr = some shared)
include at_ reads

/-- With others left, only the count goes down. -/
theorem destroy_several (notOne : s.count item.ptr - 1 ≠ 1)
    (notZero : s.count item.ptr - 1 ≠ 0) : s.destroy i = some (s.dropped i item.ptr) := by
  rw [destroy_eq at_, realse, realseAt_succ _ (by exact reads)]
  exact (if_neg notOne).trans (if_neg notZero)

/-- A count that comes down to one has the value deleted from the pool. -/
theorem destroy_one (one : s.count item.ptr - 1 = 1) :
    s.destroy i = deleteItem (realseAt (s.setSlot i none).total) item.smartPtrPool
      (getId shared.value) item.ptr ((s.setSlot i none).setCount item.ptr 1) := by
  have counted : (s.setSlot i none).count item.ptr - 1 = 1 := one
  rw [destroy_eq at_, realse, realseAt_succ _ (by exact reads), counted]
  exact if_pos rfl

/-- A count that comes down to zero has the value deleted at once. -/
theorem destroy_zero (zero : s.count item.ptr - 1 = 0) :
    s.destroy i = some (((s.setSlot i none).setCount item.ptr 0).free item.ptr) := by
  have counted : (s.setSlot i none).count item.ptr - 1 = 0 := zero
  rw [destroy_eq at_, realse, realseAt_succ _ (by exact reads), counted]
  rfl

variable (kept : s.Kept)
include kept

/-- Holders that are left are counted. -/
theorem Kept.dropped (notOne : s.count item.ptr - 1 ≠ 1) : (s.dropped i item.ptr).Kept := by
  have vacated := holders_vacated at_
  have counted := kept.counted item.ptr shared reads
  have fewer := vacated item.ptr
  rw [if_pos rfl] at fewer
  have less : s.count item.ptr - 1 = UInt32.ofNat ((s.setSlot i none).holders item.ptr + 1) := by
    rw [counted, ← fewer, UInt32.ofNat_add (_ + 1) 1]
    exact UInt32.add_sub_cancel _ _
  refine kept.recount ((kept.held _).mp ⟨shared, reads⟩) (fun other differs => ?_) ?_ less
  · have same := vacated other
    rw [if_neg differs] at same
    exact same
  · -- Without any of them, the count would have come down to one.
    refine Nat.pos_of_ne_zero fun none => notOne ?_
    rw [less]
    exact congrArg (fun holders => UInt32.ofNat (holders + 1)) none

/-- The last one outside its pool takes the value with it. -/
theorem Kept.destroy_last (one : s.count item.ptr - 1 = 1) (home : item.smartPtrPool = shared.home)
    (same : comporeData shared.value shared.value = true) (apart : s.Apart i shared) :
    s.destroy i = some (s.droppedLast i item.ptr shared) := by
  obtain ⟨_, keeps⟩ := kept.alone at_ reads apart
  -- The count stands at two, so there is depth enough to release the entry as well.
  have two := count_eq_two one
  have enough : ((s.setSlot i none).count item.ptr).toNat ≤ (s.setSlot i none).total :=
    count_le_total reads
  have deep : (s.setSlot i none).total = (s.setSlot i none).total - 1 + 1 := by
    have value : ((s.setSlot i none).count item.ptr).toNat = 2 := congrArg UInt32.toNat two
    omega
  -- The entry is the first in its list, and brings the count down to zero.
  have released : realseAt (s.setSlot i none).total ⟨item.ptr, shared.home⟩
      (((s.setSlot i none).setCount item.ptr 1).note shared.home item.ptr)
        = some (((((s.setSlot i none).setCount item.ptr 1).note shared.home item.ptr).setCount
          item.ptr 0).free item.ptr) := by
    have counted : (((s.setSlot i none).setCount item.ptr 1).note shared.home item.ptr).count
        item.ptr = 1 := if_pos rfl
    rw [deep, realseAt_succ _ (by exact reads)]
    simp only [counted]
    rfl
  have lists : (((s.setSlot i none).setCount item.ptr 1).note shared.home item.ptr).handlePool
      shared.home (getId shared.value) = some [⟨item.ptr, shared.home⟩] := keeps
  have readsLast : (((s.setSlot i none).setCount item.ptr 1).note shared.home item.ptr).read
      item.ptr = some shared := reads
  rw [destroy_one at_ reads one, home, deleteItem, lists]
  simp only [deleteData, readsLast, Option.bind_eq_bind, Option.bind_some, same, if_true, released]
  rfl

/-- Nobody holds the value, and all else is held as before. -/
theorem Kept.holders_droppedLast (apart : s.Apart i shared) (ptr : Nat) :
    (s.droppedLast i item.ptr shared).holders ptr
      = if ptr = item.ptr then 0 else s.holders ptr := by
  have fewer := holders_vacated at_ ptr
  show (s.setSlot i none).holders ptr = _
  by_cases same : ptr = item.ptr
  · subst same
    rw [(kept.alone at_ reads apart).1, if_pos rfl] at fewer
    rw [if_pos rfl]
    omega
  · rw [if_neg same] at fewer ⊢
    exact fewer

/-- Only the value that nobody holds any more is gone, with its entry. -/
theorem Kept.droppedLast (apart : s.Apart i shared) : (s.droppedLast i item.ptr shared).Kept := by
  have holds := kept.holders_droppedLast at_ reads apart
  -- Everything else keeps its holders, its count and its entry.
  constructor
  case held =>
    intro ptr
    simp only [read_droppedLast, holds]
    by_cases same : ptr = item.ptr
    · simp [same]
    · simpa [same] using kept.held ptr
  case counted =>
    intro ptr beside read
    obtain ⟨differs, before⟩ := read_droppedLast.mp read
    rw [holds, if_neg differs, ← kept.counted ptr beside before]
    exact (if_neg differs).trans (if_neg differs)
  case pooled =>
    intro ptr beside read
    obtain ⟨differs, before⟩ := read_droppedLast.mp read
    obtain ⟨list, keeps, mem⟩ := kept.pooled ptr beside before
    have away := kept.elsewhere at_ apart differs before
    exact ⟨list, handlePool_droppedLast.mpr ⟨away, keeps⟩, mem⟩
  case nodup =>
    intro pool key list keeps
    exact kept.nodup pool key list (handlePool_droppedLast.mp keeps).2
  case items =>
    intro pool key list entry keeps mem
    obtain ⟨away, keeps⟩ := handlePool_droppedLast.mp keeps
    obtain ⟨home, beside, read, facts⟩ := kept.items pool key list entry keeps mem
    refine ⟨home, beside, read_droppedLast.mpr ⟨fun same => ?_, read⟩, facts⟩
    rw [same, reads] at read
    cases read
    exact away ⟨facts.1.symm, facts.2.symm⟩
  case within =>
    intro ptr gone
    rcases List.mem_cons.mp gone with rfl | before
    · exact (List.getElem?_eq_some_iff.mp (shared_of_read reads).1).1
    · exact kept.within ptr before
  case once => exact List.nodup_cons.mpr ⟨(shared_of_read reads).2, kept.once⟩
  case called =>
    intro call mem
    rcases List.mem_cons.mp mem with rfl | before
    · have unheld := holds item.ptr
      rw [if_pos rfl] at unheld
      refine ⟨?_, shared, (shared_of_read reads).1, rfl⟩
      show decide ((s.droppedLast i item.ptr shared).holders item.ptr ≠ 0) = false
      simp [unheld]
    · exact kept.called call before

end Releasing

section Depth

variable {s : Pools α}

/-- A sum changes by as much as one of its parts, wherever that is. -/
theorem sum_changed {ptrs : List Nat} {ptr : Nat} (nodup : ptrs.Nodup) (mem : ptr ∈ ptrs)
    (f : Nat → Nat) (changed : Nat) :
    (ptrs.map fun other => if other = ptr then changed else f other).sum + f ptr
      = (ptrs.map f).sum + changed := by
  induction ptrs with
  | nil => cases mem
  | cons first rest ih =>
    obtain ⟨fresh, nodupRest⟩ := List.nodup_cons.mp nodup
    by_cases here : first = ptr
    · subst here
      have others : (rest.map fun other => if other = first then changed else f other)
          = rest.map f := by
        refine List.map_congr_left fun other within => if_neg ?_
        rintro rfl
        exact fresh within
      simp only [List.map_cons, List.sum_cons, if_true, others]
      omega
    · have later := ih nodupRest ((List.mem_cons.mp mem).resolve_left (Ne.symm here))
      simp only [List.map_cons, List.sum_cons, here, if_false]
      omega

/-- Storing a count changes all of them together by as much. -/
theorem total_setCount {ptr : Nat} {shared : Shared α} (reads : s.read ptr = some shared)
    (count : UInt32) :
    (s.setCount ptr count).total + (s.count ptr).toNat = s.total + count.toNat := by
  obtain ⟨below, _⟩ := List.getElem?_eq_some_iff.mp (shared_of_read reads).1
  have changed := sum_changed List.nodup_range (List.mem_range.mpr below)
    (fun other => (s.count other).toNat) count.toNat
  have same : (List.range s.shared.length).map (fun other =>
        ((s.setCount ptr count).count other).toNat)
      = (List.range s.shared.length).map fun other =>
        if other = ptr then count.toNat else (s.count other).toNat :=
    List.map_congr_left fun other _ => apply_ite UInt32.toNat _ _ _
  rw [← same] at changed
  exact changed

variable [SmartPtrValue α]

/-- Deleting depends on how entries of the state it starts from are released. -/
theorem deleteItem_congr {first second : SmartPtr → Pools α → Option (Pools α)} {pool ptr : Nat}
    {key : UInt64} (same : ∀ item, first item (s.note pool ptr) = second item (s.note pool ptr)) :
    deleteItem first pool key ptr s = deleteItem second pool key ptr s := by
  have lists : ∀ list, deleteData first ptr list (s.note pool ptr)
      = deleteData second ptr list (s.note pool ptr) := by
    intro list
    induction list with
    | nil => rfl
    | cons item rest ih => simp only [deleteData, same, ih]
  simp only [deleteItem, lists]

/-- Only a count of two has another release nested, which starts from fewer counts. -/
theorem realseWith_congr {first second : SmartPtr → Pools α → Option (Pools α)} (item : SmartPtr)
    (same : ∀ entry t, t.total < s.total → first entry t = second entry t) :
    realseWith first item s = realseWith second item s := by
  cases reads : s.read item.ptr with
  | none =>
    rw [realseWith, realseWith, reads]
    rfl
  | some shared =>
    have fewer := total_setCount reads (s.count item.ptr - 1)
    rw [realseWith, realseWith, reads]
    simp only [Option.bind_eq_bind, Option.bind_some]
    by_cases one : s.count item.ptr - 1 = 1
    · rw [one, count_eq_two one] at fewer
      have fewer : (s.setCount item.ptr 1).total + 2 = s.total + 1 := fewer
      simp only [one, if_true]
      refine deleteItem_congr fun entry => same entry _ ?_
      show (s.setCount item.ptr 1).total < s.total
      omega
    · simp only [one, if_false]

/-- More depth than the counts allow makes no difference. -/
theorem realseAt_enough {depth : Nat} {item : SmartPtr} (enough : s.total < depth) :
    realseAt depth item s = realse item s := by
  induction bound : s.total using Nat.strong_induction_on generalizing s item depth with
  | _ total ih =>
    obtain ⟨depth, rfl⟩ := Nat.exists_eq_add_one.mpr (Nat.zero_lt_of_lt enough)
    refine realseWith_congr item fun entry t fewer => ?_
    rw [ih t.total (bound ▸ fewer) (by omega) rfl, ih t.total (bound ▸ fewer) fewer rfl]

/--
Releasing is the recursion of the source, which ends.

It does not matter what a release would do that is nested as deep as all counts together, as there
is none.
-/
theorem realse_ends (deepest : SmartPtr → Pools α → Option (Pools α)) (s : Pools α)
    (item : SmartPtr) (depth : Nat) (enough : s.total < depth) :
    realse item s = realseWith realse item s ∧
      realseWith^[depth] deepest item s = realse item s := by
  have recurs : ∀ (s : Pools α) item, realse item s = realseWith realse item s :=
    fun s item => realseWith_congr item fun _ _ fewer => realseAt_enough fewer
  refine ⟨recurs s item, ?_⟩
  induction depth generalizing s item with
  | zero => exact absurd enough (Nat.not_lt_zero _)
  | succ depth ih =>
    rw [Function.iterate_succ_apply', recurs s item]
    exact realseWith_congr item fun entry t fewer => ih t entry (by omega)

/-- A value that was got once and is given up is deleted by the release of its entry. -/
theorem realse_ends_nested :
    let s : Pools Tagged := ⟨[⟨⟨7, 1⟩, 0⟩], fun _ => 2, [], fun _ _ => some [⟨0, 0⟩], [], []⟩
    (realseWith^[3] (fun _ s => some s) ⟨0, 0⟩ s).map (·.freed) = some [0] := by
  intro s
  rw [(realse_ends (fun _ s => some s) s ⟨0, 0⟩ 3 (by decide)).2]
  decide

end Depth

section Frame

variable [SmartPtrValue α]

/-- A release that changes neither values nor places. -/
def Framed (release : SmartPtr → Pools α → Option (Pools α)) : Prop :=
  ∀ item s t, release item s = some t → t.shared = s.shared ∧ t.slots = s.slots

variable {release : SmartPtr → Pools α → Option (Pools α)}

/-- Deleting from a list moves no value and no smart pointer. -/
theorem Framed.deleteData (framed : Framed release) {ptr : Nat} {list : List SmartPtr}
    {s t : Pools α} (deletes : deleteData release ptr list s = some t) :
    t.shared = s.shared ∧ t.slots = s.slots := by
  induction list with
  | nil =>
    cases deletes
    exact ⟨rfl, rfl⟩
  | cons item rest ih =>
    simp only [Pools.deleteData, Option.bind_eq_bind, Option.bind_eq_some_iff] at deletes
    obtain ⟨_, _, _, _, deletes⟩ := deletes
    split at deletes
    · exact framed _ _ _ deletes
    · exact ih deletes

/-- Deleting an item drops its list and changes neither values nor places. -/
theorem Framed.deleteItem (framed : Framed release) {pool ptr : Nat} {key : UInt64}
    {s t : Pools α} (deletes : deleteItem release pool key ptr s = some t) :
    t.handlePool pool key = none ∧ t.shared = s.shared ∧ t.slots = s.slots := by
  rw [Pools.deleteItem] at deletes
  split at deletes
  · obtain ⟨u, deletesData, same⟩ := Option.bind_eq_some_iff.mp deletes
    have kept := framed.deleteData deletesData
    cases same
    exact ⟨if_pos ⟨rfl, rfl⟩, kept⟩
  · cases deletes
    exact ⟨if_pos ⟨rfl, rfl⟩, rfl, rfl⟩

/-- Releasing changes neither values nor places, however deep it goes. -/
theorem realseAt_framed (depth : Nat) : Framed (realseAt depth : SmartPtr → Pools α → _) := by
  induction depth with
  | zero => exact fun _ _ _ releases => by cases releases
  | succ depth ih =>
    intro item s t releases
    simp only [realseAt, realseWith, Option.bind_eq_bind, Option.bind_eq_some_iff] at releases
    obtain ⟨shared, _, releases⟩ := releases
    split at releases
    · exact (ih.deleteItem releases).2
    · split at releases
      · cases releases
        exact ⟨rfl, rfl⟩
      · cases releases
        exact ⟨rfl, rfl⟩

end Frame

end Pools

end Dnfs
