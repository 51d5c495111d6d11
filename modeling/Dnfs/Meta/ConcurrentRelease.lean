import Dnfs.Meta.Release
import Dnfs.Run.Sequences

/-! Smart pointers to one value, each destroyed by a thread of its own in any interleaving. -/

namespace Dnfs

open SmartPtrValue

/-- Where a thread stands in the destructor of a smart pointer. -/
inductive ReleasePc where
  /-- The count is about to be printed. -/
  | printing
  /-- The count is about to go down. -/
  | counting
  /-- The count went down, and is about to be compared with one. -/
  | comparing
  /-- It was one, and `delete_item` is about to be called. -/
  | deleting
  /-- It was something else, and is about to be compared with zero. -/
  | rechecking
  /-- It was zero, and the value is about to be deleted. -/
  | freeing
  | done
  deriving DecidableEq, Repr

namespace ReleasePc

/-- The count has yet to go down for this thread. -/
def early : ReleasePc → Bool
  | printing => true
  | counting => true
  | _ => false

/-- The thread calls `delete_item`, if the count is one by now. -/
def pending : ReleasePc → Bool
  | comparing => true
  | deleting => true
  | _ => false

/-- How many turns a thread has left at most. -/
def turns : ReleasePc → Nat
  | printing => 5
  | counting => 4
  | comparing => 3
  | deleting => 2
  | rechecking => 2
  | freeing => 1
  | done => 0

end ReleasePc

/-- How many smart pointers outside are this one. -/
def Pools.copies {α : Type} (s : Pools α) (item : SmartPtr) : Nat := s.slots.count (some item)

/-- The pools, and every thread that destroys a smart pointer to the value. -/
structure ReleaseState (α : Type) where
  pools : Pools α
  pcs : List ReleasePc

namespace ReleaseState

variable {α : Type}

/-- A thread goes on to another place. -/
def move (s : ReleaseState α) (i : Nat) (pc : ReleasePc) : ReleaseState α :=
  { s with pcs := s.pcs.set i pc }

/-- All smart pointers outside that are one and the same are about to be destroyed. -/
def start (pools : Pools α) (item : SmartPtr) : ReleaseState α where
  pools := { pools with slots := pools.slots.map fun slot => slot.filter (· ≠ item) }
  pcs := List.replicate (pools.copies item) .printing

/-- How many threads have yet to count down. -/
def early (s : ReleaseState α) : Nat := s.pcs.countP ReleasePc.early

/-- How many threads call `delete_item`, if the count is one by now. -/
def pending (s : ReleaseState α) : Nat := s.pcs.countP ReleasePc.pending

/-- How many turns a thread has left at most. -/
def turns (i : Nat) (s : ReleaseState α) : Nat := (s.pcs[i]?).elim 0 ReleasePc.turns

section Moving

variable {s : ReleaseState α} {i : Nat} {pc : ReleasePc}

/-- A move changes how many are early by the one that moves. -/
theorem early_move (at_ : s.pcs[i]? = some pc) (next : ReleasePc) :
    (s.move i next).early + (if pc.early then 1 else 0)
      = s.early + if next.early then 1 else 0 := countP_set_add _ at_ next

/-- It changes how many are pending in the same way. -/
theorem pending_move (at_ : s.pcs[i]? = some pc) (next : ReleasePc) :
    (s.move i next).pending + (if pc.pending then 1 else 0)
      = s.pending + if next.pending then 1 else 0 := countP_set_add _ at_ next

/-- A thread that goes on to where it has fewer turns left used one up, and nobody else did. -/
theorem turns_move (at_ : s.pcs[i]? = some pc) {next : ReleasePc} (fewer : next.turns < pc.turns)
    (j : Nat) : (s.move i next).turns j ≤ s.turns j - if i = j then 1 else 0 := by
  obtain ⟨within, _⟩ := List.getElem?_eq_some_iff.mp at_
  by_cases same : i = j
  · subst same
    have after : (s.move i next).turns i = next.turns := by simp [turns, move, within]
    have before : s.turns i = pc.turns := by simp [turns, at_]
    rw [after, before, if_pos rfl]
    omega
  · have others : (s.move i next).turns j = s.turns j := by simp [turns, move, same]
    rw [others, if_neg same]
    exact Nat.le_refl _

/-- Whoever is counted somewhere else is not done. -/
theorem undone_of_countP {here : ReleasePc → Bool}
    (elsewhere : here .done = false) (counted : 0 < s.pcs.countP here) :
    ∃ pc ∈ s.pcs, pc ≠ .done := by
  obtain ⟨pc, mem, within⟩ := List.countP_pos_iff.mp counted
  refine ⟨pc, mem, ?_⟩
  rintro rfl
  rw [elsewhere] at within
  cases within

end Moving

variable [SmartPtrValue α]

/-- What the next turn of a thread does to the pools, and where it leaves the thread. -/
def act (item : SmartPtr) (shared : Shared α) (pools : Pools α) :
    ReleasePc → Option (Pools α × ReleasePc)
  | .printing => some (pools, .counting)
  | .counting => some (pools.setCount item.ptr (pools.count item.ptr - 1), .comparing)
  | .comparing => some (pools, if pools.count item.ptr = 1 then .deleting else .rechecking)
  | .deleting =>
    (pools.deleteItem Pools.realse item.smartPtrPool (getId shared.value) item.ptr).map (·, .done)
  | .rechecking => some (pools, if pools.count item.ptr = 0 then .freeing else .done)
  | .freeing => some (pools.free item.ptr, .done)
  | .done => some (pools, .done)

/-- One thread takes its next turn. Touching what was deleted is undefined. -/
def step (item : SmartPtr) (i : Nat) (s : ReleaseState α) : Option (ReleaseState α) :=
  match s.pcs[i]? with
  | none => some s
  | some .done => some s
  | some pc => do
    let shared ← s.pools.read item.ptr
    let (pools, next) ← act item shared s.pools pc
    return { s.move i next with pools }

variable {item : SmartPtr} {i : Nat} {s : ReleaseState α} {pc : ReleasePc}

/-- A thread that is not done touches the value. -/
theorem step_busy (at_ : s.pcs[i]? = some pc) (busy : pc ≠ .done) :
    s.step item i = (s.pools.read item.ptr).bind fun shared =>
      (act item shared s.pools pc).bind fun (pools, next) =>
        some { s.move i next with pools } := by
  cases pc with
  | done => exact absurd rfl busy
  | _ =>
    simp only [step, at_]
    rfl

/-- A step does what the release does at its place. -/
theorem step_acts {shared : Shared α} {pools : Pools α} {next : ReleasePc}
    (at_ : s.pcs[i]? = some pc) (busy : pc ≠ .done) (reads : s.pools.read item.ptr = some shared)
    (acts : act item shared s.pools pc = some (pools, next)) :
    s.step item i = some { s.move i next with pools } := by
  rw [step_busy at_ busy, reads, Option.bind_some, acts, Option.bind_some]

/-- Whoever is done stays so. -/
theorem step_idle (idle : ∀ pc, s.pcs[i]? = some pc → pc = .done) : s.step item i = some s := by
  cases at_ : s.pcs[i]? with
  | none => simp only [step, at_]
  | some pc =>
    obtain rfl := idle pc at_
    simp only [step, at_]

end ReleaseState

namespace Pools

variable {α : Type} [SmartPtrValue α] {s : Pools α} {item : SmartPtr} {shared : Shared α}

/-- A value can be read, and is kept by the pool that a smart pointer to it reports to. -/
def Pooled (s : Pools α) (item : SmartPtr) : Prop :=
  ∃ shared, s.read item.ptr = some shared ∧
    s.lookup item.smartPtrPool shared.value = some (some item)

/--
Smart pointers outside hold a value, and are counted along with the entry of its pool.

As no other is counted, all that hold the value name the same pool.
-/
structure Held (s : Pools α) (item : SmartPtr) : Prop where
  some : 0 < s.copies item
  counted : (s.count item.ptr).toNat = s.copies item + 1
  pooled : s.Pooled item

/-- How often `delete_item` was called for a value. -/
def deletions (s : Pools α) (ptr : Nat) : Nat := s.deleted.countP (·.ptr = ptr)

/-- What deleting the entry of a value leaves when that is the last to hold it. -/
def removed (s : Pools α) (item : SmartPtr) (shared : Shared α) : Pools α :=
  (((s.note item.smartPtrPool item.ptr).setCount item.ptr 0).free item.ptr).setList
    item.smartPtrPool (getId shared.value) none

/-- Searching looks at nothing but what can be read. -/
theorem searchData_congr {t : Pools α} (same : t.read = s.read) (searched : α)
    (list : List SmartPtr) : t.searchData searched list = s.searchData searched list := by
  induction list with
  | nil => rfl
  | cons first rest ih => simp only [searchData, same, ih]

/-- Only what can be read and what the pools keep matters. -/
theorem Pooled.congr {t : Pools α} (pooled : s.Pooled item) (reads : t.read = s.read)
    (lists : t.handlePool = s.handlePool) : t.Pooled item := by
  obtain ⟨shared, readsBefore, finds⟩ := pooled
  refine ⟨shared, reads ▸ readsBefore, ?_⟩
  rw [← finds, lookup, lookup, lists]
  simp only [searchData_congr reads]

/-- Deleting releases the entry that searching finds. -/
theorem deleteData_found {release : SmartPtr → Pools α → Option (Pools α)} {ptr : Nat}
    {list : List SmartPtr} (reads : s.read ptr = some shared)
    (finds : s.searchData shared.value list = some (some item)) :
    deleteData release ptr list s = release item s := by
  induction list with
  | nil => cases finds
  | cons first rest ih =>
    simp only [searchData, Option.bind_eq_bind, Option.bind_eq_some_iff] at finds
    obtain ⟨other, readsOther, finds⟩ := finds
    simp only [deleteData, reads, readsOther, Option.bind_eq_bind, Option.bind_some]
    split at finds
    · next same =>
      cases finds
      exact if_pos same
    · next differs => exact (if_neg differs).trans (ih finds)

/-- With a count of one, the entry takes the value along. -/
theorem deleteItem_last (reads : s.read item.ptr = some shared)
    (finds : s.lookup item.smartPtrPool shared.value = some (some item))
    (one : s.count item.ptr = 1) :
    deleteItem realse item.smartPtrPool (getId shared.value) item.ptr s
      = some (s.removed item shared) := by
  rw [lookup] at finds
  split at finds
  · next list keeps =>
    have keepsNoted : (s.note item.smartPtrPool item.ptr).handlePool item.smartPtrPool
        (getId shared.value) = some list := keeps
    have readsNoted : (s.note item.smartPtrPool item.ptr).read item.ptr = some shared := reads
    have findsNoted : (s.note item.smartPtrPool item.ptr).searchData shared.value list
        = some (some item) := (searchData_congr (read_note _) _ _).trans finds
    have counted : (s.note item.smartPtrPool item.ptr).count item.ptr = 1 := one
    simp only [deleteItem, keepsNoted, deleteData_found readsNoted findsNoted, realse,
      realseAt_succ _ readsNoted, counted]
    rfl
  · cases finds

/-- What is removed is deleted. -/
theorem mem_freed_removed (s : Pools α) (item : SmartPtr) (shared : Shared α) :
    item.ptr ∈ (s.removed item shared).freed := List.mem_cons_self

/-- It is deleted this once. -/
theorem freed_removed (reads : s.read item.ptr = some shared) :
    (s.removed item shared).freed.count item.ptr = 1 := by
  show (item.ptr :: s.freed).count item.ptr = 1
  rw [List.count_cons_self, List.count_eq_zero_of_not_mem (shared_of_read reads).2]

/-- It is deleted once more. -/
theorem deletions_removed (s : Pools α) (item : SmartPtr) (shared : Shared α) :
    (s.removed item shared).deletions item.ptr = s.deletions item.ptr + 1 :=
  List.countP_cons_of_pos (by simp)

end Pools

namespace ReleaseState

variable {α : Type} [SmartPtrValue α] {s t : ReleaseState α} {item : SmartPtr} {i : Nat}

section Alive

/-- The value is still there, counted for every thread that has yet to count down and its pool. -/
structure Alive (item : SmartPtr) (s : ReleaseState α) : Prop where
  pooled : s.pools.Pooled item
  counted : (s.pools.count item.ptr).toNat = s.early + 1
  /-- A count of zero is never seen. -/
  unfreed : .freeing ∉ s.pcs
  /-- A count of one is seen when everyone has counted down. -/
  waits : 0 < s.early → .deleting ∉ s.pcs

/-- What a turn does as long as the value is there. -/
inductive Took (item : SmartPtr) (i : Nat) (s : ReleaseState α) : ReleaseState α → Prop where
  | idles : (∀ pc, s.pcs[i]? = some pc → pc = .done) → Took item i s s
  | prints : s.pcs[i]? = some .printing → Took item i s (s.move i .counting)
  | counts : s.pcs[i]? = some .counting → Took item i s { s.move i .comparing with
      pools := s.pools.setCount item.ptr (s.pools.count item.ptr - 1) }
  | findsOne : s.pcs[i]? = some .comparing → s.early = 0 → Took item i s (s.move i .deleting)
  | findsMore : s.pcs[i]? = some .comparing → 0 < s.early → Took item i s (s.move i .rechecking)
  | deletes (shared : Shared α) : s.pcs[i]? = some .deleting → s.early = 0 →
      s.pools.read item.ptr = some shared →
      Took item i s { s.move i .done with pools := s.pools.removed item shared }
  | rechecks : s.pcs[i]? = some .rechecking → Took item i s (s.move i .done)

/-- The count is one just when everyone has counted down. -/
theorem Alive.count_eq_one (alive : s.Alive item) : s.pools.count item.ptr = 1 ↔ s.early = 0 := by
  have counted := alive.counted
  constructor
  · intro one
    rw [one] at counted
    exact Nat.succ.inj counted.symm
  · intro none
    rw [none] at counted
    exact UInt32.toNat_inj.mp counted

/-- As long as the value is there, every turn is defined. -/
theorem Alive.step (alive : s.Alive item) (i : Nat) :
    ∃ t, s.step item i = some t ∧ Took item i s t := by
  obtain ⟨shared, reads, finds⟩ := alive.pooled
  cases at_ : s.pcs[i]? with
  | none =>
    have idle : ∀ pc, s.pcs[i]? = some pc → pc = .done := by simp [at_]
    exact ⟨s, step_idle idle, .idles idle⟩
  | some pc =>
    -- While the value is alive, nobody is about to free it, and no count is zero.
    cases pc with
    | printing => exact ⟨_, step_acts at_ (by simp) reads rfl, .prints at_⟩
    | counting => exact ⟨_, step_acts at_ (by simp) reads rfl, .counts at_⟩
    | comparing =>
      by_cases one : s.pools.count item.ptr = 1
      · exact ⟨_, step_acts at_ (by simp) reads (by rw [act, if_pos one]),
          .findsOne at_ (alive.count_eq_one.mp one)⟩
      · exact ⟨_, step_acts at_ (by simp) reads (by rw [act, if_neg one]),
          .findsMore at_ (Nat.pos_of_ne_zero fun none => one (alive.count_eq_one.mpr none))⟩
    | deleting =>
      have none : s.early = 0 := by
        by_contra some
        exact alive.waits (Nat.pos_of_ne_zero some) (List.mem_of_getElem? at_)
      have deletes := Pools.deleteItem_last reads finds (alive.count_eq_one.mpr none)
      exact ⟨_, step_acts at_ (by simp) reads (by rw [act, deletes]; rfl),
        .deletes shared at_ none reads⟩
    | rechecking =>
      have notZero : s.pools.count item.ptr ≠ 0 := by
        intro zero
        have counted := alive.counted
        rw [zero] at counted
        cases counted
      exact ⟨_, step_acts at_ (by simp) reads (by rw [act, if_neg notZero]), .rechecks at_⟩
    | freeing => exact absurd (List.mem_of_getElem? at_) alive.unfreed
    | done =>
      have idle : ∀ pc, s.pcs[i]? = some pc → pc = .done := by simp [at_]
      exact ⟨s, step_idle idle, .idles idle⟩

variable {pc : ReleasePc}

/-- Going on without counting down leaves the value there. -/
theorem Alive.moved (alive : s.Alive item) (at_ : s.pcs[i]? = some pc) {next : ReleasePc}
    (same : pc.early = next.early) (unfreed : next ≠ .freeing)
    (waits : next = .deleting → s.early = 0) : (s.move i next).Alive item := by
  have early : (s.move i next).early = s.early := by
    have moved := early_move at_ next
    rw [same] at moved
    omega
  refine ⟨alive.pooled, early ▸ alive.counted, fun freeing => ?_, fun some deleting => ?_⟩
  · rcases List.mem_or_eq_of_mem_set freeing with before | rfl
    · exact alive.unfreed before
    · exact unfreed rfl
  · rw [early] at some
    rcases List.mem_or_eq_of_mem_set deleting with before | rfl
    · exact alive.waits some before
    · exact Nat.ne_of_gt some (waits rfl)

/-- So does counting down. -/
theorem Alive.counts (alive : s.Alive item) (at_ : s.pcs[i]? = some .counting) :
    ({ s.move i .comparing with
      pools := s.pools.setCount item.ptr (s.pools.count item.ptr - 1) } : ReleaseState α).Alive
        item := by
  have early : (s.move i .comparing).early + 1 = s.early := early_move at_ .comparing
  refine ⟨alive.pooled.congr rfl rfl, ?_, fun freeing => ?_, fun _ deleting => ?_⟩
  · have counted := alive.counted
    show (if item.ptr = item.ptr then s.pools.count item.ptr - 1 else _).toNat
      = (s.move i .comparing).early + 1
    rw [if_pos rfl, UInt32.toNat_sub_of_le _ _ (UInt32.le_iff_toNat_le.mpr (by simp; omega))]
    simp only [UInt32.reduceToNat]
    omega
  · rcases List.mem_or_eq_of_mem_set freeing with before | new
    · exact alive.unfreed before
    · cases new
  · rcases List.mem_or_eq_of_mem_set deleting with before | new
    · exact alive.waits (by omega) before
    · cases new

end Alive

section Orderly

/--
The turn leaves nobody behind who looks at the count too late.

The last to count down waits for those that are about to compare the count with one.
The one to call `delete_item` waits for those that are about to compare it with zero.
-/
def InOrder (item : SmartPtr) (s : ReleaseState α) (i : Nat) : Prop :=
  (s.pcs[i]? = some .counting → s.pools.count item.ptr = 2 → .comparing ∉ s.pcs) ∧
    (s.pcs[i]? = some .deleting → .rechecking ∉ s.pcs)

instance (s : ReleaseState α) (i : Nat) : Decidable (s.InOrder item i) :=
  inferInstanceAs (Decidable (_ ∧ _))

/-- The value is there, and one thread will delete it once everyone has counted down. -/
structure Single (item : SmartPtr) (calls : Nat) (s : ReleaseState α) : Prop
    extends Alive item s where
  calls : s.pools.deletions item.ptr = calls
  single : s.early = 0 → s.pending = 1

/-- Every smart pointer is destroyed, and the value was deleted once. -/
structure Released (item : SmartPtr) (calls : Nat) (s : ReleaseState α) : Prop where
  all : ∀ pc ∈ s.pcs, pc = .done
  freed : s.pools.freed.count item.ptr = 1
  calls : s.pools.deletions item.ptr = calls + 1

/-- Somebody is going to look at the count when it is too late. -/
inductive Spoilt (item : SmartPtr) (s : ReleaseState α) : Prop where
  | crowded : s.Alive item → s.early = 0 → 2 ≤ s.pending → Spoilt item s
  | dangling : item.ptr ∈ s.pools.freed → (∃ pc ∈ s.pcs, pc ≠ .done) → Spoilt item s

variable {calls : Nat}

/-- Whoever has counted down, is not pending and sees no zero, is done or looks once more. -/
theorem Alive.settled (alive : s.Alive item) (none : s.early = 0) {pc : ReleasePc}
    (mem : pc ∈ s.pcs) : pc.pending = true ∨ pc = .rechecking ∨ pc = .done := by
  have late := List.countP_eq_zero.mp none pc mem
  cases pc with
  | printing | counting => exact absurd rfl late
  | comparing => exact .inl rfl
  | deleting => exact .inl rfl
  | rechecking => exact .inr (.inl rfl)
  | freeing => exact absurd mem alive.unfreed
  | done => exact .inr (.inr rfl)

/-- Going on to where a thread is counted the same leaves one of them to delete the value. -/
theorem Single.moved (single : s.Single item calls) {pc next : ReleasePc}
    (at_ : s.pcs[i]? = some pc) (sameEarly : pc.early = next.early)
    (samePending : pc.pending = next.pending) (unfreed : next ≠ .freeing)
    (waits : next = .deleting → s.early = 0) : (s.move i next).Single item calls := by
  refine ⟨single.toAlive.moved at_ sameEarly unfreed waits, single.calls, fun none => ?_⟩
  have early := early_move at_ next
  have pending := pending_move at_ next
  rw [sameEarly] at early
  rw [samePending] at pending
  have one := single.single (by omega)
  omega

/-- A turn in order leaves one thread to delete the value, or it was this turn that did. -/
theorem Single.took (single : s.Single item calls) (took : Took item i s t)
    (inOrder : s.InOrder item i) : t.Single item calls ∨ t.Released item calls := by
  have alive := single.toAlive
  cases took with
  | idles => exact .inl single
  | prints at_ => exact .inl (single.moved at_ rfl rfl (by simp) (by simp))
  | counts at_ =>
    refine .inl ⟨alive.counts at_, single.calls, fun none => ?_⟩
    have early : (s.move i .comparing).early + 1 = s.early := early_move at_ .comparing
    have pending : (s.move i .comparing).pending = s.pending + 1 := pending_move at_ .comparing
    have last : (s.move i .comparing).early = 0 := none
    -- Nobody compares, and nobody deletes before everyone has counted down.
    have two : s.pools.count item.ptr = 2 := by
      refine UInt32.toNat_inj.mp ?_
      rw [alive.counted]
      simp only [UInt32.reduceToNat]
      omega
    have nobody : s.pending = 0 := by
      refine List.countP_eq_zero.mpr fun pc mem waiting => ?_
      cases pc with
      | comparing => exact inOrder.1 at_ two mem
      | deleting => exact alive.waits (by omega) mem
      | _ => cases waiting
    show (s.move i .comparing).pending = 1
    omega
  | findsOne at_ none => exact .inl (single.moved at_ rfl rfl (by simp) fun _ => none)
  | findsMore at_ some =>
    refine .inl ⟨alive.moved at_ rfl (by simp) (by simp), single.calls, fun none => ?_⟩
    have early : (s.move i .rechecking).early = s.early := early_move at_ .rechecking
    omega
  | deletes shared at_ none reads =>
    refine .inr ⟨fun pc mem => ?_, Pools.freed_removed reads, ?_⟩
    · have pending : (s.move i .done).pending + 1 = s.pending := pending_move at_ .done
      have one := single.single none
      -- Nobody else is pending or about to look once more.
      have nobody : (s.move i .done).pending = 0 := by omega
      rcases List.mem_or_eq_of_mem_set mem with before | rfl
      · rcases alive.settled none before with waiting | rfl | rfl
        · exact absurd waiting (List.countP_eq_zero.mp nobody pc mem)
        · exact absurd before (inOrder.2 at_)
        · rfl
      · rfl
    · rw [← single.calls]
      exact Pools.deletions_removed s.pools item shared
  | rechecks at_ => exact .inl (single.moved at_ rfl rfl (by simp) (by simp))

/-- Where everyone is done, a turn does nothing. -/
theorem Released.step (released : s.Released item calls) (i : Nat) : s.step item i = some s :=
  step_idle fun pc at_ => released.all pc (List.mem_of_getElem? at_)

/-- A turn out of order leaves somebody to look at the count too late. -/
theorem Single.spoils (single : s.Single item calls) (took : Took item i s t)
    (disorder : ¬s.InOrder item i) : t.Spoilt item := by
  have alive := single.toAlive
  -- Only counting down and deleting can be out of order.
  have turn : s.pcs[i]? = some .counting ∨ s.pcs[i]? = some .deleting := by
    by_contra neither
    obtain ⟨notCounting, notDeleting⟩ := not_or.mp neither
    exact disorder ⟨fun counting => absurd counting notCounting,
      fun deleting => absurd deleting notDeleting⟩
  cases took with
  | idles done =>
    rcases turn with at_ | at_ <;> cases done _ at_
  | counts at_ =>
    have other : s.pools.count item.ptr = 2 ∧ .comparing ∈ s.pcs := by
      by_contra fails
      exact disorder ⟨fun _ two mem => fails ⟨two, mem⟩, by simp [at_]⟩
    have early : (s.move i .comparing).early + 1 = s.early := early_move at_ .comparing
    have pending : (s.move i .comparing).pending = s.pending + 1 := pending_move at_ .comparing
    have counted := alive.counted
    rw [other.1] at counted
    simp only [UInt32.reduceToNat] at counted
    have waiting : 0 < s.pending := List.countP_pos_iff.mpr ⟨_, other.2, rfl⟩
    refine .crowded (alive.counts at_) ?_ ?_
    · show (s.move i .comparing).early = 0
      omega
    · show 2 ≤ (s.move i .comparing).pending
      omega
  | deletes shared at_ =>
    have other : .rechecking ∈ s.pcs := by
      by_contra fails
      exact disorder ⟨by simp [at_], fun _ => fails⟩
    exact .dangling (Pools.mem_freed_removed _ _ _)
      ⟨_, mem_set_of_ne at_ other (by simp) .done, by simp⟩
  | prints at_ | findsOne at_ | findsMore at_ | rechecks at_ => simp [at_] at turn

/-- Nobody gets past what was deleted. -/
theorem step_dangling (freed : item.ptr ∈ s.pools.freed) (takes : s.step item i = some t) :
    t = s := by
  by_cases idle : ∀ pc, s.pcs[i]? = some pc → pc = .done
  · exact Option.some.inj (takes.symm.trans (step_idle idle))
  · obtain ⟨pc, at_, busy⟩ : ∃ pc, s.pcs[i]? = some pc ∧ pc ≠ .done := by simpa using idle
    have gone : s.pools.read item.ptr = none := by simp [Pools.read, freed]
    rw [step_busy at_ busy, gone] at takes
    cases takes

/-- Whatever turn is taken, somebody is still going to look at the count too late. -/
theorem Spoilt.step (spoilt : s.Spoilt item) (takes : s.step item i = some t) : t.Spoilt item := by
  cases spoilt with
  | dangling freed undone =>
    obtain rfl := step_dangling freed takes
    exact .dangling freed undone
  | crowded alive none two =>
    obtain ⟨next, takesNext, took⟩ := alive.step i
    obtain rfl : t = next := Option.some.inj (takes.symm.trans takesNext)
    have late : ∀ pc ∈ s.pcs, ¬pc.early = true := List.countP_eq_zero.mp none
    cases took with
    | idles => exact .crowded alive none two
    | prints at_ | counts at_ => exact absurd rfl (late _ (List.mem_of_getElem? at_))
    | findsMore at_ some => omega
    | findsOne at_ =>
      have early : (s.move i .deleting).early = s.early := early_move at_ .deleting
      have pending : (s.move i .deleting).pending + 1 = s.pending + 1 :=
        pending_move at_ .deleting
      exact .crowded (alive.moved at_ rfl (by simp) fun _ => none) (by omega) (by omega)
    | rechecks at_ =>
      have early : (s.move i .done).early = s.early := early_move at_ .done
      have pending : (s.move i .done).pending = s.pending := pending_move at_ .done
      exact .crowded (alive.moved at_ rfl (by simp) (by simp)) (by omega) (by omega)
    | deletes shared at_ =>
      -- The value is gone, and the other one that is pending finds it so.
      have pending : (s.move i .done).pending + 1 = s.pending := pending_move at_ .done
      have other : 0 < (s.move i .done).pending := by omega
      exact .dangling (Pools.mem_freed_removed _ _ _) (undone_of_countP rfl other)

/-- So not everyone gets done. -/
theorem Spoilt.undone (spoilt : s.Spoilt item) : ∃ pc ∈ s.pcs, pc ≠ .done := by
  cases spoilt with
  | dangling _ undone => exact undone
  | crowded _ _ two =>
    have other : 0 < s.pending := by omega
    exact undone_of_countP rfl other

/-- Neither is everyone done as long as the value is there. -/
theorem Single.undone (single : s.Single item calls) : ∃ pc ∈ s.pcs, pc ≠ .done := by
  by_cases none : s.early = 0
  · have one : 0 < s.pending := by
      rw [single.single none]
      exact Nat.one_pos
    exact undone_of_countP rfl one
  · exact undone_of_countP rfl (Nat.pos_of_ne_zero none)

end Orderly

section Running

/-- Whatever a turn does, it leaves fewer of them. -/
theorem act_turns {shared : Shared α} {pools after : Pools α} {pc next : ReleasePc}
    (acts : act item shared pools pc = some (after, next)) (busy : pc ≠ .done) :
    next.turns < pc.turns := by
  cases pc with
  | done => exact absurd rfl busy
  | deleting =>
    obtain ⟨_, _, ⟨⟩⟩ := Option.map_eq_some_iff.mp acts
    decide
  | comparing | rechecking =>
    cases acts
    split <;> decide
  | printing | counting | freeing =>
    cases acts
    decide

/-- A turn uses up one of those its thread has left, and none of the others'. -/
theorem step_turns (takes : s.step item i = some t) (j : Nat) :
    t.turns j ≤ s.turns j - if i = j then 1 else 0 := by
  by_cases idle : ∀ pc, s.pcs[i]? = some pc → pc = .done
  · obtain rfl : s = t := Option.some.inj ((step_idle idle).symm.trans takes)
    by_cases same : i = j
    · subst same
      have none : s.turns i = 0 := by
        cases at_ : s.pcs[i]? with
        | none => simp [turns, at_]
        | some pc => simp [turns, at_, idle pc at_, ReleasePc.turns]
      omega
    · rw [if_neg same]
      exact Nat.le_refl _
  · obtain ⟨pc, at_, busy⟩ : ∃ pc, s.pcs[i]? = some pc ∧ pc ≠ .done := by simpa using idle
    rw [step_busy at_ busy] at takes
    obtain ⟨shared, _, takes⟩ := Option.bind_eq_some_iff.mp takes
    obtain ⟨⟨pools, next⟩, acts, ⟨⟩⟩ := Option.bind_eq_some_iff.mp takes
    exact turns_move at_ (act_turns acts busy) j

/-- In the beginning nothing was deleted yet. -/
theorem start_single {pools : Pools α} (held : pools.Held item) :
    (start pools item).Single item (pools.deletions item.ptr) := by
  have early : (start pools item).early = pools.copies item := by
    rw [ReleaseState.early, start, List.countP_replicate]
    exact if_pos rfl
  have printing : ∀ pc ∈ (start pools item).pcs, pc = .printing :=
    fun pc mem => List.eq_of_mem_replicate mem
  refine ⟨⟨held.pooled.congr rfl rfl, ?_, fun mem => ?_, fun _ mem => ?_⟩, rfl, fun none => ?_⟩
  · rw [early]
    exact held.counted
  · cases printing _ mem
  · cases printing _ mem
  · have some := held.some
    omega

/-- With five turns for everyone, a run that is defined gets everyone done. -/
theorem start_done {pools : Pools α} {schedule : List Nat}
    (complete : ∀ i < pools.copies item, 5 ≤ schedule.count i)
    (runs : schedule.foldlM (fun s i => step item i s) (start pools item) = some t) :
    ∀ pc ∈ t.pcs, pc = .done := by
  intro pc mem
  obtain ⟨i, at_⟩ := List.getElem?_of_mem mem
  have left := rank_le_of_run
    (fun s j t (takes : s.step item j = some t) => step_turns takes i) runs
  have turns : t.turns i = pc.turns := by simp [ReleaseState.turns, at_]
  -- Five turns are all that a thread has to take.
  have none : pc.turns = 0 := by
    by_cases within : i < pools.copies item
    · have first : (start pools item).turns i = 5 := by
        simp [ReleaseState.turns, start, within, ReleasePc.turns]
      have enough := complete i within
      omega
    · have first : (start pools item).turns i = 0 := by
        simp [ReleaseState.turns, start, within]
      omega
  cases pc with
  | done => rfl
  | _ => cases none

end Running

end ReleaseState

open ReleaseState

/--
Whichever way the threads interleave, the value is deleted once and nobody touches it afterwards,
just when every turn is taken in order.
-/
theorem smartPtr_releasedOnce_iff {α : Type} [SmartPtrValue α] (pools : Pools α) (item : SmartPtr)
    (held : pools.Held item) (schedule : List Nat)
    (complete : ∀ i < pools.copies item, 5 ≤ schedule.count i) :
    (∃ t, schedule.foldlM (fun s i => step item i s) (start pools item) = some t ∧
        t.pools.deletions item.ptr = pools.deletions item.ptr + 1 ∧
        t.pools.freed.count item.ptr = 1) ↔
      AtEveryStep (step item) (InOrder item) (start pools item) schedule := by
  -- While turns are in order, one thread is to delete the value or has done so.
  let inv (s : ReleaseState α) : Prop :=
    s.Single item (pools.deletions item.ptr) ∨ s.Released item (pools.deletions item.ptr)
  have keeps : ∀ s i, inv s → s.InOrder item i → ∃ t, s.step item i = some t ∧ inv t := by
    rintro s i (single | released) inOrder
    · obtain ⟨t, takes, took⟩ := single.toAlive.step i
      exact ⟨t, takes, single.took took inOrder⟩
    · exact ⟨s, released.step i, .inr released⟩
  have begins : inv (start pools item) := .inl (start_single held)
  constructor
  · rintro ⟨t, runs, _⟩
    refine AtEveryStep.of_run keeps ?_ (fun s i t => Spoilt.step) begins runs fun spoilt => ?_
    · rintro s i t (single | released) disorder takes
      · obtain ⟨next, takesNext, took⟩ := single.toAlive.step i
        obtain rfl : t = next := Option.some.inj (takes.symm.trans takesNext)
        exact single.spoils took disorder
      · -- Where everyone is done, every turn is in order.
        have done := fun pc at_ => released.all pc (List.mem_of_getElem? (i := i) at_)
        refine absurd ⟨fun at_ => ?_, fun at_ => ?_⟩ disorder <;> cases done _ at_
    · obtain ⟨pc, mem, undone⟩ := spoilt.undone
      exact undone (start_done complete runs pc mem)
  · intro inOrder
    obtain ⟨t, runs, single | released⟩ :=
      (inOrder.atEveryPoint (fun _ here => here) keeps begins).last
    · obtain ⟨pc, mem, undone⟩ := single.undone
      exact absurd (start_done complete runs pc mem) undone
    · exact ⟨t, runs, released.calls, released.freed⟩

/-- A pool with one value, and two smart pointers outside that hold it. -/
def twoHolders : Pools Tagged :=
  ((Pools.empty.pushFh 0 ⟨7, 1⟩).bind (Pools.copySlot 0)).getD .empty

/-- Both holders are counted. -/
theorem twoHolders_held : twoHolders.Held ⟨0, 0⟩ :=
  ⟨by decide, by decide, ⟨⟨7, 1⟩, 0⟩, by decide, by decide⟩

/-- One after the other, two threads are in order. -/
theorem smartPtr_releasedOnce_apart :
    ∃ t, [0, 0, 0, 0, 0, 1, 1, 1, 1, 1].foldlM (fun s i => step ⟨0, 0⟩ i s)
          (start twoHolders ⟨0, 0⟩) = some t ∧
      t.pools.deletions 0 = twoHolders.deletions 0 + 1 ∧ t.pools.freed.count 0 = 1 :=
  (smartPtr_releasedOnce_iff twoHolders ⟨0, 0⟩ twoHolders_held [0, 0, 0, 0, 0, 1, 1, 1, 1, 1]
    (by decide)).mpr (by decide)

/-- Two threads that count down before either compares leave one to read a deleted counter. -/
theorem smartPtr_reads_freed :
    twoHolders.Held ⟨0, 0⟩ ∧ twoHolders.copies ⟨0, 0⟩ = 2 ∧
      -- The first has called `delete_item`, and the second is about to load the count.
      ([0, 1, 0, 1, 0, 0].foldlM (fun s i => step ⟨0, 0⟩ i s) (start twoHolders ⟨0, 0⟩)).map
          (fun s => (s.pcs, s.pools.freed, s.pools.deletions 0))
        = some ([.done, .comparing], [0], 1) ∧
      ([0, 1, 0, 1, 0, 0, 1].foldlM (fun s i => step ⟨0, 0⟩ i s)
        (start twoHolders ⟨0, 0⟩)).isNone ∧
      -- Had it loaded earlier, it would be about to call `delete_item` as well.
      ([0, 1, 0, 1, 0, 1].foldlM (fun s i => step ⟨0, 0⟩ i s) (start twoHolders ⟨0, 0⟩)).map
          (fun s => s.pcs) = some [.deleting, .deleting] :=
  ⟨twoHolders_held, by decide, by decide, by decide, by decide⟩

end Dnfs
