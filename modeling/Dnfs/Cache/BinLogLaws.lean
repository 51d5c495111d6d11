import Dnfs.Cache.BinLog
import Mathlib.Data.Finset.Card

/-! How many handles a log can take, and what is found in it then. -/

namespace Dnfs

/-- Handles are compared by the address they point to. -/
theorem SmartPtr.cmp_eq {a b : SmartPtr} : SmartPtr.cmp a b = .eq ↔ a.ptr = b.ptr :=
  compare_eq_iff_eq

namespace BinLog

variable {ι : Type}

section Handles

/-- The addresses of the handles in a buffer. -/
def handles (buffer : LogBufferMap ι) : Finset Nat :=
  (buffer.toList.map fun entry => entry.1.ptr).toFinset

variable {buffer : LogBufferMap ι} {handle : SmartPtr}

/-- A handle is held if one to the same address is. -/
theorem mem_handles : handle.ptr ∈ handles buffer ↔ handle ∈ buffer := by
  rw [handles, List.mem_toFinset, List.mem_map, ← Std.ExtTreeMap.isSome_getElem?_iff_mem,
    Option.isSome_iff_exists]
  -- A handle is there as soon as one with its address is.
  constructor
  · rintro ⟨⟨other, info⟩, member, same⟩
    exact ⟨info, Std.ExtTreeMap.getElem?_eq_some_iff_exists_compare_eq_eq_and_mem_toList.mpr
      ⟨other, SmartPtr.cmp_eq.mpr same.symm, member⟩⟩
  · rintro ⟨info, there⟩
    obtain ⟨other, same, member⟩ :=
      Std.ExtTreeMap.getElem?_eq_some_iff_exists_compare_eq_eq_and_mem_toList.mp there
    exact ⟨(other, info), member, (SmartPtr.cmp_eq.mp same).symm⟩

/-- As many addresses as entries are in a buffer. -/
theorem card_handles : (handles buffer).card = buffer.size := by
  have distinct : (buffer.toList.map fun entry => entry.1.ptr).Nodup :=
    List.pairwise_map.mpr (Std.ExtTreeMap.distinct_keys_toList.imp fun differ same =>
      differ (SmartPtr.cmp_eq.mpr same))
  rw [handles, List.toFinset_card_of_nodup distinct, List.length_map,
    Std.ExtTreeMap.length_toList]

/-- A buffer in which the info of a handle was changed, or entered. -/
def logged (buffer : LogBufferMap ι) (handle : SmartPtr) (info : Option ι) : LogBufferMap ι :=
  if handle ∈ buffer then buffer.modify handle fun _ => info else buffer.insertIfNew handle info

/-- A buffer has the info that was logged, and for other handles what it had. -/
theorem getElem?_logged (info : Option ι) (other : SmartPtr) :
    (logged buffer handle info)[other]? =
      if handle.ptr = other.ptr then some info else buffer[other]? := by
  by_cases present : handle ∈ buffer
  · rw [logged, if_pos present, Std.ExtTreeMap.getElem?_modify]
    by_cases same : handle.ptr = other.ptr
    · rw [if_pos (SmartPtr.cmp_eq.mpr same), if_pos same,
        Std.ExtTreeMap.getElem?_eq_some_getElem present, Option.map_some]
    · rw [if_neg (fun equal => same (SmartPtr.cmp_eq.mp equal)), if_neg same]
  · rw [logged, if_neg present, Std.ExtTreeMap.getElem?_insertIfNew]
    by_cases same : handle.ptr = other.ptr
    · rw [if_pos ⟨SmartPtr.cmp_eq.mpr same, present⟩, if_pos same]
    · rw [if_neg (fun both => same (SmartPtr.cmp_eq.mp both.1)), if_neg same]

/-- Logging holds one handle more. -/
theorem handles_logged (info : Option ι) :
    handles (logged buffer handle info) = insert handle.ptr (handles buffer) := by
  ext address
  -- An address is that of some handle.
  let other : SmartPtr := ⟨address, 0⟩
  have member : ∀ map : LogBufferMap ι, address ∈ handles map ↔ (map[other]?).isSome := by
    intro map
    rw [Std.ExtTreeMap.isSome_getElem?_iff_mem]
    exact (mem_handles : other.ptr ∈ handles map ↔ other ∈ map)
  rw [Finset.mem_insert, member, member, getElem?_logged]
  by_cases same : handle.ptr = address
  · simp [other, same]
  · have differ : address ≠ handle.ptr := fun equal => same equal.symm
    simp [other, same, differ]

end Handles

section Pushes

variable (generateFileSave : ι → String) (log : BinLog ι)

/-- One call that logs an info, with what the system answers meanwhile. -/
structure Push (ι : Type) where
  env : SwitchEnv
  handle : SmartPtr
  info : Option ι

/-- A log in which an info was entered without switching the buffer. -/
def entered (push : Push ι) : BinLog ι :=
  { log with memeryBuffer := logged log.memeryBuffer push.handle push.info }

/-- A log after such an info was logged. -/
def pushed (push : Push ι) : BinLog ι :=
  { log.entered push with bufferChangeCount := log.bufferChangeCount + 1 }

/-- A call gets past the entry of its info without switching the buffer. -/
def Enters (push : Push ι) : Prop :=
  push.handle ∈ log.memeryBuffer ∨ (log.entered push).needSwitch = false

/-- Under the lock an info is entered, unless a switch becomes due, which takes the lock again. -/
theorem enter_apply (push : Push ι) {held : Finset BinLogLock} (locked : .bufferLock ∈ held) :
    (log.Enters push →
      log.enter generateFileSave push.env push.handle push.info held =
        some (log.entered push, held)) ∧
    (¬ log.Enters push →
      log.enter generateFileSave push.env push.handle push.info held = none) := by
  rw [enter, entered, logged, Enters, entered, logged]
  by_cases present : push.handle ∈ log.memeryBuffer
  · rw [if_pos present, if_pos present]
    exact ⟨fun _ => rfl, fun stuck => absurd (.inl present) stuck⟩
  · rw [if_neg present, if_neg present]
    constructor
    · rintro (there | room)
      · exact absurd there present
      · rw [if_neg (Bool.eq_false_iff.mp room)]
        rfl
    · intro stuck
      rw [not_or, Bool.not_eq_false] at stuck
      rw [if_pos stuck.2, switchBuffer, Locking.bind_apply, Locking.lock, if_pos locked,
        Option.bind_none]

/-- A call returns just when no switch becomes due in it. -/
theorem pushInfo_apply (push : Push ι) :
    (log.Enters push →
      log.pushInfo generateFileSave push.env push.handle push.info ∅ =
        some (log.pushed push, ∅)) ∧
    (¬ log.Enters push →
      log.pushInfo generateFileSave push.env push.handle push.info ∅ = none) := by
  have free : BinLogLock.bufferLock ∉ (∅ : Finset BinLogLock) := Finset.notMem_empty _
  have inner := log.enter_apply generateFileSave push
    (Finset.mem_insert_self BinLogLock.bufferLock ∅)
  rw [pushInfo, Locking.bind_apply, Locking.lock_free free, Option.bind_some, Locking.bind_apply]
  constructor
  · intro enters
    rw [inner.1 enters, Option.bind_some, Locking.bind_apply, Locking.unlock_insert free]
    rfl
  · intro stuck
    rw [inner.2 stuck, Option.bind_none]

variable {log}

/-- A switch becomes due with the first new handle beyond the limit. -/
theorem enters_iff (free : log.diskBuffer = none) (push : Push ι) :
    log.Enters push ↔ push.handle.ptr ∈ handles log.memeryBuffer ∨
      (handles log.memeryBuffer).card < 100 := by
  rw [Enters, ← mem_handles]
  refine or_congr_right' fun absent => ?_
  have size : (logged log.memeryBuffer push.handle push.info).size =
      (handles log.memeryBuffer).card + 1 := by
    rw [← card_handles, handles_logged, Finset.card_insert_of_notMem absent]
  have limit : asSize binLogBufferLimit = 100 := by decide
  simp only [needSwitch, entered, size, limit, free, Option.isNone_none, Bool.and_true,
    decide_eq_false_iff_not]
  omega

/-- Log any number of infos. -/
def pushAll (log : BinLog ι) (pushes : List (Push ι)) : Locking BinLogLock (BinLog ι) :=
  pushes.foldlM (fun log push => log.pushInfo generateFileSave push.env push.handle push.info) log

/-- A log after any number of infos were logged without switching the buffer. -/
def pushedAll (log : BinLog ι) (pushes : List (Push ι)) : BinLog ι := pushes.foldl pushed log

/-- The addresses of the handles that infos are logged for. -/
def pushedHandles (pushes : List (Push ι)) : Finset Nat :=
  (pushes.map fun push => push.handle.ptr).toFinset

/-- All handles are there, or not more than the limit are there in the end. -/
def WithinLimit (there : Finset Nat) (pushes : List (Push ι)) : Prop :=
  pushedHandles pushes ⊆ there ∨ (there ∪ pushedHandles pushes).card ≤ 100

/-- The first of some handles is taken, and the others stay within the limit with it. -/
theorem withinLimit_cons (there : Finset Nat) (push : Push ι) (pushes : List (Push ι)) :
    WithinLimit there (push :: pushes) ↔
      (push.handle.ptr ∈ there ∨ there.card < 100) ∧
        WithinLimit (insert push.handle.ptr there) pushes := by
  have split : pushedHandles (push :: pushes) =
      insert push.handle.ptr (pushedHandles pushes) := by
    rw [pushedHandles, List.map_cons, List.toFinset_cons, pushedHandles]
  have union : there ∪ insert push.handle.ptr (pushedHandles pushes) =
      insert push.handle.ptr there ∪ pushedHandles pushes := by
    rw [Finset.union_insert, Finset.insert_union]
  rw [WithinLimit, WithinLimit, split, union, Finset.insert_subset_iff]
  by_cases member : push.handle.ptr ∈ there
  · rw [Finset.insert_eq_of_mem member]
    simp [member]
  · -- A new handle is one more in the end, whatever the others are.
    have more : there.card + 1 ≤ (insert push.handle.ptr there ∪ pushedHandles pushes).card := by
      rw [← Finset.card_insert_of_notMem member]
      exact Finset.card_le_card Finset.subset_union_left
    constructor
    · rintro (⟨old, _⟩ | few)
      · exact absurd old member
      · exact ⟨.inr (by omega), .inr few⟩
    · rintro ⟨old | few, inside | fewer⟩
      · exact absurd old member
      · exact absurd old member
      · right
        rw [Finset.union_eq_left.mpr inside, Finset.card_insert_of_notMem member]
        exact few
      · exact .inr fewer

/-- All calls return just when their handles stay within the limit. -/
theorem pushAll_apply (free : log.diskBuffer = none) (pushes : List (Push ι)) :
    (WithinLimit (handles log.memeryBuffer) pushes →
      log.pushAll generateFileSave pushes ∅ = some (log.pushedAll pushes, ∅)) ∧
    (¬ WithinLimit (handles log.memeryBuffer) pushes →
      log.pushAll generateFileSave pushes ∅ = none) := by
  -- The push that does not enter ends the run.
  induction pushes generalizing log with
  | nil =>
    have none : pushedHandles ([] : List (Push ι)) ⊆ handles log.memeryBuffer :=
      Finset.empty_subset _
    exact ⟨fun _ => rfl, fun outside => absurd (.inl none) outside⟩
  | cons push pushes ih =>
    have first := log.pushInfo_apply generateFileSave push
    have rest := @ih (log.pushed push) free
    rw [withinLimit_cons, ← enters_iff free, pushAll, List.foldlM_cons, Locking.bind_apply]
    have same : handles (log.pushed push).memeryBuffer =
        insert push.handle.ptr (handles log.memeryBuffer) := handles_logged push.info
    rw [same] at rest
    constructor
    · rintro ⟨enters, within⟩
      rw [first.1 enters]
      exact rest.1 within
    · intro outside
      by_cases enters : log.Enters push
      · rw [first.1 enters]
        exact rest.2 fun within => outside ⟨enters, within⟩
      · rw [first.2 enters, Option.bind_none]

end Pushes

section Lookup

/-- The last call that logged an info for a handle. -/
def lastPush (pushes : List (Push ι)) (handle : SmartPtr) : Option (Push ι) :=
  pushes.reverse.find? fun push => push.handle.ptr = handle.ptr

/-- The info that was logged last for a handle, or a null pointer. -/
def lastInfo (pushes : List (Push ι)) (handle : SmartPtr) : Option ι :=
  (lastPush pushes handle).bind Push.info

/-- The first push counts only if no later one is to the handle. -/
theorem lastPush_cons (push : Push ι) (pushes : List (Push ι)) (handle : SmartPtr) :
    lastPush (push :: pushes) handle =
      (lastPush pushes handle).or (if push.handle.ptr = handle.ptr then some push else none) := by
  rw [lastPush, List.reverse_cons, List.find?_append, List.find?_singleton, lastPush]
  simp only [decide_eq_true_eq]

/-- A buffer has for a handle what was logged last. -/
theorem getElem?_pushedAll (log : BinLog ι) (pushes : List (Push ι)) (handle : SmartPtr) :
    (log.pushedAll pushes).memeryBuffer[handle]? =
      ((lastPush pushes handle).map Push.info).or log.memeryBuffer[handle]? := by
  induction pushes generalizing log with
  | nil => rfl
  | cons push pushes ih =>
    -- What is logged later hides the first info.
    have first : (log.pushed push).memeryBuffer[handle]? =
        if push.handle.ptr = handle.ptr then some push.info else log.memeryBuffer[handle]? :=
      getElem?_logged push.info handle
    rw [pushedAll, List.foldl_cons, ← pushedAll, ih, first, lastPush_cons, Option.map_or,
      Option.or_assoc]
    by_cases same : push.handle.ptr = handle.ptr
    · rw [if_pos same, if_pos same, Option.map_some, Option.some_or]
    · rw [if_neg same, if_neg same, Option.map_none, Option.none_or]

/-- There is a last push to just those handles that were pushed. -/
theorem isSome_lastPush (pushes : List (Push ι)) (handle : SmartPtr) :
    (lastPush pushes handle).isSome ↔ handle.ptr ∈ pushedHandles pushes := by
  rw [lastPush, List.find?_isSome, pushedHandles, List.mem_toFinset, List.mem_map]
  simp only [List.mem_reverse, decide_eq_true_eq]

/-- A handle is found just when an info was logged for it. -/
theorem findInfo_pushedAll (count : Int32) (pushes : List (Push ι)) (handle : SmartPtr)
    (out : Option ι) :
    (((new count).pushedAll pushes).findInfo handle out).1 = true ↔
      handle.ptr ∈ pushedHandles pushes := by
  have there := (new count : BinLog ι).getElem?_pushedAll pushes handle
  rw [new, Std.ExtTreeMap.getElem?_empty, Option.or_none] at there
  rw [← isSome_lastPush, findInfo, lookUp, new, there]
  cases lastPush pushes handle with
  | none => simp
  | some push => simp

end Lookup

end BinLog

section Results

variable {ι : Type} (generateFileSave : ι → String)

open BinLog

/--
Every call that logs an info returns just when no new handle goes beyond the limit.

Switching the buffer then takes the lock that the call holds already.
-/
theorem binLog_returns_iff {log : BinLog ι} (free : log.diskBuffer = none)
    (pushes : List (Push ι)) :
    (∃ after, log.pushAll generateFileSave pushes ∅ = some (after, ∅)) ↔
      pushedHandles pushes ⊆ handles log.memeryBuffer ∨
        (handles log.memeryBuffer ∪ pushedHandles pushes).card ≤ 100 := by
  have applied := pushAll_apply generateFileSave free pushes
  constructor
  · rintro ⟨after, returns⟩
    by_contra outside
    rw [applied.2 outside] at returns
    cases returns
  · intro within
    exact ⟨_, applied.1 within⟩

/-- Two infos for one handle are logged. -/
theorem binLog_returns_twice :
    ∃ after, (BinLog.new 0 : BinLog Nat).pushAll toString
      [⟨⟨true, 3⟩, ⟨7, 0⟩, some 1⟩, ⟨⟨true, 3⟩, ⟨7, 0⟩, some 2⟩] ∅ = some (after, ∅) :=
  (binLog_returns_iff toString rfl _).mpr (.inr (by decide))

/-- The one hundred and first handle gets stuck. -/
theorem binLog_deadlocks :
    (BinLog.new 0 : BinLog Nat).pushAll toString
      ((List.range 101).map fun address => ⟨⟨true, 3⟩, ⟨address, 0⟩, some address⟩) ∅ = none := by
  refine (pushAll_apply toString rfl _).2 ?_
  have all : pushedHandles ((List.range 101).map fun address =>
      (⟨⟨true, 3⟩, ⟨address, 0⟩, some address⟩ : Push Nat)) = Finset.range 101 := by
    ext address
    simp [pushedHandles]
  rintro (inside | few)
  · rw [all] at inside
    exact absurd (inside (Finset.mem_range.mpr (by decide : 0 < 101))) (by decide)
  · rw [all, show handles (BinLog.new 0 : BinLog Nat).memeryBuffer = ∅ from rfl,
      Finset.empty_union, Finset.card_range] at few
    exact absurd few (by decide)

/-- The infos that were logged are read back through a pointer just when it holds them already. -/
theorem binLog_readsBack_iff (count : Int32) {pushes : List (Push ι)}
    (few : (pushedHandles pushes).card < 100) (handle : SmartPtr) (out : Option ι) :
    (∃ log, (BinLog.new count).pushAll generateFileSave pushes ∅ = some (log, ∅) ∧
      ((log.findInfo handle out).1 = true ↔ handle.ptr ∈ pushedHandles pushes) ∧
      (log.findInfo handle out).2 = lastInfo pushes handle) ↔
    out = lastInfo pushes handle := by
  have within : WithinLimit (handles (BinLog.new count : BinLog ι).memeryBuffer) pushes := by
    right
    rw [show handles (BinLog.new count : BinLog ι).memeryBuffer = ∅ from rfl, Finset.empty_union]
    exact Nat.le_of_lt few
  have logged := (pushAll_apply generateFileSave rfl pushes).1 within
  constructor
  · rintro ⟨log, _, _, kept⟩
    exact kept
  · intro same
    exact ⟨_, logged, findInfo_pushedAll count pushes handle out, same⟩

/-- Two infos for one handle, and one for another in between. -/
def demoPushes : List (Push Nat) :=
  [⟨⟨true, 3⟩, ⟨7, 0⟩, some 1⟩, ⟨⟨true, 3⟩, ⟨8, 0⟩, some 5⟩, ⟨⟨true, 3⟩, ⟨7, 0⟩, some 2⟩]

/-- Pointers that hold the last info of their handles before are what they should be after. -/
theorem binLog_readsBack_held :
    (∃ log, (BinLog.new 0).pushAll toString demoPushes ∅ = some (log, ∅) ∧
      ((log.findInfo ⟨7, 0⟩ (some 2)).1 = true ↔ 7 ∈ pushedHandles demoPushes) ∧
      (log.findInfo ⟨7, 0⟩ (some 2)).2 = lastInfo demoPushes ⟨7, 0⟩) ∧
    ∃ log, (BinLog.new 0).pushAll toString demoPushes ∅ = some (log, ∅) ∧
      ((log.findInfo ⟨8, 0⟩ (some 5)).1 = true ↔ 8 ∈ pushedHandles demoPushes) ∧
      (log.findInfo ⟨8, 0⟩ (some 5)).2 = lastInfo demoPushes ⟨8, 0⟩ :=
  ⟨(binLog_readsBack_iff toString 0 (by decide) ⟨7, 0⟩ (some 2)).mpr (by decide),
    (binLog_readsBack_iff toString 0 (by decide) ⟨8, 0⟩ (some 5)).mpr (by decide)⟩

/-- A null pointer stays null although the handle is found. -/
theorem binLog_leaves_null :
    ∃ log, (BinLog.new 0 : BinLog Nat).pushAll toString [⟨⟨true, 3⟩, ⟨7, 0⟩, some 1⟩] ∅ =
        some (log, ∅) ∧
      log.findInfo ⟨7, 0⟩ none = (true, none) ∧
      lastInfo [(⟨⟨true, 3⟩, ⟨7, 0⟩, some 1⟩ : Push Nat)] ⟨7, 0⟩ = some 1 :=
  ⟨_, rfl, by decide, by decide⟩

end Results

end Dnfs
