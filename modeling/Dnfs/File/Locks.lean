import Dnfs.File.FsalHandle
import Dnfs.Run.Locking

/-! The locks a thread takes and gives back when it starts and finishes work on a handle. -/

namespace Dnfs

variable {ι : Type} [DecidableEq ι]

/-- The locks of a handle. -/
inductive HandleLock (ι : Type) where
  | handleRwlockLock (handle : ι)
  | workMutex (handle : ι)
  deriving DecidableEq

namespace Locking

variable (handle : ι)
variable (share : FsalShare)

/-- Make a reservation on a handle if nothing stands against it. -/
def checkShareConflictAndUpdateLocked (oldOpenflags newOpenflags : FsalOpenflags) (bypass : Bool) :
    Locking (HandleLock ι) (FsalErrors × FsalShare) := do
  lock (.handleRwlockLock handle)
  let status := checkShareConflictAndUpdate share oldOpenflags newOpenflags bypass
  unlock (.handleRwlockLock handle)
  return status

/-- Reserve a handle, unless any descriptor will do or nothing is to be reserved, and start work. -/
def fsalStartGlobalIo (fileHandle : FHandle) (openflags : FsalOpenflags) (bypass : Bool)
    (withShare : Bool) : Locking (HandleLock ι) (FsalErrors × FHandle) := do
  let openAny := openflags = fsalOAny
  if ¬openAny ∧ withShare then
    let (status, share) ← checkShareConflictAndUpdateLocked handle fileHandle.share fsalOClosed
      openflags bypass
    match status with
    | .errFsalShareDenied =>
      -- The lock was given back above already.
      unlock (.handleRwlockLock handle)
      return (status, { fileHandle with share })
    | .errFsalNoError => return (status, waitToStartIo { fileHandle with share })
  else return (.errFsalNoError, waitToStartIo fileHandle)

/-- Start work on a handle, with a reservation of its own unless a state already has one. -/
def fsalStartIo (fileHandle : FHandle) (withState : Bool) (openflags : FsalOpenflags)
    (bypass : Bool) (withShare : Bool) : Locking (HandleLock ι) (FsalErrors × FHandle) :=
  let fileHandle := if withState then waitToStartIo fileHandle else fileHandle
  fsalStartGlobalIo handle fileHandle openflags bypass (!withState && withShare)

/--
Count down, and keep the lock if zero was reached.

Other threads count too, so whether counting down without the lock was refused and what counting
down under it ended at can be anything.
-/
def pthreadMutexDecInt32AndLock (changed : Bool) (newv : Int32) : Locking (HandleLock ι) Bool := do
  if changed then return false
  else
    lock (.workMutex handle)
    if newv = 0 then return true
    else
      unlock (.workMutex handle)
      return false

/-- Finish work on a handle. -/
def fsalCompleteIo (changed : Bool) (newv : Int32) : Locking (HandleLock ι) FsalErrors := do
  let gotMutex ← pthreadMutexDecInt32AndLock handle changed newv
  if gotMutex then
    unlock (.workMutex handle)
  return .errFsalNoError

/-- Replace a reservation on a handle. -/
def updateShareCountersLocked (oldOpenflags newOpenflags : FsalOpenflags) :
    Locking (HandleLock ι) FsalShare := do
  lock (.handleRwlockLock handle)
  let share := updateShareCounters share oldOpenflags newOpenflags
  unlock (.handleRwlockLock handle)
  return share

/-- A reservation is asked for and something stands against it. -/
def Refused (openflags : FsalOpenflags) (bypass withShare : Bool) : Prop :=
  withShare = true ∧ openflags ≠ fsalOAny ∧ (shareConflictCause share openflags bypass).isSome

instance (share : FsalShare) (openflags : FsalOpenflags) (bypass withShare : Bool) :
    Decidable (Refused share openflags bypass withShare) :=
  inferInstanceAs (Decidable (_ ∧ _ ∧ _))

variable {handle} {held : Finset (HandleLock ι)}

/-- The check is made under the lock, which is given back whatever its outcome. -/
theorem checkShareConflictAndUpdateLocked_apply (rwlock : .handleRwlockLock handle ∉ held)
    (share : FsalShare) (oldOpenflags newOpenflags : FsalOpenflags) (bypass : Bool) :
    checkShareConflictAndUpdateLocked handle share oldOpenflags newOpenflags bypass held =
      some (checkShareConflictAndUpdate share oldOpenflags newOpenflags bypass, held) :=
  lock_then rwlock _

/-- The check refuses what something stands against. -/
theorem checkShareConflictAndUpdate_fst (oldOpenflags newOpenflags : FsalOpenflags)
    (bypass : Bool) :
    (checkShareConflictAndUpdate share oldOpenflags newOpenflags bypass).1 =
      if (shareConflictCause share newOpenflags bypass).isSome then .errFsalShareDenied
      else .errFsalNoError := by
  unfold checkShareConflictAndUpdate checkShareConflict
  cases shareConflictCause share newOpenflags bypass <;> rfl

/-- Starting work does what it does without locks, unless the reservation is refused. -/
theorem fsalStartGlobalIo_apply (rwlock : .handleRwlockLock handle ∉ held) (fileHandle : FHandle)
    (openflags : FsalOpenflags) (bypass withShare : Bool) :
    fsalStartGlobalIo handle fileHandle openflags bypass withShare held =
      if Refused fileHandle.share openflags bypass withShare then none
      else some (Dnfs.fsalStartGlobalIo fileHandle openflags bypass withShare, held) := by
  unfold fsalStartGlobalIo Dnfs.fsalStartGlobalIo
  by_cases asked : ¬openflags = fsalOAny ∧ withShare = true
  · have outcome := checkShareConflictAndUpdate_fst fileHandle.share fsalOClosed openflags bypass
    rw [if_pos asked, if_pos asked, bind_apply, checkShareConflictAndUpdateLocked_apply rwlock,
      Option.bind_some]
    by_cases conflict : (shareConflictCause fileHandle.share openflags bypass).isSome
    · -- The lock is given back a second time.
      have refused : Refused fileHandle.share openflags bypass withShare :=
        ⟨asked.2, asked.1, conflict⟩
      rw [if_pos conflict] at outcome
      rw [if_pos refused]
      generalize checkShareConflictAndUpdate fileHandle.share fsalOClosed openflags bypass =
        checked at outcome
      obtain ⟨status, share⟩ := checked
      obtain rfl : status = .errFsalShareDenied := outcome
      show (unlock (.handleRwlockLock handle) >>= _) held = none
      rw [bind_apply, unlock_free rwlock, Option.bind_none]
    · have granted : ¬Refused fileHandle.share openflags bypass withShare :=
        fun refused => conflict refused.2.2
      rw [if_neg conflict] at outcome
      rw [if_neg granted]
      generalize checkShareConflictAndUpdate fileHandle.share fsalOClosed openflags bypass =
        checked at outcome
      obtain ⟨status, share⟩ := checked
      obtain rfl : status = .errFsalNoError := outcome
      rfl
  · have granted : ¬Refused fileHandle.share openflags bypass withShare :=
      fun refused => asked ⟨refused.2.1, refused.1⟩
    rw [if_neg asked, if_neg asked, if_neg granted]
    rfl

/-- Counting down keeps the lock if and only if it tells so. -/
theorem pthreadMutexDecInt32AndLock_apply (mutex : .workMutex handle ∉ held) (changed : Bool)
    (newv : Int32) :
    pthreadMutexDecInt32AndLock handle changed newv held =
      if changed = false ∧ newv = 0 then some (true, insert (.workMutex handle) held)
      else some (false, held) := by
  unfold pthreadMutexDecInt32AndLock
  cases changed with
  | true => simp [pure_apply]
  | false =>
    by_cases zero : newv = 0
    · simp [zero, bind_apply, lock_free mutex, pure_apply]
    · simp [zero, bind_apply, lock_free mutex, map_apply, unlock_insert mutex]

/-- Finishing work gives back the lock in case it was kept. -/
theorem fsalCompleteIo_apply (mutex : .workMutex handle ∉ held) (changed : Bool) (newv : Int32) :
    fsalCompleteIo handle changed newv held = some (.errFsalNoError, held) := by
  unfold fsalCompleteIo
  rw [bind_apply, pthreadMutexDecInt32AndLock_apply mutex]
  split
  · simp [map_apply, unlock_insert mutex]
  · rfl

/-- A call that starts or finishes work. -/
inductive Call where
  | checkShare (oldOpenflags newOpenflags : FsalOpenflags) (bypass : Bool)
  | startGlobalIo (openflags : FsalOpenflags) (bypass withShare : Bool)
  | startIo (withState : Bool) (openflags : FsalOpenflags) (bypass withShare : Bool)
  | completeIo (changed : Bool) (newv : Int32)
  | updateShare (oldOpenflags newOpenflags : FsalOpenflags)

/-- What a call does on a handle. -/
def Call.run (handle : ι) (fileHandle : FHandle) : Call → Locking (HandleLock ι) Unit
  | checkShare oldOpenflags newOpenflags bypass => discard <|
    checkShareConflictAndUpdateLocked handle fileHandle.share oldOpenflags newOpenflags bypass
  | startGlobalIo openflags bypass withShare => discard <|
    fsalStartGlobalIo handle fileHandle openflags bypass withShare
  | startIo withState openflags bypass withShare => discard <|
    fsalStartIo handle fileHandle withState openflags bypass withShare
  | completeIo changed newv => discard <| fsalCompleteIo handle changed newv
  | updateShare oldOpenflags newOpenflags => discard <|
    updateShareCountersLocked handle fileHandle.share oldOpenflags newOpenflags

/-- A call that starts work, asks for a reservation and is refused one. -/
def Call.refused : Call → Prop
  | startGlobalIo openflags bypass withShare => Refused share openflags bypass withShare
  | startIo withState openflags bypass withShare =>
    withState = false ∧ Refused share openflags bypass withShare
  | _ => False

/--
No lock is misused and none is kept if and only if no reservation is asked for and refused.

Whoever starts or finishes work on a handle holds none of its locks before.
-/
theorem call_balanced_iff (handle : ι) (fileHandle : FHandle) (call : Call)
    (held : Finset (HandleLock ι)) (rwlock : .handleRwlockLock handle ∉ held)
    (mutex : .workMutex handle ∉ held) :
    Balanced held (call.run handle fileHandle) ↔ ¬call.refused fileHandle.share := by
  cases call with
  | checkShare oldOpenflags newOpenflags bypass =>
    rw [Call.run, balanced_discard, Balanced, checkShareConflictAndUpdateLocked_apply rwlock]
    simp [Call.refused]
  | startGlobalIo openflags bypass withShare =>
    rw [Call.run, balanced_discard, Balanced, fsalStartGlobalIo_apply rwlock, Call.refused]
    split <;> simp_all
  | startIo withState openflags bypass withShare =>
    rw [Call.run, balanced_discard, Balanced, fsalStartIo, fsalStartGlobalIo_apply rwlock,
      Call.refused]
    cases withState with
    | true =>
      -- With a state nothing is reserved.
      rw [if_neg fun refused => Bool.false_ne_true refused.1]
      simp
    | false =>
      show (∃ _, (if Refused fileHandle.share openflags bypass withShare then _ else _) = _) ↔ _
      split <;> simp_all
  | completeIo changed newv =>
    rw [Call.run, balanced_discard, Balanced, fsalCompleteIo_apply mutex]
    simp [Call.refused]
  | updateShare oldOpenflags newOpenflags =>
    rw [Call.run, balanced_discard, Balanced, updateShareCountersLocked, lock_then rwlock]
    simp [Call.refused]

theorem call_balanced_iff_write :
    Balanced (∅ : Finset (HandleLock Unit))
      ((Call.startIo false fsalOWrite false true).run () ⟨none, 0, .zero⟩) := by
  rw [call_balanced_iff _ _ _ _ (Finset.notMem_empty _) (Finset.notMem_empty _)]
  simp [Call.refused, Refused]
  decide

/-- A write to a file that is under a denial gives back a lock twice. -/
theorem startIo_unlocks_twice :
    ¬Balanced (∅ : Finset (HandleLock Unit))
      ((Call.startIo false fsalOWrite false true).run () ⟨none, 0, { FsalShare.zero with
        shareDenyWrite := 1 }⟩) := by
  have denied : Refused { FsalShare.zero with shareDenyWrite := 1 } fsalOWrite false true := by
    decide
  have run := fsalStartGlobalIo_apply (Finset.notMem_empty (HandleLock.handleRwlockLock ()))
    ⟨none, 0, { FsalShare.zero with shareDenyWrite := 1 }⟩ fsalOWrite false true
  rw [if_pos denied] at run
  rw [Call.run, balanced_discard]
  rintro ⟨result, ran⟩
  exact absurd (run.symm.trans ran) (by simp)

end Locking

end Dnfs
