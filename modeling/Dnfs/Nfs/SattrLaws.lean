import Dnfs.Nfs.UtilsLaws

/-! Setting attributes as a list of calls that stops at the first one that fails. -/

namespace Dnfs

variable {σ : Type}

section Runs

/-- Make calls one after another until one fails, and tell whether none did. -/
def runCalls : List (Action σ) → σ → Bool × σ
  | [], fs => (true, fs)
  | call :: rest, fs =>
    match call fs with
    | (.ok _, after) => runCalls rest after
    | (.error _, after) => (false, after)

/-- Whether some call that was noted down failed. -/
def anyFailed (calls : List Call) : Bool := calls.any fun call => !call.ok

/-- Some code made calls in order, until one failed. -/
structure Ran (calls : List (Action σ)) (os : Os σ) (ok : Bool) (after : Os σ) :
    Prop where
  outcome : runCalls calls os.fs = (ok, after.fs)
  failed : anyFailed after.calls = (anyFailed os.calls || !ok)

/-- Calls after others are made only if those succeeded. -/
theorem runCalls_append (first rest : List (Action σ)) (fs : σ) :
    runCalls (first ++ rest) fs =
      if (runCalls first fs).1 then runCalls rest (runCalls first fs).2 else runCalls first fs := by
  induction first generalizing fs with
  | nil => rfl
  | cons call first ih =>
    rcases made : call fs with ⟨_ | _, after⟩
    · simp [runCalls, made]
    · simpa [runCalls, made] using ih after

/-- No calls at all. -/
theorem Ran.none (os : Os σ) : Ran [] os true os := ⟨rfl, by simp⟩

/-- A single noted call. -/
theorem Ran.one (call : Action σ) (os : Os σ) (sys : Sys) :
    Ran [call] os (succeeded (os.call (fun _ => sys) call).1) (os.call (fun _ => sys) call).2 := by
  rcases made : call os.fs with ⟨_ | _, after⟩
  · exact ⟨by simp [runCalls, made, succeeded], by simp [anyFailed, made, succeeded]⟩
  · exact ⟨by simp [runCalls, made, succeeded], by simp [anyFailed, made, succeeded]⟩

/-- Calls that all succeed are followed by the next ones. -/
theorem Ran.append {first rest : List (Action σ)} {os mid after : Os σ} {ok : Bool}
    (ran : Ran first os true mid) (next : Ran rest mid ok after) :
    Ran (first ++ rest) os ok after := by
  refine ⟨?_, ?_⟩
  · rw [runCalls_append, ran.outcome, if_pos rfl, next.outcome]
  · rw [next.failed, ran.failed]
    simp

/-- After a call that failed none follows. -/
theorem Ran.stop {first : List (Action σ)} {os after : Os σ}
    (ran : Ran first os false after) (rest : List (Action σ)) :
    Ran (first ++ rest) os false after := by
  refine ⟨?_, ran.failed⟩
  rw [runCalls_append, ran.outcome]
  rfl

end Runs

section Sattr

variable (k : Kernel σ) (stale : Timespec × Timespec) (filePath : Path) (newAttr : Sattr3)

/-- The call that sets the permissions, if they are to be set. -/
def Sattr3.modeCalls : List (Action σ) :=
  if newAttr.mode.isSet then [k.chmod filePath (fieldOf 0 newAttr.mode)] else []

/-- The call that sets owner and group, if either is to be set. -/
def Sattr3.ownerCalls : List (Action σ) :=
  if newAttr.gid.isSet ∨ newAttr.uid.isSet then
    [k.chown filePath (if newAttr.uid.isSet then fieldOf 0 newAttr.uid else 0xffffffff)
      (if newAttr.gid.isSet then fieldOf 0 newAttr.gid else 0xffffffff)]
  else []

/-- The times a single call sets: the present if either asks for it. -/
def timesArgument (atime mtime : Timespec) : Option (Timespec × Timespec) :=
  if atime.tvNsec = utimeNow ∨ mtime.tvNsec = utimeNow then none
  else some (atime.toTimeval, mtime.toTimeval)

/-- The call that sets the times, if any is to be set, or none for a discriminant out of range. -/
def Sattr3.timesCalls : Option (List (Action σ)) :=
  match timeToSet stale.1 newAttr.atime, timeToSet stale.2 newAttr.mtime with
  | some (setAtime, atime), some (setMtime, mtime) =>
    some (if setAtime ∨ setMtime then [k.utimes filePath (timesArgument atime mtime)] else [])
  | _, _ => none

/-- The calls that set attributes, in order. -/
def Sattr3.calls : List (Action σ) :=
  newAttr.modeCalls k filePath ++
    (newAttr.ownerCalls k filePath ++ (newAttr.timesCalls k stale filePath).getD [])

variable {k stale filePath newAttr} {os : Os σ}

/-- Setting the mode makes its calls. -/
theorem setMode_ran : Ran (newAttr.modeCalls k filePath) os
    (succeeded (setMode k os filePath newAttr).1) (setMode k os filePath newAttr).2 := by
  unfold Sattr3.modeCalls setMode
  by_cases set : newAttr.mode.isSet = true
  · rw [if_pos set, if_pos set]
    exact Ran.one _ os .chmod
  · rw [if_neg set, if_neg set]
    exact Ran.none os

/-- Setting the owner makes its calls. -/
theorem setOwner_ran : Ran (newAttr.ownerCalls k filePath) os
    (succeeded (setOwner k os filePath newAttr).1) (setOwner k os filePath newAttr).2 := by
  unfold Sattr3.ownerCalls setOwner
  by_cases set : newAttr.gid.isSet = true ∨ newAttr.uid.isSet = true
  · rw [if_pos set, if_pos set]
    exact Ran.one _ os .chown
  · rw [if_neg set, if_neg set]
    exact Ran.none os

/-- Setting the times makes its call. -/
theorem setTimes_ran (atime mtime : Timespec) :
    Ran [k.utimes filePath (timesArgument atime mtime)] os
      (succeeded (setTimes k os filePath atime mtime).1)
      (setTimes k os filePath atime mtime).2 := by
  unfold timesArgument setTimes
  by_cases now : atime.tvNsec = utimeNow ∨ mtime.tvNsec = utimeNow
  · rw [if_pos now, if_pos now]
    exact Ran.one _ os .utimes
  · rw [if_neg now, if_neg now]
    exact Ran.one _ os .utimes

/-- Setting attributes makes its calls in order, and succeeds if all of them and the times do. -/
theorem nfsSetSattr3_ran : ∃ ok,
    Ran (newAttr.calls k stale filePath) os ok (nfsSetSattr3 k stale os filePath newAttr).2 ∧
      ((nfsSetSattr3 k stale os filePath newAttr).1 = .nfs3Ok ↔
        ok = true ∧ (newAttr.timesCalls k stale filePath).isSome) := by
  have modeRan : Ran (newAttr.modeCalls k filePath) os _ _ := setMode_ran
  unfold nfsSetSattr3 Sattr3.calls
  -- The first call that fails ends it.
  rcases mode : setMode k os filePath newAttr with ⟨_ | _, os⟩ <;> rw [mode] at modeRan
  · exact ⟨false, modeRan.stop _, by simp⟩
  · have ownerRan : Ran (newAttr.ownerCalls k filePath) os _ _ := setOwner_ran
    dsimp only
    rcases owner : setOwner k os filePath newAttr with ⟨_ | _, os⟩ <;> rw [owner] at ownerRan
    · exact ⟨false, modeRan.append (ownerRan.stop _), by simp⟩
    · unfold Sattr3.timesCalls
      dsimp only
      rcases timeToSet stale.1 newAttr.atime with _ | ⟨setAtime, atime⟩
      · exact ⟨true, modeRan.append (ownerRan.append (.none os)), by simp⟩
      · rcases timeToSet stale.2 newAttr.mtime with _ | ⟨setMtime, mtime⟩
        · exact ⟨true, modeRan.append (ownerRan.append (.none os)), by simp⟩
        · dsimp only
          by_cases set : setAtime = true ∨ setMtime = true
          · have timesRan : Ran [k.utimes filePath (timesArgument atime mtime)] os _ _ :=
              setTimes_ran atime mtime
            simp only [if_pos set]
            rcases times : setTimes k os filePath atime mtime with ⟨_ | _, os⟩ <;>
              rw [times] at timesRan
            · exact ⟨false, modeRan.append (ownerRan.append timesRan), by simp⟩
            · exact ⟨true, modeRan.append (ownerRan.append timesRan), by simp⟩
          · simp only [if_neg set]
            exact ⟨true, modeRan.append (ownerRan.append (.none os)), by simp⟩

end Sattr

end Dnfs
