import Dnfs.File.ShareSafety
import Dnfs.Os.Kernel

/-! The table of file handles the writers and the committers share, and the work counted on them. -/

namespace Dnfs

variable {σ : Type}
variable (handleMap : HandleMap)

/-- What is kept for a path that was opened for writing once. -/
structure FHandle where
  /-- The descriptor, while one is open. -/
  handle : Option Fd
  /-- How many are at work on the descriptor. -/
  ioWork : Int32
  share : FsalShare
  deriving DecidableEq, Repr

/-- Handles by path. -/
abbrev HandleMap := Path → Option FHandle

/-- No path has a handle yet. -/
def HandleMap.empty : HandleMap := fun _ => none

/-- Put a handle under a path. -/
def HandleMap.set (path : Path) (fileHandle : FHandle) : HandleMap :=
  fun other => if other = path then some fileHandle else handleMap other

/-- The path that was set now has the new handle. -/
@[simp] theorem HandleMap.set_self (path : Path) (fileHandle : FHandle) :
    handleMap.set path fileHandle path = some fileHandle := by
  simp [HandleMap.set]

/-- Every other path keeps what it had. -/
theorem HandleMap.set_other {path other : Path} (fileHandle : FHandle) (distinct : other ≠ path) :
    handleMap.set path fileHandle other = handleMap other := by
  simp [HandleMap.set, distinct]

/-- Setting a path again forgets what it was set to before. -/
@[simp] theorem HandleMap.set_set (path : Path) (first second : FHandle) :
    (handleMap.set path first).set path second = handleMap.set path second := by
  -- Both tables answer alike for the path itself and for any other.
  funext other
  by_cases same : other = path <;> simp [HandleMap.set, same]

section Table

/-- Whether a path has a handle. -/
def judgeHandleExist (handleMap : HandleMap) (path : Path) : Bool := (handleMap path).isSome

/-- Open a path that has no handle, and give it one nobody works on or has reserved. -/
def pushHandle (k : Kernel σ) (os : Os σ) (handleMap : HandleMap) (path : Path) :
    Bool × Os σ × HandleMap :=
  if judgeHandleExist handleMap path then (true, os, handleMap)
  else
    match os.call (fun _ => .openFile) (k.openFile path .creatWronly) with
    -- Nothing is entered for a path that cannot be opened.
    | (.error _, os) => (false, os, handleMap)
    | (.ok fd, os) => (true, os, handleMap.set path ⟨some fd, 0, .zero⟩)

/--
The handle of a path, opened if it was not.

No handle stands for the shared one that is never open, which is what a path gets that has none
and cannot be opened.
-/
def getHandle (k : Kernel σ) (os : Os σ) (handleMap : HandleMap) (path : Path) :
    Option FHandle × Os σ × HandleMap :=
  match handleMap path with
  | some fileHandle =>
    match fileHandle.handle with
    | some _ => (some fileHandle, os, handleMap)
    | none =>
      -- The outcome is stored as it is, so a failure leaves the handle closed.
      let (opened, os) := os.call (fun _ => .openFile) (k.openFile path .creatWronly)
      let fileHandle := { fileHandle with handle := opened.toOption }
      (some fileHandle, os, handleMap.set path fileHandle)
  | none =>
    match pushHandle k os handleMap path with
    | (true, os, handleMap) => (handleMap path, os, handleMap)
    | (false, os, handleMap) => (none, os, handleMap)

/-- The handle of a path as it is, without opening anything. -/
def justGetHandle (handleMap : HandleMap) (path : Path) : Option FHandle := handleMap path

/-- The descriptor behind a handle, where the shared one never has any. -/
def openDescriptor (fileHandle : Option FHandle) : Option Fd := fileHandle.bind FHandle.handle

/-- Close a handle if it is open. -/
def closeHandle (k : Kernel σ) (os : Os σ) (fileHandle : FHandle) : Os σ × FHandle :=
  match fileHandle.handle with
  | some fd => ({ os with fs := k.close fd os.fs }, { fileHandle with handle := none })
  | none => (os, fileHandle)

end Table

section Work

variable (fileHandle : FHandle)

/-- Count one more at work. -/
def waitToStartIo : FHandle :=
  { fileHandle with ioWork := fileHandle.ioWork + 1 }

/-- Reserve a file, unless any descriptor will do or nothing is to be reserved, and start work. -/
def fsalStartGlobalIo (openflags : FsalOpenflags) (bypass : Bool) (withShare : Bool) :
    FsalErrors × FHandle :=
  let openAny := openflags = fsalOAny
  if ¬openAny ∧ withShare then
    match checkShareConflictAndUpdate fileHandle.share fsalOClosed openflags bypass with
    -- A refused reservation starts no work.
    | (.errFsalShareDenied, share) => (.errFsalShareDenied, { fileHandle with share })
    | (.errFsalNoError, share) => (.errFsalNoError, waitToStartIo { fileHandle with share })
  else (.errFsalNoError, waitToStartIo fileHandle)

/-- Start work on a file, with a reservation of its own unless a state already has one. -/
def fsalStartIo (withState : Bool) (openflags : FsalOpenflags) (bypass : Bool) :
    FsalErrors × FHandle :=
  -- With a state the work is counted twice, once here and once below.
  let fileHandle := if withState then waitToStartIo fileHandle else fileHandle
  fsalStartGlobalIo fileHandle openflags bypass (!withState)

/-- Add to a counter unless it has a given value, and tell whether it was added to. -/
def atomicAddUnless (var addend except : Int32) : Bool × Int32 :=
  if var = except then (false, var) else (true, var + addend)

/-- Count a counter down, and tell whether it reached zero from one. -/
def mutexDecAndLock (var : Int32) : Bool × Int32 :=
  match atomicAddUnless var (-1) 1 with
  | (true, var) => (false, var)
  -- The last step down is made under the lock.
  | (false, var) =>
    let var := var + -1
    (var = 0, var)

/-- Count one less at work. -/
def fsalCompleteIo : FHandle :=
  { fileHandle with ioWork := (mutexDecAndLock fileHandle.ioWork).2 }

/-- Replace a reservation on a handle. -/
def updateShareCountersLocked (oldOpenflags newOpenflags : FsalOpenflags) : FHandle :=
  { fileHandle with share := updateShareCounters fileHandle.share oldOpenflags newOpenflags }

/-- Whichever way it is counted down, the counter goes down by one. -/
theorem mutexDecAndLock_snd (var : Int32) : (mutexDecAndLock var).2 = var + -1 := by
  -- The last step down differs from the others only in the lock it takes.
  unfold mutexDecAndLock atomicAddUnless
  by_cases last : var = 1 <;> simp [last]

/-- Completing work undoes starting it. -/
theorem fsalCompleteIo_waitToStartIo : fsalCompleteIo (waitToStartIo fileHandle) = fileHandle := by
  have back : fileHandle.ioWork + 1 + -1 = fileHandle.ioWork := by
    rw [Int32.add_assoc]
    exact Int32.add_zero _
  simp only [fsalCompleteIo, waitToStartIo, mutexDecAndLock_snd, back]

end Work

end Dnfs
