import Dnfs.Memory.Sizes
import Dnfs.Meta.SmartPtr
import Dnfs.Run.Locking

/-! The log of file infos: a buffer in memory, and one that is on its way to the disk. -/

namespace Dnfs

/-- The order of smart pointers is that of the addresses they hold. -/
def SmartPtr.cmp : SmartPtr → SmartPtr → Ordering := compareOn SmartPtr.ptr

instance : Std.TransCmp SmartPtr.cmp := inferInstanceAs (Std.TransCmp (compareOn SmartPtr.ptr))

/-- What is logged for each handle: where its info lies, or a null pointer. -/
abbrev LogBufferMap (ι : Type) := Std.ExtTreeMap SmartPtr (Option ι) SmartPtr.cmp

/-- The handles whose infos are to be saved under one path. -/
abbrev DiskMap := Std.ExtTreeMap String (List SmartPtr)

/-- How many handles are logged before the buffer is switched. -/
def binLogBufferLimit : Int32 := 100

/-- The log. -/
structure BinLog (ι : Type) where
  memeryBuffer : LogBufferMap ι
  /-- The buffer on its way to the disk, or a null pointer. -/
  diskBuffer : Option (LogBufferMap ι)
  binLogFd : Int32
  bufferChangeCount : Int32

/-- What the system answers while a buffer is switched. -/
structure SwitchEnv where
  /-- Whether the log file can be renamed. -/
  renames : Bool
  /-- The descriptor of the new log file, or -1. -/
  opened : Int32

/-- The lock of a log. -/
inductive BinLogLock where
  | bufferLock
  deriving DecidableEq, Repr

namespace BinLog

variable {ι : Type} (generateFileSave : ι → String)

/-- A log as its constructor sets it up, with what the counter happens to hold. -/
def new (count : Int32) : BinLog ι := ⟨∅, none, -1, count⟩

/-- More than the limit is logged, and nothing is on its way to the disk. -/
def needSwitch (log : BinLog ι) : Bool :=
  asSize binLogBufferLimit < log.memeryBuffer.size && log.diskBuffer.isNone

/-- Sort the handles of a buffer by where their infos are to be saved. All of them need an info. -/
def objectMapping (buffer : LogBufferMap ι) : Option DiskMap :=
  buffer.toList.foldlM (fun diskM (handle, info) => info.map fun info =>
    let savePath := generateFileSave info
    diskM.insert savePath (diskM.getD savePath [] ++ [handle])) ∅

/-- Hand the sorted handles on, which is to be written yet, and give up the buffer. -/
def dispatchTask (log : BinLog ι) (_diskM : DiskMap) : BinLog ι := { log with diskBuffer := none }

/-- Bring a buffer to the disk. -/
def persistOldBinlog (log : BinLog ι) : Option (BinLog ι) := do
  let diskBuffer ← log.diskBuffer
  let diskM ← objectMapping generateFileSave diskBuffer
  return log.dispatchTask diskM

/-- Switch the buffer. The program ends if the log file cannot be renamed or made anew. -/
def switchBuffer (env : SwitchEnv) (log : BinLog ι) : Locking BinLogLock (BinLog ι) := do
  Locking.lock .bufferLock
  let log := { log with diskBuffer := some log.memeryBuffer }
  guard (env.renames ∧ env.opened ≠ -1)
  let log := { log with binLogFd := env.opened, memeryBuffer := ∅ }
  Locking.unlock .bufferLock
  (log.persistOldBinlog generateFileSave : Option (BinLog ι))

/-- Change the info of a handle, or enter it, which may make a switch of the buffer due. -/
def enter (env : SwitchEnv) (handle : SmartPtr) (info : Option ι) (log : BinLog ι) :
    Locking BinLogLock (BinLog ι) :=
  if handle ∈ log.memeryBuffer then
    pure { log with memeryBuffer := log.memeryBuffer.modify handle fun _ => info }
  else
    let log := { log with memeryBuffer := log.memeryBuffer.insertIfNew handle info }
    if log.needSwitch then log.switchBuffer generateFileSave env else pure log

/-- Log the info of a handle, under the lock. -/
def pushInfo (env : SwitchEnv) (handle : SmartPtr) (info : Option ι) (log : BinLog ι) :
    Locking BinLogLock (BinLog ι) := do
  Locking.lock .bufferLock
  let log ← log.enter generateFileSave env handle info
  let log := { log with bufferChangeCount := log.bufferChangeCount + 1 }
  Locking.unlock .bufferLock
  return log

/-- Look up a handle, with what the function's own copy of the pointer holds at the end. -/
def lookUp (handle : SmartPtr) (_objInfo : Option ι) (log : BinLog ι) : Bool × Option ι :=
  let objInfo := none
  match log.memeryBuffer[handle]? with
  | some info => (true, info)
  | none => (false, objInfo)

/-- Find the info of a handle. The pointer is passed by value, so the caller's own stays. -/
def findInfo (handle : SmartPtr) (out : Option ι) (log : BinLog ι) : Bool × Option ι :=
  let (found, _) := log.lookUp handle out
  (found, out)

end BinLog

end Dnfs
