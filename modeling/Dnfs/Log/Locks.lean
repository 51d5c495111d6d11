import Dnfs.Log.LogBuffer
import Dnfs.Run.LockOrder

/-! The locks of the logger, in the order in which every function takes and gives them back. -/

namespace Dnfs

/-- The locks of the buffer of log messages. -/
inductive LogMutex where
  /-- Held for as long as nothing may be added. -/
  | bufferMtx
  | writeMtx
  | flushMtx
  /-- The lock of one queue. -/
  | mtx (queue : Fin 10)
  deriving DecidableEq, Repr

namespace LogMutex

/--
What `LogBuffer::out` does with the locks.

If printing a message throws, the other queues are left out. Nothing catches that in
`output_thread`, where it ends the process with the locks still held.
-/
def out : List (LockAct LogMutex) := (List.finRange 10).flatMap fun i => withLock (.mtx i) []

/-- What `LogBuffer::flush` does with them. -/
def flush : List (LockAct LogMutex) := withLock .flushMtx out

/-- What `LogBuffer::add_log_buffer` does with them. -/
def addLogBuffer (threadId : UInt32) : List (LockAct LogMutex) :=
  -- The first two guards are in a block of their own, the last one is taken after it.
  withLock .bufferMtx (withLock (.mtx (hashId threadId)) []) ++ withLock .writeMtx []

/-- What one round of `LogBuffer::output_thread` does with them. -/
def outputThread : List (LockAct LogMutex) :=
  withLock .writeMtx (waitFor .writeMtx ++ withLock .flushMtx out)

/-- What a function does that keeps everybody from adding, flushes, and then sets attributes. -/
def configure : List (LockAct LogMutex) := withLock .bufferMtx flush

end LogMutex

/-- The functions of the logger that come to use a lock, with what decides whether they do. -/
inductive LoggerCall where
  /-- `_log`, which may not print the message and may end the program. -/
  | log (threadId : UInt32) (printed exits : Bool)
  | flush
  | outputThread
  | setLogOutput
  /-- A module that does not exist makes this throw at once, as it does below. -/
  | setModuleLogOutput (moduleExists : Bool)
  | setLogLevel
  | setModuleLogLevel (moduleExists : Bool)
  | setFormatter
  | setModuleFormatter (moduleExists : Bool)
  | setDateFormat
  | setModuleDateFormat (moduleExists : Bool)
  | copyModuleAttrFrom (srcExists targetExists : Bool)
  | setAllModuleAttrDefault
  deriving DecidableEq, Repr

open LogMutex in
/-- What a call does with the locks, from its beginning to its end. -/
def LoggerCall.locks : LoggerCall → List (LockAct LogMutex)
  | log threadId printed exits =>
    -- What is logged while the message is formatted is logged before any lock is taken.
    (if printed then addLogBuffer threadId else []) ++ if exits then LogMutex.flush else []
  | flush => LogMutex.flush
  | outputThread => LogMutex.outputThread
  | setLogOutput => configure
  | setModuleLogOutput moduleExists => if moduleExists then configure else []
  | setLogLevel => configure
  | setModuleLogLevel moduleExists => if moduleExists then configure else []
  | setFormatter => configure
  | setModuleFormatter moduleExists => if moduleExists then configure else []
  | setDateFormat => configure
  | setModuleDateFormat moduleExists => if moduleExists then configure else []
  | copyModuleAttrFrom srcExists targetExists =>
    if srcExists then if targetExists then configure else [] else []
  | setAllModuleAttrDefault => configure

namespace LogMutex

/-- The order in which all functions take the locks. -/
def rank : LogMutex → Nat
  | bufferMtx => 0
  | writeMtx => 0
  | flushMtx => 1
  | mtx _ => 2

/-- There are three ranks. -/
theorem rank_lt (m : LogMutex) : m.rank < 3 := by
  cases m <;> simp [rank]

/-- The locks of the queues are above all others, and only one of them is held at a time. -/
theorem within_out {held : Finset LogMutex} (above : ∀ h ∈ held, rank h < 2) :
    Within rank held out :=
  .flatMap fun _ _ => .withLock above .nil

/-- A flush takes its lock first and those of the queues after it. -/
theorem within_flush {held : Finset LogMutex} (above : ∀ h ∈ held, rank h < 1) :
    Within rank held flush := by
  refine .withLock above (within_out ?_)
  exact (Finset.forall_mem_insert ..).mpr ⟨by decide, fun h mem => Nat.lt_succ_of_lt (above h mem)⟩

/-- Adding a message never holds the lock of the output thread beside another. -/
theorem within_addLogBuffer (threadId : UInt32) : Within rank ∅ (addLogBuffer threadId) := by
  -- Everything the first block took is given back before the last guard.
  refine .append (.withLock (by simp) (.withLock ?_ .nil)) (.withLock (by simp) .nil)
  simp [rank]

/-- Configuring flushes below the lock that keeps the others out. -/
theorem within_configure : Within rank ∅ configure := by
  refine .withLock (by simp) (within_flush ?_)
  simp [rank]

/-- A round of the output thread waits before it flushes. -/
theorem within_outputThread : Within rank ∅ outputThread := by
  refine .withLock (by simp) (.append (.waitFor (by simp)) (within_flush ?_))
  simp [rank]

end LogMutex

/-- A call that may throw at once climbs, whether it does or not. -/
theorem within_ite {rank : LogMutex → Nat} {body : List (LockAct LogMutex)} (exists_ : Bool)
    (within : Within rank ∅ body) : Within rank ∅ (if exists_ then body else []) := by
  cases exists_
  · exact .nil
  · exact within

/-- Every function of the logger takes the locks in the one order. -/
theorem LoggerCall.climbs (call : LoggerCall) : Climbs LogMutex.rank ∅ call.locks := by
  have flushes : Within LogMutex.rank ∅ LogMutex.flush := LogMutex.within_flush (by simp)
  have configures := LogMutex.within_configure
  apply Within.climbs
  -- Those that configure without a check are the last case.
  cases call with
  | log threadId printed exits =>
    exact (within_ite printed (LogMutex.within_addLogBuffer threadId)).append
      (within_ite exits flushes)
  | flush => exact flushes
  | outputThread => exact LogMutex.within_outputThread
  | copyModuleAttrFrom srcExists targetExists =>
    exact within_ite srcExists (within_ite targetExists configures)
  | setModuleLogOutput moduleExists | setModuleLogLevel moduleExists
  | setModuleFormatter moduleExists | setModuleDateFormat moduleExists =>
    exact within_ite moduleExists configures
  | _ => exact configures

/--
However many threads log, flush and configure beside the output thread, and however their steps
interleave, no threads ever wait for each other in a circle and none takes a lock that it holds.
-/
theorem logger_neverDeadlocks {ι : Type} [DecidableEq ι] (events : List (ι × Option LoggerCall))
    (s : LockRun ι LogMutex)
    (runs : events.foldlM (fun s event => LockRun.step LoggerCall.locks event s) LockRun.start
      = some s) :
    ¬s.Circle ∧ ¬s.Relocks := by
  have ordered := LockRun.Ordered.run LoggerCall.climbs runs
  exact ⟨ordered.not_circle LogMutex.rank_lt, ordered.not_relocks⟩

section Demo

/-- One thread has begun to configure and flushes, when another one wants to log. -/
def testLocks : List (Nat × Option LoggerCall) :=
  [(0, some .setLogOutput), (1, some (.log 7 true false)), (0, none), (0, none), (0, none)]

/-- The first thread holds the lock, and the other one waits for it. -/
def testLocked : LockRun Nat LogMutex :=
  (testLocks.foldlM (fun s event => LockRun.step LoggerCall.locks event s) .start).getD .start

end Demo

/-- Waiting for a lock that is held is no deadlock. -/
theorem logger_neverDeadlocks_two :
    testLocked.owner .bufferMtx = some 0 ∧ testLocked.Wants 1 .bufferMtx ∧
      ¬testLocked.Circle ∧ ¬testLocked.Relocks :=
  ⟨rfl, ⟨_, rfl⟩, logger_neverDeadlocks testLocks testLocked rfl⟩

end Dnfs
