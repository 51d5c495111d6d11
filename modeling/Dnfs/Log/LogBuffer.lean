import Mathlib.Tactic.Common

/-! The buffer of log messages: any thread adds to one of ten queues, and flushes output them. -/

namespace Dnfs

/-- When a message was recorded. -/
structure TimeT where
  microseconds : UInt64
  deriving DecidableEq, Repr

/-- Whether one moment is before another. -/
def TimeT.lt (time other : TimeT) : Bool := decide (time.microseconds < other.microseconds)

/-- A message, with all that it takes to print it. -/
structure LogMessage (κ : Type) where
  recordTime : TimeT
  content : κ
  deriving DecidableEq, Repr

/-- A message in the buffer, under the number of the call that added it. -/
structure LogEntry (κ : Type) where
  call : Nat
  message : LogMessage κ
  deriving DecidableEq, Repr

/-- Who calls `out`. -/
inductive LogCaller where
  | flush
  | outputThread
  deriving DecidableEq, Repr

/-- How far `out` has got. -/
inductive OutPhase where
  /-- The number of messages is about to be set to zero. -/
  | resetNum
  /-- The length of the longest queue is about to be set to zero. -/
  | resetSize
  /-- A queue is about to be taken. -/
  | collect (i : Fin 10)
  | sort
  /-- So many messages were output. -/
  | print (count : Nat)
  | clear
  /-- Everything is done but giving the locks back. -/
  | leave
  deriving DecidableEq, Repr

/-- Where a thread stands. -/
inductive LogPc (κ : Type) where
  | idle
  /-- About to queue its message. -/
  | adding (threadId : UInt32) (message : LogMessage κ)
  /-- About to count the message that it queued. -/
  | counting (call : Nat)
  /-- About to find out whether there are too many, and to return. -/
  | notifying (call : Nat)
  /-- About to get the lock for its flush. -/
  | entering (caller : LogCaller) (flush : Nat)
  | out (caller : LogCaller) (flush : Nat) (phase : OutPhase)
  /-- The output thread has ended. -/
  | stopped
  deriving DecidableEq, Repr

/-- What a thread does next. -/
inductive LogAct (κ : Type) where
  | addLogBuffer (threadId : UInt32) (message : LogMessage κ)
  | flush
  /-- Waiting for the condition ends, because of a notification or for the time it took. -/
  | wake
  | setStopBufferFlag
  /-- The call that the thread is in goes on. -/
  | next
  /-- Sorting leaves this, where messages of the same time may come in any order. -/
  | sorted (list : List (LogEntry κ))
  deriving DecidableEq, Repr

/-- The buffer, all threads that use it, and what happened so far. -/
structure LogBuffer (ι κ : Type) where
  logNum : Int32
  singleVectorSize : UInt64
  bufferMap : Fin 10 → List (LogEntry κ)
  logMassageList : List (LogEntry κ)
  writeMtx : Option ι
  flushMtx : Option ι
  stopBuffer : Bool
  /-- The condition was notified since the output thread last went on. -/
  notified : Bool
  pc : ι → LogPc κ
  /-- Every message that was queued, in the order of the numbers of their calls. -/
  added : List (LogEntry κ)
  /-- The calls of `add_log_buffer` that have returned. -/
  returned : List Nat
  /-- How many flushes were begun, which also numbers them. -/
  begun : Nat
  finished : List Nat
  /-- Every message that was output, with the number of the flush that did. -/
  output : List (Nat × LogEntry κ)

def maxMessageBufferCount : Int32 := 100

def maxSingleMessageCount : UInt64 := 20

/-- The queue of a thread. -/
def hashId (threadId : UInt32) : Fin 10 := ⟨threadId.toNat % 10, Nat.mod_lt _ (by decide)⟩

/-- The first of two messages was not recorded after the second. -/
def InTime {κ : Type} (x y : LogEntry κ) : Prop :=
  y.message.recordTime.lt x.message.recordTime = false

instance {κ : Type} : DecidableRel (InTime : LogEntry κ → LogEntry κ → Prop) :=
  fun x y => inferInstanceAs (Decidable (y.message.recordTime.lt x.message.recordTime = false))

namespace LogBuffer

variable {ι κ : Type}
variable (s : LogBuffer ι κ)

/-- Nobody has used the buffer yet. -/
def start : LogBuffer ι κ where
  logNum := 0
  singleVectorSize := 0
  bufferMap _ := []
  logMassageList := []
  writeMtx := none
  flushMtx := none
  stopBuffer := false
  notified := false
  pc _ := .idle
  added := []
  returned := []
  begun := 0
  finished := []
  output := []

variable [DecidableEq ι]

/-- A thread goes on to another place. -/
def goto (i : ι) (pc : LogPc κ) : LogBuffer ι κ :=
  { s with pc := Function.update s.pc i pc }

/-- Queue a message, under its own lock and that of its queue. -/
def pushBack (i : ι) (threadId : UInt32) (message : LogMessage κ) : LogBuffer ι κ :=
  let entry : LogEntry κ := ⟨s.added.length, message⟩
  let queue := s.bufferMap (hashId threadId) ++ [entry]
  let size := UInt64.ofNat queue.length
  { s.goto i (.counting entry.call) with
    bufferMap := Function.update s.bufferMap (hashId threadId) queue
    singleVectorSize := if s.singleVectorSize < size then size else s.singleVectorSize
    added := s.added ++ [entry] }

/-- Call `out`, whose number is that of the flush. -/
def begin (i : ι) (caller : LogCaller) : LogBuffer ι κ :=
  { s.goto i (.entering caller s.begun) with begun := s.begun + 1 }

variable [DecidableEq κ]

/-- `out` goes on. -/
def out (i : ι) (caller : LogCaller) (flush : Nat) :
    OutPhase → LogAct κ → Option (LogBuffer ι κ)
  | .resetNum, .next => some { s.goto i (.out caller flush .resetSize) with logNum := 0 }
  | .resetSize, .next =>
    some { s.goto i (.out caller flush (.collect 0)) with singleVectorSize := 0 }
  | .collect queue, .next =>
    let phase := if more : queue.val + 1 < 10 then .collect ⟨queue.val + 1, more⟩ else .sort
    some { s.goto i (.out caller flush phase) with
      logMassageList := s.logMassageList ++ s.bufferMap queue
      bufferMap := Function.update s.bufferMap queue [] }
  | .sort, .sorted list =>
    if list.Perm s.logMassageList ∧ list.Pairwise InTime then
      some { s.goto i (.out caller flush (.print 0)) with logMassageList := list }
    else none
  | .print count, .next =>
    match s.logMassageList[count]? with
    | some entry =>
      some { s.goto i (.out caller flush (.print (count + 1))) with
        output := s.output ++ [(flush, entry)] }
    | none => some (s.goto i (.out caller flush .clear))
  | .clear, .next => some { s.goto i (.out caller flush .leave) with logMassageList := [] }
  | .leave, .next =>
    match caller with
    | .flush =>
      some { s.goto i .idle with flushMtx := none, finished := flush :: s.finished }
    | .outputThread =>
      -- Both locks are given back at the end of every round.
      some { s.goto i (if s.stopBuffer then .stopped else .idle) with
        flushMtx := none, writeMtx := none, finished := flush :: s.finished }
  | _, _ => none

/-- One thread does something, unless it has to wait. -/
def step (event : ι × LogAct κ) (s : LogBuffer ι κ) : Option (LogBuffer ι κ) :=
  let i := event.1
  match s.pc i, event.2 with
  | .idle, .addLogBuffer threadId message => some (s.goto i (.adding threadId message))
  | .adding threadId message, .next => some (s.pushBack i threadId message)
  | .counting call, .next => some { s.goto i (.notifying call) with logNum := s.logNum + 1 }
  | .notifying call, .next =>
    if s.writeMtx.isNone then
      some { s.goto i .idle with
        notified := s.notified ||
          decide (s.logNum > maxMessageBufferCount ∨ s.singleVectorSize > maxSingleMessageCount)
        returned := call :: s.returned }
    else none
  | .idle, .flush => some (s.begin i .flush)
  | .idle, .wake =>
    if s.writeMtx.isNone then
      some { s.begin i .outputThread with writeMtx := some i, notified := false }
    else none
  | .idle, .setStopBufferFlag => some { s with stopBuffer := true }
  | .entering caller flush, .next =>
    if s.flushMtx.isNone then
      some { s.goto i (.out caller flush .resetNum) with flushMtx := some i }
    else none
  | .out caller flush phase, act => s.out i caller flush phase act
  | _, _ => none

end LogBuffer

end Dnfs
