import Dnfs.Log.OutputOnce
import Dnfs.Run.SpoolOrder

/-! What one thread logs is output in the order in which it was logged. -/

namespace Dnfs

variable {ι κ : Type}

/-- The message that a thread is about to queue. -/
def LogPc.adding? : LogPc κ → Option (LogMessage κ)
  | adding _ message => some message
  | _ => none

section Logging

variable [DecidableEq ι]

/-- The messages that a thread has logged, in order. -/
def loggedBy (i : ι) (events : List (ι × LogAct κ)) : List (LogMessage κ) :=
  events.filterMap fun event =>
    match event.2 with
    | .addLogBuffer _ message => if event.1 = i then some message else none
    | _ => none

variable (tid : κ → ι) (low : ι → UInt32)

/-- A message carries the id of the thread that logs it, and is queued by the low half of that. -/
def LogsAs (event : ι × LogAct κ) : Prop :=
  ∀ threadId message, event.2 = .addLogBuffer threadId message →
    threadId = low event.1 ∧ tid message.content = event.1

/-- Every thread logs as itself, and records a later time with every message. -/
structure LogsForward (events : List (ι × LogAct κ)) : Prop where
  asItself : ∀ event ∈ events, LogsAs tid low event
  later : ∀ i, (loggedBy i events).Pairwise fun x y =>
    x.recordTime.microseconds < y.recordTime.microseconds

/-- The messages of a thread that were output, in order. -/
def LogBuffer.outputOf (s : LogBuffer ι κ) (i : ι) : List (LogMessage κ) :=
  (s.output.map (·.2.message)).filter (tid ·.content = i)

end Logging

section Steps

variable [DecidableEq ι] {s t : LogBuffer ι κ} {i : ι} {act : LogAct κ}

/-- A message goes to the end of the queue of its thread. -/
theorem LogBuffer.pushBack_bufferMap (threadId : UInt32) (message : LogMessage κ) :
    (s.pushBack i threadId message).bufferMap = Function.update s.bufferMap (hashId threadId)
      (s.bufferMap (hashId threadId) ++ [⟨s.added.length, message⟩]) := rfl

/-- What else happens than queueing a message leaves the queues as they are or empties them. -/
def LogBuffer.Passes (s : LogBuffer ι κ) (i : ι) (act : LogAct κ) (t : LogBuffer ι κ) : Prop :=
  (s.pc i).adding? = none ∧ (∀ threadId message, act ≠ .addLogBuffer threadId message) ∧
    (∃ pc : LogPc κ, pc.adding? = none ∧ t.pc = Function.update s.pc i pc) ∧ t.added = s.added ∧
    ∀ queue, t.bufferMap queue = s.bufferMap queue ∨ t.bufferMap queue = []

/-- Going on to another place queues nothing. -/
theorem LogBuffer.passes_goto {pc next : LogPc κ} (at_ : s.pc i = pc)
    (notAdding : pc.adding? = none)
    (other : ∀ threadId message, act ≠ .addLogBuffer threadId message)
    (nextNot : next.adding? = none) (moves : t.pc = Function.update s.pc i next)
    (added : t.added = s.added) (queues : t.bufferMap = s.bufferMap) : s.Passes i act t :=
  ⟨at_ ▸ notAdding, other, ⟨next, nextNot, moves⟩, added, fun queue => .inl (congrFun queues queue)⟩

/-- Going on is not logging. -/
theorem LogAct.next_ne_add (threadId : UInt32) (message : LogMessage κ) :
    LogAct.next ≠ .addLogBuffer threadId message := by
  intro same
  cases same

variable [DecidableEq κ]

/-- A step of `out` queues nothing. -/
theorem LogBuffer.passes_out {caller : LogCaller} {flush : Nat} {phase : OutPhase}
    (at_ : s.pc i = .out caller flush phase)
    (took : s.out i caller flush phase act = some t) : s.Passes i act t := by
  rw [LogBuffer.out.eq_def] at took
  -- Only collecting touches a queue, and it leaves that queue empty.
  split at took
  · cases took
    exact passes_goto at_ rfl LogAct.next_ne_add rfl rfl rfl rfl
  · cases took
    exact passes_goto at_ rfl LogAct.next_ne_add rfl rfl rfl rfl
  · next queue =>
    cases took
    refine ⟨by rw [at_]; rfl, LogAct.next_ne_add, ⟨_, ?_, rfl⟩, rfl, fun other => ?_⟩
    · rfl
    · by_cases same : other = queue
      · subst same
        exact .inr (Function.update_self ..)
      · exact .inl (Function.update_of_ne same ..)
  · split at took <;> cases took
    -- Sorting is told its result, but logs nothing.
    refine passes_goto at_ rfl (fun _ _ same => ?_) rfl rfl rfl rfl
    cases same
  · split at took <;> cases took <;> exact passes_goto at_ rfl LogAct.next_ne_add rfl rfl rfl rfl
  · cases took
    exact passes_goto at_ rfl LogAct.next_ne_add rfl rfl rfl rfl
  · split at took
    · cases took
      exact passes_goto at_ rfl LogAct.next_ne_add rfl rfl rfl rfl
    · cases took
      refine passes_goto at_ rfl LogAct.next_ne_add ?_ rfl rfl rfl
      split <;> rfl
  · cases took

/-- A thread begins to log a message, queues it, or does something else. -/
theorem LogBuffer.step_cases (took : s.step (i, act) = some t) :
    (∃ threadId message, s.pc i = .idle ∧ act = .addLogBuffer threadId message ∧
      t = s.goto i (.adding threadId message)) ∨
    (∃ threadId message, s.pc i = .adding threadId message ∧ act = .next ∧
      t = s.pushBack i threadId message) ∨ s.Passes i act t := by
  rw [LogBuffer.step.eq_def] at took
  dsimp only at took
  -- The first two places are those of a thread that logs.
  split at took
  · next threadId message at_ =>
    cases took
    exact .inl ⟨threadId, message, at_, rfl, rfl⟩
  · next threadId message at_ =>
    cases took
    exact .inr (.inl ⟨threadId, message, at_, rfl, rfl⟩)
  · next at_ =>
    cases took
    exact .inr (.inr (passes_goto at_ rfl nofun rfl rfl rfl rfl))
  · next at_ =>
    split at took <;> cases took
    exact .inr (.inr (passes_goto at_ rfl nofun rfl rfl rfl rfl))
  · next at_ =>
    cases took
    exact .inr (.inr (passes_goto at_ rfl nofun rfl rfl rfl rfl))
  · next at_ =>
    split at took <;> cases took
    exact .inr (.inr (passes_goto at_ rfl nofun rfl rfl rfl rfl))
  · next at_ =>
    cases took
    -- Asking the output thread to stop moves nobody.
    have stays : s.pc = Function.update s.pc i .idle := by rw [← at_, Function.update_eq_self]
    exact .inr (.inr (passes_goto at_ rfl nofun rfl stays rfl rfl))
  · next at_ =>
    split at took <;> cases took
    exact .inr (.inr (passes_goto at_ rfl nofun rfl rfl rfl rfl))
  · next at_ => exact .inr (.inr (passes_out at_ took))
  · cases took

end Steps

section Order

variable [DecidableEq ι] {tid : κ → ι} {low : ι → UInt32} {past : List (ι × LogAct κ)}
  {s t : LogBuffer ι κ} {event : ι × LogAct κ}

/-- What a thread logs later comes behind what it logged. -/
theorem loggedBy_append (i : ι) (first second : List (ι × LogAct κ)) :
    loggedBy i (first ++ second) = loggedBy i first ++ loggedBy i second :=
  List.filterMap_append

/-- Whoever does something else than to log has logged nothing more. -/
theorem loggedBy_other (j : ι) (event : ι × LogAct κ)
    (other : ∀ threadId message, event.2 ≠ .addLogBuffer threadId message) :
    loggedBy j [event] = [] := by
  obtain ⟨i, act⟩ := event
  cases act with
  | addLogBuffer threadId message => exact absurd rfl (other threadId message)
  | _ => rfl

/-- What was logged forward up to now was so before. -/
theorem LogsForward.before (forward : LogsForward tid low (past ++ [event])) :
    LogsForward tid low past where
  asItself other mem := forward.asItself other (List.mem_append_left _ mem)
  later i := by
    refine (forward.later i).sublist ?_
    rw [loggedBy_append]
    exact List.sublist_append_left _ _

variable (tid low) in
/-- Where the messages of every thread are that logs as itself. -/
structure Logged (past : List (ι × LogAct κ)) (s : LogBuffer ι κ) : Prop where
  adding : ∀ i threadId message, s.pc i = .adding threadId message →
    threadId = low i ∧ tid message.content = i
  placed : ∀ queue, ∀ entry ∈ s.bufferMap queue, queue = hashId (low (tid entry.message.content))
  logged : ∀ i, (s.added.map (·.message)).filter (tid ·.content = i) ++ (s.pc i).adding?.toList
    = loggedBy i past

/-- Nobody has logged anything yet. -/
theorem Logged.start : Logged tid low [] (LogBuffer.start : LogBuffer ι κ) where
  adding := by simp [LogBuffer.start]
  placed := by simp [LogBuffer.start]
  logged _ := rfl

/-- Whoever goes on to queue a message of its own leaves what the others queue alone. -/
theorem Logged.adding_update (logged : Logged tid low past s) {i : ι} {pc : LogPc κ}
    (here : ∀ threadId message, pc = .adding threadId message →
      threadId = low i ∧ tid message.content = i) :
    ∀ j threadId message, Function.update s.pc i pc j = .adding threadId message →
      threadId = low j ∧ tid message.content = j :=
  (Function.forall_update_iff s.pc fun j pc => ∀ threadId message,
    pc = .adding threadId message → threadId = low j ∧ tid message.content = j).mpr
    ⟨here, fun j _ => logged.adding j⟩

/-- A thread begins to log. -/
theorem Logged.begins (logged : Logged tid low past s) {i : ι} {threadId : UInt32}
    {message : LogMessage κ} (idle : s.pc i = .idle)
    (asItself : threadId = low i ∧ tid message.content = i) :
    Logged tid low (past ++ [(i, .addLogBuffer threadId message)])
      (s.goto i (.adding threadId message)) where
  adding := logged.adding_update fun otherId other same => by
    cases same
    exact asItself
  placed := logged.placed
  logged j := by
    -- What the thread is about to queue is the last that it logged.
    rw [loggedBy_append, ← logged.logged j]
    by_cases here : j = i
    · subst here
      simp [LogBuffer.goto, idle, LogPc.adding?, loggedBy]
    · simp [LogBuffer.goto, here, loggedBy, Ne.symm here]

/-- A thread queues what it logs. -/
theorem Logged.pushBack (logged : Logged tid low past s) {i : ι} {threadId : UInt32}
    {message : LogMessage κ} (at_ : s.pc i = .adding threadId message) :
    Logged tid low (past ++ [(i, .next)]) (s.pushBack i threadId message) := by
  -- The message is the thread's own, so its queue is that of the thread.
  obtain ⟨ownId, own⟩ := logged.adding i threadId message at_
  refine ⟨logged.adding_update nofun, fun queue entry mem => ?_, fun j => ?_⟩
  · rw [LogBuffer.pushBack_bufferMap] at mem
    by_cases same : queue = hashId threadId
    · rw [same, Function.update_self] at mem
      rcases List.mem_append.mp mem with before | last
      · exact same ▸ logged.placed _ entry before
      · rw [List.mem_singleton.mp last, same, own, ownId]
    · rw [Function.update_of_ne same] at mem
      exact logged.placed queue entry mem
  · rw [loggedBy_append, loggedBy_other j (i, .next) nofun, List.append_nil, ← logged.logged j]
    -- For the thread the message moves from its hands to the end of what was added.
    by_cases here : j = i
    · subst here
      simp [LogBuffer.pushBack, LogBuffer.goto, at_, LogPc.adding?, own]
    · have away : ¬tid message.content = j := fun same => here (same.symm.trans own)
      simp [LogBuffer.pushBack, LogBuffer.goto, here, away]

/-- A thread does something else. -/
theorem Logged.passes (logged : Logged tid low past s) {i : ι} {act : LogAct κ}
    (passes : s.Passes i act t) : Logged tid low (past ++ [(i, act)]) t := by
  obtain ⟨notAdding, other, ⟨pc, nextNot, moves⟩, added, queues⟩ := passes
  -- Nobody has a message in hands that was not there before.
  have same : ∀ j, (t.pc j).adding? = (s.pc j).adding? := by
    intro j
    rw [moves, Function.apply_update fun _ => LogPc.adding?, nextNot, ← notAdding,
      Function.update_eq_self]
  refine ⟨?_, fun queue entry mem => ?_, fun j => ?_⟩
  · rw [moves]
    refine logged.adding_update fun threadId message same => ?_
    rw [same] at nextNot
    cases nextNot
  · rcases queues queue with kept | none_
    · exact logged.placed queue entry (kept ▸ mem)
    · rw [none_] at mem
      cases mem
  · rw [loggedBy_append, loggedBy_other j (i, act) other, List.append_nil, added, same j]
    exact logged.logged j

/-- Whatever a thread does, all messages are where they belong. -/
theorem Logged.step [DecidableEq κ] (logged : Logged tid low past s)
    (asItself : LogsAs tid low event) (took : s.step event = some t) :
    Logged tid low (past ++ [event]) t := by
  obtain ⟨i, act⟩ := event
  -- A thread takes a message in its hands, lets go of it, or neither.
  rcases LogBuffer.step_cases took with ⟨threadId, message, idle, rfl, rfl⟩ |
    ⟨threadId, message, at_, rfl, rfl⟩ | passes
  · exact logged.begins idle (asItself threadId message rfl)
  · exact logged.pushBack at_
  · exact logged.passes passes

/-- The messages that a thread has queued are in the order of time. -/
theorem Logged.ordered (logged : Logged tid low past s) (forward : LogsForward tid low past)
    (i : ι) :
    (s.added.filter (tid ·.message.content = i)).Pairwise fun x y =>
      x.message.recordTime.microseconds < y.message.recordTime.microseconds := by
  have later := forward.later i
  -- What was queued comes first of what was logged, which is in order.
  rw [← logged.logged i] at later
  have mapped := (List.pairwise_append.mp later).1
  rw [List.filter_map] at mapped
  exact (List.pairwise_map (f := LogEntry.message)).mp mapped

/-- Messages of different times are sorted one way only. -/
theorem inTime_strict (x y : LogEntry κ)
    (earlier : x.message.recordTime.microseconds < y.message.recordTime.microseconds) :
    InTime x y ∧ ¬InTime y x := by
  simp only [InTime, TimeT.lt, decide_eq_false_iff_not, Classical.not_not]
  exact ⟨fun later => absurd (UInt64.lt_trans earlier later) (UInt64.lt_irrefl _), earlier⟩

/-- The buffer in every state that threads reach which log forward. -/
def KeptInOrder (tid : κ → ι) (low : ι → UInt32) (past : List (ι × LogAct κ))
    (s : LogBuffer ι κ) : Prop :=
  LogsForward tid low past → ∃ waiting, Tracks s waiting ∧ Logged tid low past s ∧
    (s.spool waiting).InOrder (fun entry => tid entry.message.content) fun i => hashId (low i)

/-- Nothing is out of order at first. -/
theorem KeptInOrder.start : KeptInOrder tid low [] (LogBuffer.start : LogBuffer ι κ) :=
  fun _ => ⟨∅, .start, .start, fun _ => rfl⟩

/-- Whatever a thread does, the messages of every thread stay in order. -/
theorem KeptInOrder.step [DecidableEq κ] (kept : KeptInOrder tid low past s)
    (took : s.step event = some t) : KeptInOrder tid low (past ++ [event]) t := by
  intro forward
  obtain ⟨waiting, tracks, logged, inOrder⟩ := kept forward.before
  have loggedNow := logged.step (forward.asItself event (by simp)) took
  -- The buffer takes a step that keeps the order of every owner, or none.
  obtain ⟨waiting', tracksNow, same | does⟩ := tracks.step took
  · exact ⟨waiting', tracksNow, loggedNow, same ▸ inOrder⟩
  · exact ⟨waiting', tracksNow, loggedNow, does.inOrder inTime_strict logged.placed loggedNow.placed
      (logged.ordered forward.before) inOrder⟩

end Order

/--
However the threads interleave, what is output of the messages of a thread comes first of what the
thread has logged, in the same order, if no two of its messages were recorded at the same time.
-/
theorem logBuffer_keepsOrder [DecidableEq ι] [DecidableEq κ] (tid : κ → ι) (low : ι → UInt32)
    (events : List (ι × LogAct κ)) (forward : LogsForward tid low events) (t : LogBuffer ι κ)
    (runs : events.foldlM (fun s event => LogBuffer.step event s) LogBuffer.start = some t)
    (i : ι) :
    t.outputOf tid i <+: loggedBy i events := by
  have kept : KeptInOrder tid low events t := by
    rw [← List.nil_append events]
    exact history_of_run (fun _ _ _ _ kept took => kept.step took) KeptInOrder.start runs
  obtain ⟨waiting, _, logged, inOrder⟩ := kept forward
  -- What was output of a thread comes first of what was queued.
  have first := (inOrder.output i).map LogEntry.message
  have output : t.outputOf tid i = (((t.spool waiting).output.map Prod.snd).filter
      (tid ·.message.content = i)).map LogEntry.message := by
    have messages : t.output.map (·.2.message) = (t.output.map Prod.snd).map LogEntry.message := by
      rw [List.map_map]
      rfl
    rw [LogBuffer.outputOf, messages, List.filter_map]
    rfl
  rw [output]
  refine first.trans ?_
  rw [← logged.logged i, List.filter_map]
  exact List.prefix_append _ _

section Demo

/-- The first of two messages of thread 0. -/
def testFirst : LogMessage (Nat × Nat) := ⟨⟨5⟩, 0, 70⟩

/-- The second, which may be recorded at the same time. -/
def testSecond (time : UInt64) : LogMessage (Nat × Nat) := ⟨⟨time⟩, 0, 71⟩

/-- Thread 0 logs both, and thread 1 flushes, where sorting leaves some list. -/
def testLogs (time : UInt64) (list : List (LogEntry (Nat × Nat))) :
    List (Nat × LogAct (Nat × Nat)) :=
  (0, .addLogBuffer 0 testFirst) :: List.replicate 3 (0, .next) ++
    (0, .addLogBuffer 0 (testSecond time)) :: List.replicate 3 (0, .next) ++
    (1, .flush) :: List.replicate 13 (1, .next) ++ (1, .sorted list) ::
    List.replicate 5 (1, .next)

/-- Both messages are those of thread 0. -/
theorem loggedBy_testLogs (time : UInt64) (list : List (LogEntry (Nat × Nat))) (i : Nat) :
    loggedBy i (testLogs time list) = if 0 = i then [testFirst, testSecond time] else [] := by
  by_cases zero : 0 = i
  · subst zero
    rfl
  · simp [loggedBy, testLogs, List.replicate, zero]

/-- Thread 0 logs as itself. -/
theorem logsAs_testLogs (time : UInt64) (list : List (LogEntry (Nat × Nat))) :
    ∀ event ∈ testLogs time list, LogsAs Prod.fst UInt32.ofNat event := by
  simp [testLogs, LogsAs, testFirst, testSecond]

end Demo

/-- Both messages of thread 0 come out in order. -/
theorem logBuffer_keepsOrder_two :
    ∃ t, (testLogs 6 [⟨0, testFirst⟩, ⟨1, testSecond 6⟩]).foldlM
        (fun s event => LogBuffer.step event s) LogBuffer.start = some t ∧
      t.outputOf Prod.fst 0 <+: [testFirst, testSecond 6] ∧ (t.outputOf Prod.fst 0).length = 2 := by
  have forward : LogsForward Prod.fst UInt32.ofNat
      (testLogs 6 [⟨0, testFirst⟩, ⟨1, testSecond 6⟩]) := by
    refine ⟨logsAs_testLogs 6 _, fun i => ?_⟩
    rw [loggedBy_testLogs]
    split
    · decide
    · exact .nil
  exact ⟨_, rfl, logBuffer_keepsOrder Prod.fst UInt32.ofNat _ forward _ rfl 0, rfl⟩

/-- Two messages of thread 0 that were recorded at the same time are output the other way round. -/
theorem logBuffer_keepsOrder_fails :
    (∀ event ∈ testLogs 5 [⟨1, testSecond 5⟩, ⟨0, testFirst⟩],
      LogsAs Prod.fst UInt32.ofNat event) ∧
    (∀ i, (loggedBy i (testLogs 5 [⟨1, testSecond 5⟩, ⟨0, testFirst⟩])).Pairwise fun x y =>
      x.recordTime.microseconds ≤ y.recordTime.microseconds) ∧
    loggedBy 0 (testLogs 5 [⟨1, testSecond 5⟩, ⟨0, testFirst⟩]) = [testFirst, testSecond 5] ∧
    ∃ t, (testLogs 5 [⟨1, testSecond 5⟩, ⟨0, testFirst⟩]).foldlM
        (fun s event => LogBuffer.step event s) LogBuffer.start = some t ∧
      t.outputOf Prod.fst 0 = [testSecond 5, testFirst] := by
  refine ⟨logsAs_testLogs 5 _, fun i => ?_, rfl, _, rfl, rfl⟩
  rw [loggedBy_testLogs]
  split
  · decide
  · exact .nil

end Dnfs
