import Dnfs.Log.LogBuffer
import Dnfs.Run.Sequences
import Dnfs.Run.SpoolSteps

/-! What becomes of every log message, with the steps of all threads interleaved in any order. -/

namespace Dnfs

variable {ι κ : Type}

/-- What a phase of `out` has done to the queues and the list of messages. -/
def OutPhase.stage : OutPhase → SpoolStage (Fin 10)
  | resetNum => .gathering ∅
  | resetSize => .gathering ∅
  | collect i => .gathering (Finset.univ.filter (· < i))
  | sort => .gathering Finset.univ
  | print count => .writing count
  | clear => .written
  | leave => .cleared

namespace LogPc

/-- The flush that a thread is in, and how far that has got. -/
def running : LogPc κ → Option (Nat × SpoolStage (Fin 10))
  | out _ flush phase => some (flush, phase.stage)
  | _ => none

/-- The flush for which a thread has yet to get the lock. -/
def waiting : LogPc κ → Option Nat
  | entering _ flush => some flush
  | _ => none

/-- The call of `add_log_buffer` that a thread is in, if its message is queued. -/
def call : LogPc κ → Option Nat
  | counting call => some call
  | notifying call => some call
  | _ => none

end LogPc

namespace LogBuffer

/-- The flush that has the lock, and how far that has got. -/
def running (s : LogBuffer ι κ) : Option (Nat × SpoolStage (Fin 10)) :=
  s.flushMtx.bind fun i => (s.pc i).running

/-- The buffer as queues, a batch and an output, without the threads. -/
def spool (s : LogBuffer ι κ) (waiting : Finset Nat) : Spool (Fin 10) (LogEntry κ) where
  queues := s.bufferMap
  batch := s.logMassageList
  output := s.output
  added := s.added
  begun := s.begun
  waiting := waiting
  running := s.running
  finished := s.finished

end LogBuffer

section Threads

variable {pc : ι → LogPc κ} {begun : Nat} {waiting : Finset Nat} {flushMtx : Option ι}
  {added : List (LogEntry κ)} {returned : List Nat}

/-- Every flush that has yet to get the lock is that of one thread. -/
structure Waits (pc : ι → LogPc κ) (begun : Nat) (waiting : Finset Nat) : Prop where
  mem : ∀ flush, flush ∈ waiting ↔ ∃ i, (pc i).waiting = some flush
  apart : ∀ i j flush, (pc i).waiting = some flush → (pc j).waiting = some flush → i = j
  below : ∀ i flush, (pc i).waiting = some flush → flush < begun

/-- Only the thread that has the lock is in `out`. -/
def Holds (pc : ι → LogPc κ) (flushMtx : Option ι) : Prop :=
  ∀ i, (pc i).running.isSome → flushMtx = some i

/-- Every message that was queued is known under the number of its call. -/
structure CallsKnown (pc : ι → LogPc κ) (added : List (LogEntry κ)) (returned : List Nat) :
    Prop where
  numbered : ∀ (k : Nat) entry, added[k]? = some entry → entry.call = k
  calls : ∀ i call, (pc i).call = some call → call < added.length
  returned : ∀ call ∈ returned, call < added.length

/-- The next number is new. -/
theorem CallsKnown.new (called : CallsKnown pc added returned) (message : LogMessage κ) :
    ⟨added.length, message⟩ ∉ added := by
  -- It would stand at its own number, which is past the end.
  intro mem
  obtain ⟨k, at_⟩ := List.getElem?_of_mem mem
  obtain ⟨below, _⟩ := List.getElem?_eq_some_iff.mp at_
  exact Nat.lt_irrefl _ (called.numbered k _ at_ ▸ below)

/-- Two messages under one number are the same. -/
theorem CallsKnown.injective (called : CallsKnown pc added returned) {x y : LogEntry κ}
    (memX : x ∈ added) (memY : y ∈ added) (same : x.call = y.call) : x = y := by
  obtain ⟨k, atX⟩ := List.getElem?_of_mem memX
  obtain ⟨l, atY⟩ := List.getElem?_of_mem memY
  rw [called.numbered k x atX, called.numbered l y atY] at same
  exact Option.some.inj (atX.symm.trans (same ▸ atY))

variable [DecidableEq ι] {i : ι} {next : LogPc κ}

/-- A thread that waits for no lock and goes on to where it waits for none changes nothing. -/
theorem Waits.same (waits : Waits pc begun waiting) (before : (pc i).waiting = none)
    (after : next.waiting = none) : Waits (Function.update pc i next) begun waiting := by
  have same : ∀ j, (Function.update pc i next j).waiting = (pc j).waiting := by
    intro j
    rw [Function.apply_update fun _ => LogPc.waiting, after, ← before, Function.update_eq_self]
  exact ⟨by simpa only [same] using waits.mem, by simpa only [same] using waits.apart,
    by simpa only [same] using waits.below⟩

/-- A flush that is begun gets the next number. -/
theorem Waits.begin (waits : Waits pc begun waiting) (before : (pc i).waiting = none)
    (after : next.waiting = some begun) :
    Waits (Function.update pc i next) (begun + 1) (insert begun waiting) := by
  -- Whoever waits now waited before, or is the thread that has begun.
  have cases : ∀ j flush, (Function.update pc i next j).waiting = some flush ↔
      j = i ∧ flush = begun ∨ (pc j).waiting = some flush := by
    intro j flush
    by_cases here : j = i
    · subst here
      rw [Function.update_self, after, before]
      simp [eq_comm]
    · simp [here]
  refine ⟨fun flush => ?_, fun j k flush first second => ?_, fun j flush waits' => ?_⟩
  · simp only [Finset.mem_insert, waits.mem, cases]
    constructor
    · rintro (rfl | ⟨j, before⟩)
      · exact ⟨i, .inl ⟨rfl, rfl⟩⟩
      · exact ⟨j, .inr before⟩
    · rintro ⟨j, ⟨_, rfl⟩ | before⟩
      · exact .inl rfl
      · exact .inr ⟨j, before⟩
  · -- Nobody waited under the number that is given out now.
    rcases (cases j flush).mp first with ⟨rfl, rfl⟩ | earlier
    · rcases (cases k flush).mp second with ⟨rfl, _⟩ | later
      · rfl
      · exact absurd (waits.below k flush later) (Nat.lt_irrefl _)
    · rcases (cases k flush).mp second with ⟨rfl, rfl⟩ | later
      · exact absurd (waits.below j _ earlier) (Nat.lt_irrefl _)
      · exact waits.apart j k flush earlier later
  · rcases (cases j flush).mp waits' with ⟨_, rfl⟩ | earlier
    · exact Nat.lt_succ_self _
    · exact Nat.lt_succ_of_lt (waits.below j flush earlier)

/-- A flush that gets the lock no longer waits for it. -/
theorem Waits.enter (waits : Waits pc begun waiting) {flush : Nat}
    (before : (pc i).waiting = some flush) (after : next.waiting = none) :
    Waits (Function.update pc i next) begun (waiting.erase flush) := by
  -- All but the flush that enters wait as before.
  have cases : ∀ j other, (Function.update pc i next j).waiting = some other ↔
      other ≠ flush ∧ (pc j).waiting = some other := by
    intro j other
    by_cases here : j = i
    · subst here
      rw [Function.update_self, after, before]
      simp [eq_comm]
    · rw [Function.update_of_ne here]
      refine ⟨fun waits' => ⟨?_, waits'⟩, fun both => both.2⟩
      rintro rfl
      exact here (waits.apart j i other waits' before)
  refine ⟨fun other => ?_, fun j k other first second => ?_, fun j other waits' => ?_⟩
  · simp only [Finset.mem_erase, waits.mem, cases, exists_and_left]
  · exact waits.apart j k other ((cases j other).mp first).2 ((cases k other).mp second).2
  · exact waits.below j other ((cases j other).mp waits').2

/-- Where one thread has gone on, it is judged by itself and the others as before. -/
theorem Holds.update (here : next.running.isSome → flushMtx = some i)
    (others : ∀ j ≠ i, (pc j).running.isSome → flushMtx = some j) :
    Holds (Function.update pc i next) flushMtx :=
  (Function.forall_update_iff pc fun j pc => pc.running.isSome → flushMtx = some j).mpr
    ⟨here, others⟩

/-- A thread that goes on to somewhere else than `out` needs no lock for it. -/
theorem Holds.outside (holds : Holds pc flushMtx) (after : next.running = none) :
    Holds (Function.update pc i next) flushMtx :=
  .update (by simp [after]) fun j _ => holds j

/-- A thread that goes on in `out` has the lock. -/
theorem Holds.inside (holds : Holds pc flushMtx) (before : (pc i).running.isSome) :
    Holds (Function.update pc i next) flushMtx :=
  .update (fun _ => holds i before) fun j _ => holds j

/-- A thread that gets the lock is the only one in `out`. -/
theorem Holds.enter (holds : Holds pc none) : Holds (Function.update pc i next) (some i) :=
  .update (fun _ => rfl) fun j _ within => absurd (holds j within) (by simp)

/-- Nobody is in `out` when the lock was given back. -/
theorem Holds.leave (holds : Holds pc flushMtx) (before : (pc i).running.isSome)
    (after : next.running = none) : Holds (Function.update pc i next) none :=
  -- Whoever else is in `out` would have had the lock of this one.
  .update (by simp [after]) fun j differs within =>
    absurd (Option.some.inj ((holds j within).symm.trans (holds i before))) differs

/-- A thread goes on in a call whose message is queued, or in none of these. -/
theorem CallsKnown.goto (called : CallsKnown pc added returned)
    (after : ∀ call, next.call = some call → call < added.length) :
    CallsKnown (Function.update pc i next) added returned := by
  refine { called with calls := ?_ }
  exact (Function.forall_update_iff pc fun _ pc => ∀ call, pc.call = some call →
    call < added.length).mpr ⟨after, fun j _ => called.calls j⟩

/-- One more message is known under the next number. -/
theorem CallsKnown.push (called : CallsKnown pc added returned) {message : LogMessage κ}
    (after : next.call = some added.length) :
    CallsKnown (Function.update pc i next) (added ++ [⟨added.length, message⟩]) returned := by
  have longer : (added ++ [(⟨added.length, message⟩ : LogEntry κ)]).length = added.length + 1 :=
    List.length_append
  refine ⟨fun k entry at_ => ?_, fun j call at_ => ?_, fun call mem => ?_⟩
  · -- A message stands where it did, or at the end under the number of that place.
    rcases Nat.lt_or_ge k added.length with below | above
    · exact called.numbered k entry ((List.getElem?_append_left below).symm.trans at_)
    · rw [List.getElem?_append_right above, List.getElem?_singleton] at at_
      split at at_
      · next last =>
        cases at_
        exact Nat.le_antisymm above (Nat.sub_eq_zero_iff_le.mp last)
      · cases at_
  · rw [longer]
    by_cases here : j = i
    · rw [here, Function.update_self, after] at at_
      cases at_
      exact Nat.lt_succ_self _
    · rw [Function.update_of_ne here] at at_
      exact Nat.lt_succ_of_lt (called.calls j call at_)
  · rw [longer]
    exact Nat.lt_succ_of_lt (called.returned call mem)

end Threads

section Simulation

variable {caller : LogCaller} {flush : Nat}

/-- What holds of all threads at every point. -/
structure Tracks (s : LogBuffer ι κ) (waiting : Finset Nat) : Prop where
  waits : Waits s.pc s.begun waiting
  holds : Holds s.pc s.flushMtx
  called : CallsKnown s.pc s.added s.returned

/-- All threads are idle at first. -/
theorem Tracks.start : Tracks (LogBuffer.start : LogBuffer ι κ) ∅ where
  waits := ⟨by simp [LogBuffer.start, LogPc.waiting], by simp [LogBuffer.start, LogPc.waiting],
    by simp [LogBuffer.start, LogPc.waiting]⟩
  holds := by simp [Holds, LogBuffer.start, LogPc.running]
  called := ⟨by simp [LogBuffer.start], by simp [LogBuffer.start, LogPc.call],
    by simp [LogBuffer.start]⟩

variable {s t : LogBuffer ι κ} {i : ι} {next : LogPc κ} {waiting : Finset Nat}

/-- A thread that is in `out` is the flush that runs. -/
theorem Tracks.runs (tracks : Tracks s waiting) {phase : OutPhase}
    (at_ : s.pc i = .out caller flush phase) : s.running = some (flush, phase.stage) := by
  rw [LogBuffer.running, tracks.holds i (by rw [at_]; rfl), Option.bind_some, at_]
  rfl

variable [DecidableEq ι]

/-- Whoever is outside `out` before and after leaves the flush that runs alone. -/
theorem running_outside (before : (s.pc i).running = none) (after : next.running = none) :
    (s.goto i next).running = s.running := by
  have same : ∀ j, (Function.update s.pc i next j).running = (s.pc j).running := by
    intro j
    rw [Function.apply_update fun _ => LogPc.running, after, ← before, Function.update_eq_self]
  rw [LogBuffer.running, LogBuffer.running]
  simp only [LogBuffer.goto, same]

/-- Going on outside a flush leaves the queues, the batch and the output as they are. -/
theorem Tracks.outside (tracks : Tracks s waiting) {pc : LogPc κ} (at_ : s.pc i = pc)
    (before : pc.running = none ∧ pc.waiting = none) (next : LogPc κ)
    (after : next.running = none ∧ next.waiting = none)
    (calls : ∀ call, next.call = some call → call < s.added.length) :
    Tracks (s.goto i next) waiting ∧ (s.goto i next).spool waiting = s.spool waiting := by
  subst at_
  refine ⟨⟨tracks.waits.same before.2 after.2, tracks.holds.outside after.1,
    tracks.called.goto calls⟩, ?_⟩
  -- The spool depends on the threads only through the flush that runs.
  show { s.spool waiting with running := (s.goto i next).running } = s.spool waiting
  rw [running_outside before.1 after.1]
  rfl

/-- Beginning a flush has it wait for the lock. -/
theorem Tracks.begin (tracks : Tracks s waiting) (at_ : s.pc i = .idle) (caller : LogCaller) :
    Tracks (s.begin i caller) (insert s.begun waiting) ∧
      Spool.Step InTime (s.spool waiting) ((s.begin i caller).spool (insert s.begun waiting)) := by
  refine ⟨⟨tracks.waits.begin (by rw [at_]; rfl) rfl, tracks.holds.outside rfl,
    tracks.called.goto nofun⟩, ?_⟩
  show Spool.Step InTime _ { s.spool waiting with
    begun := _, waiting := _, running := (s.goto i (.entering caller s.begun)).running }
  rw [running_outside (by rw [at_]; rfl) rfl]
  exact .begin

/-- Queueing a message puts it at the end of one queue. -/
theorem Tracks.pushBack (tracks : Tracks s waiting) {threadId : UInt32} {message : LogMessage κ}
    (at_ : s.pc i = .adding threadId message) :
    Tracks (s.pushBack i threadId message) waiting ∧
      Spool.Step InTime (s.spool waiting) ((s.pushBack i threadId message).spool waiting) := by
  refine ⟨⟨tracks.waits.same (by rw [at_]; rfl) rfl, tracks.holds.outside rfl,
    tracks.called.push rfl⟩, ?_⟩
  show Spool.Step InTime _ { s.spool waiting with
    queues := _, added := _, running := (s.goto i (.counting s.added.length)).running }
  -- Nobody in the middle of adding is in `out`, so whatever flush runs goes on.
  rw [running_outside (by rw [at_]; rfl) rfl]
  exact Spool.Step.push (hashId threadId) (⟨s.added.length, message⟩ : LogEntry κ)
    (tracks.called.new message)

/-- Getting the lock has a flush run. -/
theorem Tracks.enter (tracks : Tracks s waiting) (at_ : s.pc i = .entering caller flush)
    (free : s.flushMtx = none) :
    Tracks { s.goto i (.out caller flush .resetNum) with flushMtx := some i }
        (waiting.erase flush) ∧
      Spool.Step InTime (s.spool waiting)
        (({ s.goto i (.out caller flush .resetNum) with flushMtx := some i } :
          LogBuffer ι κ).spool (waiting.erase flush)) := by
  have waits : (s.pc i).waiting = some flush := by
    rw [at_]
    rfl
  refine ⟨⟨tracks.waits.enter waits rfl, (free ▸ tracks.holds).enter, tracks.called.goto nofun⟩,
    ?_⟩
  -- The flush starts with nothing taken.
  have runs : ({ s.goto i (.out caller flush .resetNum) with flushMtx := some i } :
      LogBuffer ι κ).running = some (flush, .gathering ∅) := by
    simp [LogBuffer.running, LogBuffer.goto, LogPc.running, OutPhase.stage]
  show Spool.Step InTime _ { s.spool waiting with
    waiting := _, running := LogBuffer.running { s.goto i (.out caller flush .resetNum) with
      flushMtx := some i } }
  rw [runs]
  refine .enter flush ((tracks.waits.mem flush).mpr ⟨i, waits⟩) ?_
  show s.running = none
  rw [LogBuffer.running, free, Option.bind_none]

/-- Going on in `out` leaves everyone where the locks have them, so only the flush takes a step. -/
theorem Tracks.inside (tracks : Tracks s waiting) {phase : OutPhase}
    (at_ : s.pc i = .out caller flush phase) (next : OutPhase)
    (pc : t.pc = (s.goto i (.out caller flush next)).pc) (begun : t.begun = s.begun)
    (flushMtx : t.flushMtx = s.flushMtx) (added : t.added = s.added)
    (returned : t.returned = s.returned)
    (does : { t.spool waiting with running := some (flush, next.stage) } = s.spool waiting ∨
      Spool.Step InTime (s.spool waiting)
        { t.spool waiting with running := some (flush, next.stage) }) :
    Tracks t waiting ∧ (t.spool waiting = s.spool waiting ∨
      Spool.Step InTime (s.spool waiting) (t.spool waiting)) := by
  -- Only the place of the flush inside `out` changes.
  have kept : Tracks t waiting := by
    refine ⟨?_, ?_, ?_⟩
    · rw [pc, begun]
      exact tracks.waits.same (by rw [at_]; rfl) rfl
    · rw [pc, flushMtx]
      exact tracks.holds.inside (by rw [at_]; rfl)
    · rw [pc, added, returned]
      exact tracks.called.goto nofun
  have here : t.pc i = .out caller flush next := by
    rw [pc]
    exact Function.update_self ..
  rw [← kept.runs here] at does
  exact ⟨kept, does⟩

/-- Giving the lock back ends the flush. -/
theorem Tracks.leave (tracks : Tracks s waiting) (at_ : s.pc i = .out caller flush .leave)
    (next : LogPc κ) (idle : next.running = none ∧ next.waiting = none ∧ next.call = none) :
    Tracks { s.goto i next with flushMtx := none, finished := flush :: s.finished } waiting ∧
      Spool.Step InTime (s.spool waiting)
        { s.spool waiting with running := none, finished := flush :: s.finished } := by
  obtain ⟨notRunning, notWaiting, notCalling⟩ := idle
  refine ⟨⟨tracks.waits.same (by rw [at_]; rfl) notWaiting,
    tracks.holds.leave (by rw [at_]; rfl) notRunning,
    tracks.called.goto (by simp [notCalling])⟩, .leave flush (tracks.runs at_)⟩

/-- Taking one queue after the other takes them all. -/
theorem stage_collect (queue : Fin 10) :
    (if more : queue.val + 1 < 10 then OutPhase.collect ⟨queue.val + 1, more⟩ else .sort).stage
      = .gathering (insert queue (Finset.univ.filter (· < queue))) := by
  -- The queue after the last is where sorting begins.
  split
  · rw [OutPhase.stage]
    congr 1
    ext other
    simp only [Finset.mem_insert, Finset.mem_filter, Finset.mem_univ, true_and, Fin.lt_def,
      Fin.ext_iff]
    omega
  · rw [OutPhase.stage]
    congr 1
    ext other
    simp only [Finset.mem_insert, Finset.mem_filter, Finset.mem_univ, true_and, true_iff,
      Fin.lt_def, Fin.ext_iff]
    omega

variable [DecidableEq κ] {act : LogAct κ}

/-- A step of `out` is one of the flush that runs, or changes nothing that matters. -/
theorem Tracks.out (tracks : Tracks s waiting) {phase : OutPhase}
    (at_ : s.pc i = .out caller flush phase) (took : s.out i caller flush phase act = some t) :
    Tracks t waiting ∧ (t.spool waiting = s.spool waiting ∨
      Spool.Step InTime (s.spool waiting) (t.spool waiting)) := by
  have before := tracks.runs at_
  have same : { s.spool waiting with running := some (flush, phase.stage) } = s.spool waiting :=
    congrArg (fun running => { s.spool waiting with running }) before.symm
  rw [LogBuffer.out.eq_def] at took
  split at took
  · -- The counters matter to nobody but those who notify.
    cases took
    exact tracks.inside at_ .resetSize rfl rfl rfl rfl rfl (.inl same)
  · cases took
    have none : (OutPhase.collect 0).stage = .gathering ∅ :=
      congrArg SpoolStage.gathering (by decide)
    refine tracks.inside at_ (.collect 0) rfl rfl rfl rfl rfl (.inl ?_)
    rw [none]
    exact same
  · next queue =>
    cases took
    refine tracks.inside at_ _ rfl rfl rfl rfl rfl (.inr ?_)
    rw [stage_collect]
    exact .gather flush _ queue before
  · next list =>
    split at took
    · next sorts =>
      cases took
      -- The thread may order the messages in any way that is in time.
      exact tracks.inside at_ (.print 0) rfl rfl rfl rfl rfl
        (.inr (.sort flush list before sorts.1 sorts.2))
    · cases took
  · next count =>
    split at took
    · next entry found =>
      cases took
      exact tracks.inside at_ (.print (count + 1)) rfl rfl rfl rfl rfl
        (.inr (.write flush count entry before found))
    · next missing =>
      cases took
      exact tracks.inside at_ .clear rfl rfl rfl rfl rfl
        (.inr (.wrote flush count before (List.getElem?_eq_none_iff.mp missing)))
  · cases took
    exact tracks.inside at_ .leave rfl rfl rfl rfl rfl (.inr (.clear flush before))
  · split at took
    · cases took
      obtain ⟨kept, leaves⟩ := tracks.leave at_ .idle ⟨rfl, rfl, rfl⟩
      exact ⟨kept, .inr leaves⟩
    · cases took
      obtain ⟨kept, leaves⟩ := tracks.leave at_ (if s.stopBuffer then .stopped else .idle)
        (by split <;> exact ⟨rfl, rfl, rfl⟩)
      exact ⟨⟨kept.waits, kept.holds, kept.called⟩, .inr leaves⟩
  · cases took

/-- Whatever a thread does, the queues, the batch and the output take a step of theirs or none. -/
theorem Tracks.step (tracks : Tracks s waiting) (took : s.step (i, act) = some t) :
    ∃ waiting', Tracks t waiting' ∧ (t.spool waiting' = s.spool waiting ∨
      Spool.Step InTime (s.spool waiting) (t.spool waiting')) := by
  -- Only beginning a flush, queueing a message and getting the lock are steps of the spool.
  cases at_ : s.pc i with
  | idle =>
    cases act with
    | addLogBuffer threadId message =>
      obtain rfl : s.goto i (.adding threadId message) = t := by
        simpa [LogBuffer.step, at_] using took
      obtain ⟨kept, same⟩ := tracks.outside at_ ⟨rfl, rfl⟩ (.adding threadId message) ⟨rfl, rfl⟩
        nofun
      exact ⟨waiting, kept, .inl same⟩
    | flush =>
      obtain rfl : s.begin i .flush = t := by simpa [LogBuffer.step, at_] using took
      obtain ⟨kept, begins⟩ := tracks.begin at_ .flush
      exact ⟨_, kept, .inr begins⟩
    | wake =>
      by_cases free : s.writeMtx.isNone
      · obtain rfl : { s.begin i .outputThread with writeMtx := some i, notified := false } = t :=
          by simpa [LogBuffer.step, at_, free] using took
        obtain ⟨kept, begins⟩ := tracks.begin at_ .outputThread
        exact ⟨_, ⟨kept.waits, kept.holds, kept.called⟩, .inr begins⟩
      · simp [LogBuffer.step, at_, free] at took
    | setStopBufferFlag =>
      obtain rfl : { s with stopBuffer := true } = t := by simpa [LogBuffer.step, at_] using took
      exact ⟨waiting, ⟨tracks.waits, tracks.holds, tracks.called⟩, .inl rfl⟩
    | _ => simp [LogBuffer.step, at_] at took
  | adding threadId message =>
    cases act with
    | next =>
      obtain rfl : s.pushBack i threadId message = t := by simpa [LogBuffer.step, at_] using took
      obtain ⟨kept, pushes⟩ := tracks.pushBack at_
      exact ⟨_, kept, .inr pushes⟩
    | _ => simp [LogBuffer.step, at_] at took
  | counting call =>
    cases act with
    | next =>
      obtain rfl : { s.goto i (.notifying call) with logNum := s.logNum + 1 } = t := by
        simpa [LogBuffer.step, at_] using took
      -- The message of the call was queued before it was counted.
      have known : call < s.added.length := tracks.called.calls i call (by rw [at_]; rfl)
      obtain ⟨kept, same⟩ := tracks.outside at_ ⟨rfl, rfl⟩ (.notifying call) ⟨rfl, rfl⟩
        (fun other same => Option.some.inj same ▸ known)
      exact ⟨waiting, ⟨kept.waits, kept.holds, kept.called⟩, .inl same⟩
    | _ => simp [LogBuffer.step, at_] at took
  | notifying call =>
    cases act with
    | next =>
      by_cases free : s.writeMtx.isNone
      · have known : call < s.added.length := tracks.called.calls i call (by rw [at_]; rfl)
        obtain ⟨kept, same⟩ := tracks.outside at_ ⟨rfl, rfl⟩ .idle ⟨rfl, rfl⟩ nofun
        simp only [LogBuffer.step, at_, free, if_true, Option.some.injEq] at took
        subst took
        refine ⟨waiting, ⟨kept.waits, kept.holds, { kept.called with returned := ?_ }⟩, .inl same⟩
        exact List.forall_mem_cons.mpr ⟨known, tracks.called.returned⟩
      · simp [LogBuffer.step, at_, free] at took
    | _ => simp [LogBuffer.step, at_] at took
  | entering caller flush =>
    cases act with
    | next =>
      by_cases free : s.flushMtx.isNone
      · obtain rfl : { s.goto i (.out caller flush .resetNum) with flushMtx := some i } = t := by
          simpa [LogBuffer.step, at_, free] using took
        obtain ⟨kept, enters⟩ := tracks.enter at_ (Option.isNone_iff_eq_none.mp free)
        exact ⟨_, kept, .inr enters⟩
      · simp [LogBuffer.step, at_, free] at took
    | _ => simp [LogBuffer.step, at_] at took
  | out caller flush phase =>
    obtain ⟨kept, does⟩ := tracks.out at_ (by simpa only [LogBuffer.step, at_] using took)
    exact ⟨waiting, kept, does⟩
  | stopped => simp [LogBuffer.step, at_] at took

end Simulation

end Dnfs
