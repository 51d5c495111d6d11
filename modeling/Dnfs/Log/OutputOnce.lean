import Dnfs.Log.Flushes

/-! Every log message is output once, in order within a flush, and none is lost. -/

namespace Dnfs

variable {ι κ : Type}

/-- What one flush has output. -/
def LogBuffer.outputBy (s : LogBuffer ι κ) (flush : Nat) : List (LogEntry κ) :=
  (s.output.filter (·.1 = flush)).map Prod.snd

/-- The buffer in every state that can be reached. -/
def LogBuffer.Kept (s : LogBuffer ι κ) (waiting : Finset Nat) : Prop :=
  Tracks s waiting ∧ (s.spool waiting).Sound InTime

/-- Moments in order are those whose microseconds are. -/
theorem InTime.le {x y : LogEntry κ} (inTime : InTime x y) :
    x.message.recordTime.microseconds ≤ y.message.recordTime.microseconds := by
  have notBefore : ¬y.message.recordTime.microseconds < x.message.recordTime.microseconds :=
    of_decide_eq_false inTime
  exact UInt64.not_lt.mp notBefore

/-- In the beginning there is nothing to keep. -/
theorem LogBuffer.Kept.start : (LogBuffer.start : LogBuffer ι κ).Kept ∅ :=
  ⟨Tracks.start, .empty InTime⟩

variable [DecidableEq ι] [DecidableEq κ]

section Running

variable {s t : LogBuffer ι κ} {event : ι × LogAct κ} {waiting : Finset Nat}

/-- A step keeps every message in its place, and brings old ones nearer to the output. -/
theorem LogBuffer.Kept.step (kept : s.Kept waiting) {old : LogEntry κ → Prop} {first : Nat}
    (reaches : (s.spool waiting).Reaches old first) (took : s.step event = some t) :
    ∃ waiting', t.Kept waiting' ∧ (t.spool waiting').Reaches old first := by
  obtain ⟨waiting', tracks, same | does⟩ := kept.1.step took
  · refine ⟨waiting', ⟨tracks, ?_⟩, ?_⟩
    · rw [same]
      exact kept.2
    · rw [same]
      exact reaches
  · exact ⟨waiting', ⟨tracks, does.sound kept.2⟩, does.reaches kept.2.toWritten reaches⟩

/-- What was queued at some point is old to all flushes that are begun after it. -/
theorem LogBuffer.Kept.run (kept : s.Kept waiting) {events : List (ι × LogAct κ)}
    (runs : events.foldlM (fun s event => LogBuffer.step event s) s = some t) :
    ∃ waiting', t.Kept waiting' ∧ (t.spool waiting').Reaches (· ∈ s.added) s.begun := by
  let inv (now : LogBuffer ι κ) : Prop :=
    ∃ waiting, now.Kept waiting ∧ (now.spool waiting).Reaches (· ∈ s.added) s.begun
  have keeps : ∀ now event next, inv now → LogBuffer.step event now = some next → inv next := by
    rintro now event next ⟨_, kept, reaches⟩ took
    exact kept.step reaches took
  have begins : inv s := ⟨waiting, kept, kept.2.toNumbered.reaches⟩
  exact invariant_of_run keeps begins runs

end Running

/--
However the threads interleave, a message whose call has returned is output once by the end of any
flush that is begun after that, nothing is output twice or without having been queued, and what
one flush outputs is in the order of time.
-/
theorem logBuffer_outputsOnce (first second : List (ι × LogAct κ)) (s t : LogBuffer ι κ)
    (begins : first.foldlM (fun s event => LogBuffer.step event s) LogBuffer.start = some s)
    (goesOn : second.foldlM (fun s event => LogBuffer.step event s) s = some t) :
    (∀ flush ∈ t.finished, s.begun ≤ flush → ∀ call ∈ s.returned,
      (t.output.map (·.2.call)).count call = 1) ∧
    (t.output.map (·.2.call)).Nodup ∧
    (∀ out ∈ t.output, out.2 ∈ t.added) ∧
    ∀ flush, (t.outputBy flush).Pairwise fun x y =>
      x.message.recordTime.microseconds ≤ y.message.recordTime.microseconds := by
  obtain ⟨waiting, keptFirst, _⟩ := LogBuffer.Kept.start.run begins
  obtain ⟨waiting', ⟨tracks, sound⟩, reaches⟩ := keptFirst.run goesOn
  obtain ⟨nodup, queued⟩ := sound.output
  have calls : t.output.map (·.2.call) = (t.output.map Prod.snd).map LogEntry.call := by
    rw [List.map_map]
    rfl
  have once : (t.output.map (·.2.call)).Nodup := by
    rw [calls]
    exact List.Nodup.map_on (fun x memX y memY same =>
      tracks.called.injective (queued x memX) (queued y memY) same) nodup
  refine ⟨fun flush finished later call returned => ?_, once,
    fun out mem => queued out.2 (List.mem_map_of_mem mem),
    fun flush => (sound.sorted flush).imp InTime.le⟩
  -- The message was queued when its call returned, so it is old to the flush.
  have known := keptFirst.1.called.returned call returned
  have old : s.added[call] ∈ s.added := List.getElem_mem known
  have number : s.added[call].call = call :=
    keptFirst.1.called.numbered call _ (List.getElem?_eq_getElem known)
  refine List.count_eq_one_of_mem once ?_
  rw [calls]
  exact List.mem_map.mpr ⟨_, sound.reached reaches finished later old, number⟩

section Demo

/-- Two threads that share a queue add a message each, the later one first. -/
def testAdds : List (Nat × LogAct Nat) :=
  [(0, .addLogBuffer 3 ⟨⟨5⟩, 70⟩), (1, .addLogBuffer 13 ⟨⟨2⟩, 71⟩), (0, .next), (1, .next),
    (1, .next), (0, .next), (0, .next), (1, .next)]

/-- A third thread flushes them. -/
def testFlush : List (Nat × LogAct Nat) :=
  (2, .flush) :: List.replicate 13 (2, .next) ++
    (2, .sorted [⟨1, ⟨⟨2⟩, 71⟩⟩, ⟨0, ⟨⟨5⟩, 70⟩⟩]) :: List.replicate 5 (2, .next)

def testAdded : LogBuffer Nat Nat :=
  (testAdds.foldlM (fun s event => LogBuffer.step event s) LogBuffer.start).getD .start

def testFlushed : LogBuffer Nat Nat :=
  (testFlush.foldlM (fun s event => LogBuffer.step event s) testAdded).getD .start

end Demo

theorem logBuffer_outputsOnce_two :
    testAdded.returned = [1, 0] ∧ testFlushed.finished = [0] ∧
      (testFlushed.output.map (·.2.call)).count 0 = 1 ∧
      (testFlushed.output.map (·.2.call)).count 1 = 1 := by
  have once := logBuffer_outputsOnce testAdds testFlush testAdded testFlushed rfl rfl
  exact ⟨rfl, rfl, once.1 0 (by decide) (by decide) 0 (by decide),
    once.1 0 (by decide) (by decide) 1 (by decide)⟩

end Dnfs
