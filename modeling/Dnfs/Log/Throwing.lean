import Dnfs.Log.OutputOnce
import Mathlib.Data.List.Sort

/-! What flushing does to the messages that wait, where the output of some of them throws. -/

namespace Dnfs

variable {κ : Type}

/-- What waits in the buffer while nobody flushes: the queues, and what an exception left over. -/
structure LogPending (κ : Type) where
  bufferMap : Fin 10 → List (LogEntry κ)
  logMassageList : List (LogEntry κ)
  /-- Every call of `add_log_buffer` has queued a message of its own. -/
  distinct : (logMassageList ++ (List.finRange 10).flatMap bufferMap).Nodup

namespace LogPending

/-- What the loop over the queues leaves in the list of messages. -/
def collected (s : LogPending κ) : List (LogEntry κ) :=
  s.logMassageList ++ (List.finRange 10).flatMap s.bufferMap

/-- Empty queues add nothing. -/
theorem flatMap_nil : (List.finRange 10).flatMap (fun _ => ([] : List (LogEntry κ))) = [] :=
  List.flatMap_eq_nil_iff.mpr fun _ _ => rfl

/-- Nothing waits but what is in the list of messages. -/
def ofList (list : List (LogEntry κ)) (distinct : list.Nodup) : LogPending κ where
  bufferMap _ := []
  logMassageList := list
  distinct := by
    rw [flatMap_nil, List.append_nil]
    exact distinct

/-- What was put into a map is collected from it in the same order. -/
@[simp] theorem collected_ofList (list : List (LogEntry κ)) (distinct : list.Nodup) :
    (ofList list distinct).collected = list := by
  rw [collected, ofList, flatMap_nil, List.append_nil]

end LogPending

/-- Messages that were passed to their output function, and whether that returned. -/
abbrev Passed (κ : Type) := List (LogEntry κ × Bool)

section Flushing

variable (throws : LogMessage κ → Bool)

/-- Output one message after the other, up to the first whose output throws. -/
def printAll : List (LogEntry κ) → Passed κ
  | [] => []
  | entry :: rest =>
    if throws entry.message then [(entry, false)] else (entry, true) :: printAll rest

/-- Some output throws, and ends the loop. -/
def Throws (list : List (LogEntry κ)) : Prop := ∃ entry ∈ list, throws entry.message = true

instance (list : List (LogEntry κ)) : Decidable (Throws throws list) :=
  inferInstanceAs (Decidable (∃ entry ∈ list, throws entry.message = true))

variable [DecidableEq κ]

/-- One flush, where sorting leaves a list that is in the order of time. -/
def LogPending.flush (list : List (LogEntry κ)) (s : LogPending κ × Passed κ) :
    Option (LogPending κ × Passed κ) :=
  if sorts : list.Perm s.1.collected ∧ list.Pairwise InTime then
    -- The list is cleared behind the loop, which an exception never reaches.
    let left : LogPending κ :=
      if Throws throws list then .ofList list (sorts.1.nodup_iff.mpr s.1.distinct)
      else .ofList [] List.nodup_nil
    some (left, s.2 ++ printAll throws list)
  else none

/-- No message is passed to its output function again, once that has returned. -/
def NeverAgain (passed : Passed κ) : Prop :=
  passed.Pairwise fun earlier later => earlier.2 = true → later.1 ≠ earlier.1

/--
Over any sequence of flushes, every message whose output does not throw is output once, and none is
passed to its output function again after that.
-/
def LogPending.Delivers (s : LogPending κ) : Prop :=
  ∀ (sorts : List (List (LogEntry κ))) (t : LogPending κ × Passed κ), sorts ≠ [] →
    sorts.foldlM (fun s list => LogPending.flush throws list s) (s, []) = some t →
    (∀ entry ∈ s.collected, throws entry.message = false → t.2.count (entry, true) = 1) ∧
      NeverAgain t.2

end Flushing

section Loop

variable {throws : LogMessage κ → Bool} {list : List (LogEntry κ)}

/-- If no output throws, all messages are output in turn. -/
theorem printAll_none (none_ : ¬Throws throws list) :
    printAll throws list = list.map (·, true) := by
  induction list with
  | nil => rfl
  | cons entry rest ih =>
    have here : ¬throws entry.message = true := fun throws_ => none_ ⟨entry, by simp, throws_⟩
    have later : ¬Throws throws rest :=
      fun ⟨other, mem, throws_⟩ => none_ ⟨other, by simp [mem], throws_⟩
    rw [printAll, if_neg here, ih later]
    rfl

/-- If the first output throws, nothing is output. -/
theorem printAll_first {entry : LogEntry κ} {rest : List (LogEntry κ)}
    (throws_ : throws entry.message = true) :
    printAll throws (entry :: rest) = [(entry, false)] := if_pos throws_

/-- Something is passed to its output function, unless there is nothing to output. -/
theorem printAll_cons {entry : LogEntry κ} {rest : List (LogEntry κ)}
    (returns : throws entry.message = false) :
    printAll throws (entry :: rest) = (entry, true) :: printAll throws rest :=
  if_neg (by simp [returns])

/-- What is output twice is passed to its output function again. -/
theorem not_neverAgain {entry : LogEntry κ} {before after : Passed κ}
    (again : (entry, true) ∈ after) : ¬NeverAgain ((entry, true) :: before ++ after) := by
  intro never
  rw [NeverAgain, List.cons_append, List.pairwise_cons] at never
  exact never.1 _ (List.mem_append_right before again) rfl rfl

end Loop

section Order

instance : Std.Total (InTime : LogEntry κ → LogEntry κ → Prop) where
  total x y := by
    -- Of two moments one is not after the other.
    simp only [InTime, TimeT.lt, decide_eq_false_iff_not, UInt64.not_lt]
    exact UInt64.le_total _ _

instance : IsTrans (LogEntry κ) InTime where
  trans x y z first second := by
    simp only [InTime, TimeT.lt, decide_eq_false_iff_not, UInt64.not_lt] at first second ⊢
    exact UInt64.le_trans first second

/-- Messages can always be sorted. -/
theorem exists_sorted (list : List (LogEntry κ)) :
    ∃ sorted : List (LogEntry κ), sorted.Perm list ∧ sorted.Pairwise InTime :=
  ⟨list.insertionSort InTime, List.perm_insertionSort InTime list,
    List.pairwise_insertionSort InTime list⟩

end Order

section Runs

variable [DecidableEq κ] {throws : LogMessage κ → Bool} {list : List (LogEntry κ)}
  {s t : LogPending κ × Passed κ}

/-- A flush passes on what it has sorted, and leaves all of it over if an output throws. -/
theorem LogPending.flush_cases (flushes : LogPending.flush throws list s = some t) :
    list.Perm s.1.collected ∧ t.2 = s.2 ++ printAll throws list ∧
      t.1.collected = if Throws throws list then list else [] := by
  rw [LogPending.flush] at flushes
  split at flushes
  · next sorts =>
    cases flushes
    refine ⟨sorts.1, rfl, ?_⟩
    dsimp only
    split <;> rw [collected_ofList]
  · cases flushes

/-- A list in the order of time is what some flush has sorted. -/
theorem LogPending.flush_sorted (throws : LogMessage κ → Bool) (s : LogPending κ × Passed κ)
    (perm : list.Perm s.1.collected) (inTime : list.Pairwise InTime) :
    ∃ t, LogPending.flush throws list s = some t := by
  rw [LogPending.flush, dif_pos ⟨perm, inTime⟩]
  exact ⟨_, rfl⟩

/-- Without an exception, the first flush outputs everything and the others find nothing. -/
theorem LogPending.run_returning {sorts : List (List (LogEntry κ))}
    (returns : ¬Throws throws s.1.collected)
    (runs : sorts.foldlM (fun s list => LogPending.flush throws list s) s = some t) :
    sorts = [] ∧ t = s ∨
      ∃ list : List (LogEntry κ), list.Perm s.1.collected ∧ t.2 = s.2 ++ list.map (·, true) := by
  -- The first flush outputs everything, and the others nothing.
  induction sorts generalizing s with
  | nil =>
    cases runs
    exact .inl ⟨rfl, rfl⟩
  | cons list sorts ih =>
    obtain ⟨next, flushes, rest⟩ := foldlM_cons_eq_some.mp runs
    obtain ⟨perm, passed, left⟩ := flush_cases flushes
    have none_ : ¬Throws throws list :=
      fun ⟨entry, mem, throws_⟩ => returns ⟨entry, perm.mem_iff.mp mem, throws_⟩
    rw [if_neg none_] at left
    have nothing : ¬Throws throws next.1.collected := by simp [left, Throws]
    rw [printAll_none none_] at passed
    refine .inr ⟨list, perm, ?_⟩
    rcases ih nothing rest with ⟨_, rfl⟩ | ⟨later, empty, more⟩
    · exact passed
    · rw [left] at empty
      rw [more, passed, empty.eq_nil, List.map_nil, List.append_nil]

/-- If all outputs throw, none ever returns. -/
theorem LogPending.run_throwing {sorts : List (List (LogEntry κ))}
    (throw : ∀ entry ∈ s.1.collected, throws entry.message = true)
    (none_ : ∀ out ∈ s.2, out.2 = false)
    (runs : sorts.foldlM (fun s list => LogPending.flush throws list s) s = some t) :
    ∀ out ∈ t.2, out.2 = false := by
  -- A flush that throws keeps all its messages for the next.
  induction sorts generalizing s with
  | nil =>
    cases runs
    exact none_
  | cons list sorts ih =>
    obtain ⟨next, flushes, rest⟩ := foldlM_cons_eq_some.mp runs
    obtain ⟨perm, passed, left⟩ := flush_cases flushes
    have all : ∀ entry ∈ list, throws entry.message = true :=
      fun entry mem => throw entry (perm.mem_iff.mp mem)
    refine ih (fun entry mem => all entry ?_) (fun out mem => ?_) rest
    · rw [left] at mem
      split at mem
      · exact mem
      · cases mem
    · rw [passed] at mem
      rcases List.mem_append.mp mem with before | now
      · exact none_ out before
      · cases list with
        | nil => cases now
        | cons entry others =>
          rw [printAll_first (all entry (by simp)), List.mem_singleton] at now
          rw [now]

end Runs

section Threads

variable {ι : Type} [DecidableEq ι] [DecidableEq κ] {s : LogBuffer ι κ} {i : ι}
  {caller : LogCaller} {flush : Nat}

/-- Where `out` stands when so many queues were taken. -/
def collecting (k : Nat) : OutPhase := if more : k < 10 then .collect ⟨k, more⟩ else .sort

/-- The events take the buffer from one state to another. -/
abbrev LogBuffer.Runs (s : LogBuffer ι κ) (events : List (ι × LogAct κ)) (t : LogBuffer ι κ) :=
  events.foldlM (fun s event => LogBuffer.step event s) s = some t

/-- Running one event and then others. -/
theorem LogBuffer.run_cons {event : ι × LogAct κ} {events : List (ι × LogAct κ)}
    {next t : LogBuffer ι κ} (took : s.step event = some next) (runs : next.Runs events t) :
    s.Runs (event :: events) t :=
  foldlM_cons_eq_some.mpr ⟨next, took, runs⟩

/-- Running some events and then others. -/
theorem LogBuffer.run_append {first second : List (ι × LogAct κ)} {next t : LogBuffer ι κ}
    (begins : s.Runs first next) (goesOn : next.Runs second t) : s.Runs (first ++ second) t := by
  rw [Runs, List.foldlM_append, begins]
  exact goesOn

/-- A thread that begins to flush gets the lock, and sets the counters to zero. -/
theorem LogBuffer.run_begin (idle : s.pc i = .idle) (free : s.flushMtx = none) :
    ∃ t, s.Runs [(i, .flush), (i, .next), (i, .next), (i, .next)] t ∧
      t.pc i = .out .flush s.begun (collecting 0) ∧ t.output = s.output ∧
      t.logMassageList = s.logMassageList ∧ t.bufferMap = s.bufferMap := by
  refine ⟨{ s.goto i (.out .flush s.begun (.collect 0)) with
    logNum := 0, singleVectorSize := 0, flushMtx := some i, begun := s.begun + 1 }, ?_,
    Function.update_self .., rfl, rfl, rfl⟩
  simp [Runs, LogBuffer.step, LogBuffer.out, LogBuffer.begin, LogBuffer.goto, idle, free]

/-- The thread that flushes takes the queues one by one. -/
theorem LogBuffer.run_collect {k left : Nat} (count : k + left = 10)
    (at_ : s.pc i = .out caller flush (collecting k)) :
    ∃ t, s.Runs (List.replicate left (i, .next)) t ∧ t.pc i = .out caller flush .sort ∧
      t.output = s.output ∧
      t.logMassageList = s.logMassageList ++ ((List.finRange 10).drop k).flatMap s.bufferMap ∧
      ∀ queue : Fin 10, t.bufferMap queue = if k ≤ queue.val then [] else s.bufferMap queue := by
  induction left generalizing s k with
  | zero =>
    obtain rfl : k = 10 := count
    refine ⟨s, rfl, at_, rfl, ?_, fun queue => ?_⟩
    · rw [List.drop_of_length_le (by simp), List.flatMap_nil, List.append_nil]
    · rw [if_neg (by omega)]
  | succ left ih =>
    have below : k < 10 := by omega
    rw [collecting, dif_pos below] at at_
    have took : s.step (i, .next) = some { s.goto i (.out caller flush (collecting (k + 1))) with
        logMassageList := s.logMassageList ++ s.bufferMap ⟨k, below⟩
        bufferMap := Function.update s.bufferMap ⟨k, below⟩ [] } := by
      simp only [LogBuffer.step, at_]
      rfl
    obtain ⟨t, runs, ends, output, list, queues⟩ := ih (k := k + 1) (s := { s.goto i _ with
        logMassageList := _, bufferMap := _ }) (by omega) (Function.update_self ..)
    refine ⟨t, LogBuffer.run_cons took runs, ends, output, ?_, fun queue => ?_⟩
    · have here : (List.finRange 10).drop k = ⟨k, below⟩ :: (List.finRange 10).drop (k + 1) := by
        rw [List.drop_eq_getElem_cons (by simpa using below), List.getElem_finRange]
        rfl
      -- The other queues are as they were.
      have others : ((List.finRange 10).drop (k + 1)).flatMap
          (Function.update s.bufferMap ⟨k, below⟩ [])
          = ((List.finRange 10).drop (k + 1)).flatMap s.bufferMap := by
        refine List.flatMap_congr fun queue mem => Function.update_of_ne ?_ ..
        rintro rfl
        obtain ⟨j, _, same⟩ := List.mem_drop_iff_getElem.mp mem
        rw [List.getElem_finRange] at same
        simp [Fin.ext_iff] at same
        omega
      rw [list, here, List.flatMap_cons, others, List.append_assoc]
    · rw [queues queue]
      by_cases same : queue = ⟨k, below⟩
      · subst same
        rw [if_neg (by simp), if_pos (Nat.le_refl k)]
        exact Function.update_self (⟨k, below⟩ : Fin 10) [] s.bufferMap
      · have differs : queue.val ≠ k := fun eq => same (Fin.ext eq)
        have kept : Function.update s.bufferMap ⟨k, below⟩ [] queue = s.bufferMap queue :=
          Function.update_of_ne same [] s.bufferMap
        simp only [kept, show k + 1 ≤ queue.val ↔ k ≤ queue.val by omega]

/-- It outputs one message after the other. -/
theorem LogBuffer.run_print {list : List (LogEntry κ)} (count : Nat) (all : s.logMassageList = list)
    (at_ : s.pc i = .out caller flush (.print count)) (within : count ≤ list.length) :
    ∃ t, s.Runs (List.replicate (list.length - count + 1) (i, .next)) t ∧
      t.pc i = .out caller flush .clear ∧ t.bufferMap = s.bufferMap ∧
      t.output = s.output ++ (list.drop count).map (flush, ·) := by
  obtain ⟨left, more⟩ : ∃ left, count + left = list.length := ⟨list.length - count, by omega⟩
  -- The induction is on how many messages are left to print.
  induction left generalizing s count with
  | zero =>
    obtain rfl : count = list.length := more
    have took : s.step (i, .next) = some (s.goto i (.out caller flush .clear)) := by
      simp [LogBuffer.step, at_, LogBuffer.out, all]
    refine ⟨s.goto i (.out caller flush .clear), ?_, Function.update_self .., rfl, ?_⟩
    · simpa [Runs] using took
    · simp [LogBuffer.goto]
  | succ left ih =>
    have below : count < list.length := by omega
    have took : s.step (i, .next) = some { s.goto i (.out caller flush (.print (count + 1))) with
        output := s.output ++ [(flush, list[count])] } := by
      simp [LogBuffer.step, at_, LogBuffer.out, all, below]
    obtain ⟨t, runs, ends, queues, output⟩ := ih (s := { s.goto i _ with output := _ })
      (count + 1) all (Function.update_self ..) below (by omega)
    refine ⟨t, ?_, ends, queues, ?_⟩
    · rw [show list.length - count + 1 = list.length - (count + 1) + 1 + 1 by omega]
      exact LogBuffer.run_cons took runs
    · rw [output, List.drop_eq_getElem_cons below]
      exact List.append_assoc ..

/-- It clears the list and gives the lock back. -/
theorem LogBuffer.run_leave (at_ : s.pc i = .out .flush flush .clear) :
    ∃ t, s.Runs [(i, .next), (i, .next)] t ∧ t.bufferMap = s.bufferMap ∧
      t.logMassageList = [] ∧ t.output = s.output := by
  refine ⟨{ s.goto i .idle with
    logMassageList := [], flushMtx := none, finished := flush :: s.finished }, ?_, rfl, rfl, rfl⟩
  simp [Runs, LogBuffer.step, at_, LogBuffer.out, LogBuffer.goto]

/--
Where no output throws, the steps of one thread alone can flush the buffer, and leave it as a flush
of what waits in it does.
-/
theorem LogBuffer.run_flush {throws : LogMessage κ → Bool} {list : List (LogEntry κ)}
    {pending left : LogPending κ} {before after : Passed κ}
    (queues : s.bufferMap = pending.bufferMap)
    (leftOver : s.logMassageList = pending.logMassageList)
    (idle : s.pc i = .idle) (free : s.flushMtx = none) (returns : ¬Throws throws list)
    (flushes : LogPending.flush throws list (pending, before) = some (left, after)) :
    ∃ (events : List (ι × LogAct κ)) (t : LogBuffer ι κ), (∀ event ∈ events, event.1 = i) ∧
      events.foldlM (fun s event => LogBuffer.step event s) s = some t ∧
      t.bufferMap = left.bufferMap ∧ t.logMassageList = left.logMassageList ∧
      (t.output.map fun out => (out.2, true)) = (s.output.map fun out => (out.2, true)) ++
        after.drop before.length := by
  rw [LogPending.flush] at flushes
  split at flushes
  · next sorts =>
    rw [printAll_none returns] at flushes
    cases flushes
    -- Begin, collect, sort, print and leave: each part goes on where the last one ended.
    obtain ⟨ready, begins, at_, output, list_, map_⟩ := LogBuffer.run_begin idle free
    obtain ⟨full, collects, atSort, outputFull, listFull, none_⟩ :=
      LogBuffer.run_collect (Nat.zero_add 10) at_
    have sorting : full.step (i, .sorted list) = some
        { full.goto i (.out .flush s.begun (.print 0)) with logMassageList := list } := by
      have both : list.Perm full.logMassageList ∧ list.Pairwise InTime := by
        rw [listFull, list_, map_, queues, leftOver]
        exact sorts
      simp only [LogBuffer.step, atSort]
      exact if_pos both
    obtain ⟨printed, prints, atClear, mapPrinted, outputPrinted⟩ := LogBuffer.run_print
      (s := { full.goto i (.out .flush s.begun (.print 0)) with logMassageList := list }) 0 rfl
      (Function.update_self ..) (Nat.zero_le _)
    obtain ⟨t, ends, mapEnd, listEnd, outputEnd⟩ := LogBuffer.run_leave atClear
    refine ⟨_, t, ?_, LogBuffer.run_append begins (LogBuffer.run_append collects
      (LogBuffer.run_cons sorting (LogBuffer.run_append prints ends))), ?_, listEnd, ?_⟩
    · simp only [List.forall_mem_append, List.forall_mem_cons, List.mem_replicate]
      simp
    · rw [mapEnd, mapPrinted]
      funext queue
      exact none_ queue
    · have written : t.output = s.output ++ list.map (s.begun, ·) := by
        rw [outputEnd, outputPrinted, ← output, ← outputFull]
        rfl
      rw [written, List.drop_left, List.map_append, List.map_map]
      rfl
  · cases flushes

end Threads

/--
Flushing delivers all messages whose output does not throw, and none of them again, exactly if no
output throws or all of them do.
-/
theorem logPending_delivers_iff [DecidableEq κ] (throws : LogMessage κ → Bool) (s : LogPending κ) :
    s.Delivers throws ↔ (∀ entry ∈ s.collected, throws entry.message = false) ∨
      ∀ entry ∈ s.collected, throws entry.message = true := by
  constructor
  · intro delivers
    by_contra mixed
    simp only [not_or, not_forall, Bool.not_eq_true, Bool.not_eq_false] at mixed
    obtain ⟨⟨bad, memBad, throws_⟩, good, memGood, returns⟩ := mixed
    obtain ⟨list, perm, inTime⟩ := exists_sorted s.collected
    have some_ : Throws throws list := ⟨bad, perm.mem_iff.mpr memBad, throws_⟩
    obtain ⟨first, flushes⟩ := LogPending.flush_sorted throws (s, []) perm inTime
    obtain ⟨_, passed, left⟩ := LogPending.flush_cases flushes
    rw [if_pos some_] at left
    cases list with
    | nil => exact absurd (perm.mem_iff.mpr memGood) (by simp)
    | cons entry rest =>
      cases here : throws entry.message with
      | true =>
        -- The exception comes first, and keeps back what could be output.
        have once := (delivers [entry :: rest] first (by simp) (by simp [flushes])).1 good memGood
          returns
        rw [passed, printAll_first here] at once
        simp at once
      | false =>
        -- What is output before the exception is output again by the next flush.
        obtain ⟨second, flushesAgain⟩ := LogPending.flush_sorted throws first
          (left ▸ List.Perm.refl _) inTime
        obtain ⟨_, passedAgain, _⟩ := LogPending.flush_cases flushesAgain
        have never := (delivers [entry :: rest, entry :: rest] second (by simp)
          (by simp [flushes, flushesAgain])).2
        rw [passedAgain, passed, printAll_cons here] at never
        exact not_neverAgain (List.mem_cons_self ..) never
  · rintro (returns | throw) sorts t some_ runs
    · have none_ : ¬Throws throws s.collected :=
        fun ⟨entry, mem, throws_⟩ => by simp [returns entry mem] at throws_
      rcases LogPending.run_returning (s := (s, [])) none_ runs with ⟨empty, _⟩ |
        ⟨list, perm, passed⟩
      · exact absurd empty some_
      · have distinct : (list.map (·, true)).Nodup :=
          (perm.nodup_iff.mpr s.distinct).map fun x y same => congrArg Prod.fst same
        rw [List.nil_append] at passed
        rw [passed]
        refine ⟨fun entry mem _ => List.count_eq_one_of_mem distinct ?_, ?_⟩
        · exact List.mem_map.mpr ⟨entry, perm.mem_iff.mpr mem, rfl⟩
        · refine (List.pairwise_map.mpr ((perm.nodup_iff.mpr s.distinct).imp ?_))
          exact fun differs _ same => differs same.symm
    · have none_ := LogPending.run_throwing (s := (s, [])) throw (by simp) runs
      refine ⟨fun entry mem returns => ?_, ?_⟩
      · simp [throw entry mem] at returns
      · refine List.Pairwise.imp_of_mem (R := fun _ _ => True) (fun {out _} mem _ _ returned => ?_)
          (List.pairwise_of_forall fun _ _ => trivial)
        exact absurd ((none_ out mem).symm.trans returned) (by simp)

section Demo

/-- Three messages of one second each, of which the second one goes to a file nobody may write. -/
def testThree : List (LogEntry Nat) :=
  [⟨0, ⟨⟨1⟩, 70⟩⟩, ⟨1, ⟨⟨2⟩, 71⟩⟩, ⟨2, ⟨⟨3⟩, 72⟩⟩]

/-- They wait in three queues. -/
def testPending : LogPending Nat where
  bufferMap i := (testThree.drop i.val).take 1
  logMassageList := []
  distinct := by decide

end Demo

/-- Thread 0 outputs all three messages by its own steps. -/
theorem run_flush_three : ∃ (events : List (Nat × LogAct Nat)) (t : LogBuffer Nat Nat),
    (∀ event ∈ events, event.1 = 0) ∧ events.foldlM (fun s event => LogBuffer.step event s)
      { LogBuffer.start with bufferMap := testPending.bufferMap } = some t ∧
    t.output.map (·.2) = testThree := by
  have flushes : LogPending.flush (fun _ => false) testThree (testPending, [])
      = some (.ofList [] List.nodup_nil, testThree.map (·, true)) := rfl
  obtain ⟨events, t, own, runs, _, _, output⟩ := LogBuffer.run_flush (i := 0)
    (s := { LogBuffer.start with bufferMap := testPending.bufferMap }) rfl rfl rfl rfl
    (by decide) flushes
  refine ⟨events, t, own, runs, ?_⟩
  simpa [LogBuffer.start, Function.comp_def] using congrArg (List.map Prod.fst) output

/-- The first message is output by both of two flushes, and the last one by none. -/
theorem logPending_delivers_fails :
    testPending.collected = testThree ∧
    (∃ t, [testThree, testThree].foldlM
        (fun s list => LogPending.flush (·.content == 71) list s) (testPending, []) = some t ∧
      t.2 = [(⟨0, ⟨⟨1⟩, 70⟩⟩, true), (⟨1, ⟨⟨2⟩, 71⟩⟩, false),
        (⟨0, ⟨⟨1⟩, 70⟩⟩, true), (⟨1, ⟨⟨2⟩, 71⟩⟩, false)]) ∧
    ¬testPending.Delivers (·.content == 71) := by
  refine ⟨by decide, ⟨_, rfl, by decide⟩, fun delivers => ?_⟩
  have once := (delivers [testThree, testThree] _ (by simp) rfl).1 ⟨0, ⟨⟨1⟩, 70⟩⟩ (by decide)
    (by decide)
  exact absurd once (by decide)

end Dnfs
