import Dnfs.File.FsalHandle
import Dnfs.Run.Trace
import Mathlib.Data.Set.Card

/-! Counting the threads at work on a handle, with their steps interleaved in any order. -/

namespace Dnfs

variable {ι : Type}

/-- Where a thread stands on its way from starting work to having finished it. -/
inductive IoPc where
  | idle
  | working
  /-- Trying to count down from the value seen last. -/
  | trying (cur : Int32)
  /-- Told not to count down without the lock. -/
  | refused
  | locked
  /-- Counted down to a value under the lock, which is still held. -/
  | counted (newv : Int32)
  deriving DecidableEq, Repr

/-- Work was started and not yet counted down. -/
def IoPc.between : IoPc → Bool
  | working => true
  | trying _ => true
  | refused => true
  | locked => true
  | _ => false

/-- The lock is held. -/
def IoPc.holds : IoPc → Bool
  | locked => true
  | counted _ => true
  | _ => false

/-- What an atomic operation or one on the lock does. -/
inductive IoAct where
  /-- The counter goes up. -/
  | start
  /-- The counter is read for the first time. -/
  | fetch
  /-- The counter was what it was seen to be, and is exchanged for a value. -/
  | exchange (newv : Int32)
  /-- The counter was something else, which is seen now. -/
  | miss
  | lock
  /-- The counter goes down to a value under the lock. -/
  | countDown (newv : Int32)
  /-- The lock is given back, and counting down is told to have reached zero or not. -/
  | unlock (returned : Bool)
  deriving DecidableEq, Repr

/-- What counting down is told at a step that ends it. -/
def IoAct.returns : IoAct → Option Bool
  | exchange _ => some false
  | unlock returned => some returned
  | _ => none

/-- The value a step counts down to. -/
def IoAct.produces : IoAct → Option Int32
  | exchange newv => some newv
  | countDown newv => some newv
  | _ => none

/-- The counter, the lock, and all threads. -/
structure IoState (ι : Type) where
  ioWork : Int32
  workMutex : Option ι
  pc : ι → IoPc

/-- Nobody has started yet. -/
def IoState.start : IoState ι := ⟨0, none, fun _ => .idle⟩

/-- Where a thread goes on with a value it has seen: one is only counted down under the lock. -/
def ioTry (cur : Int32) : IoPc := if cur = 1 then .refused else .trying cur

/-- The threads that started work and have not counted it down. -/
def IoState.busy (s : IoState ι) : Set ι := {i | (s.pc i).between = true}

/-- Where all threads are idle, nobody is at work. -/
theorem busy_eq_empty {s : IoState ι} (idle : ∀ i, s.pc i = .idle) : s.busy = ∅ := by
  refine Set.eq_empty_iff_forall_notMem.mpr fun i busy => ?_
  have between : (s.pc i).between = true := busy
  rw [idle i] at between
  cases between

/-- How many they are. -/
noncomputable def IoState.inProgress (s : IoState ι) : Nat := s.busy.ncard

/-- What holds of the counter, the lock and the threads in every state. -/
structure WorkInv (s : IoState ι) : Prop where
  finite : s.busy.Finite
  /-- The counter is as wide as it is, so it counts up to a multiple of its range. -/
  work : s.ioWork = Int32.ofNat s.inProgress
  mutex : ∀ i, s.workMutex = some i ↔ (s.pc i).holds = true
  /-- One is never counted down outside the lock. -/
  tries : ∀ i cur, s.pc i = .trying cur → cur ≠ 1

/-- Nobody has started, and the counter is zero. -/
theorem workInv_start : WorkInv (IoState.start : IoState ι) := by
  have nobody : (IoState.start : IoState ι).busy = ∅ := busy_eq_empty fun _ => rfl
  refine ⟨nobody ▸ Set.finite_empty, ?_, ?_, ?_⟩
  · rw [IoState.inProgress, nobody, Set.ncard_empty]
    rfl
  · intro i
    simp [IoState.start, IoPc.holds]
  · intro i cur
    simp [IoState.start]

/-- Fewer at work than the counter is wide for are counted as they are. -/
theorem WorkInv.toInt_ioWork {s : IoState ι} (inv : WorkInv s) (few : s.inProgress < 2 ^ 31) :
    s.ioWork.toInt = s.inProgress := by
  rw [inv.work]
  exact Int32.toInt_ofNat_of_lt few

/-- Another value of the counter leaves the threads where they are. -/
theorem pc_recounted (s : IoState ι) (newv : Int32) : { s with ioWork := newv }.pc = s.pc := rfl

variable [DecidableEq ι]

/-- One thread goes on to another place. -/
def IoState.move (s : IoState ι) (i : ι) (pc : IoPc) : IoState ι :=
  { s with pc := Function.update s.pc i pc }

/-- One step of one thread. -/
inductive WorkStep : IoState ι → ι × IoAct → IoState ι → Prop where
  | start {s i} : s.pc i = .idle →
    WorkStep s (i, .start) { s.move i .working with ioWork := s.ioWork + 1 }
  | fetch {s i} : s.pc i = .working → WorkStep s (i, .fetch) (s.move i (ioTry s.ioWork))
  -- Counting down outside the lock ends in false, without a lock to give back.
  | exchange {s i cur} : s.pc i = .trying cur → s.ioWork = cur →
    WorkStep s (i, .exchange (cur + -1)) { s.move i .idle with ioWork := cur + -1 }
  | miss {s i cur} : s.pc i = .trying cur → s.ioWork ≠ cur →
    WorkStep s (i, .miss) (s.move i (ioTry s.ioWork))
  | lock {s i} : s.pc i = .refused → s.workMutex = none →
    WorkStep s (i, .lock) { s.move i .locked with workMutex := some i }
  | countDown {s i} : s.pc i = .locked →
    WorkStep s (i, .countDown (s.ioWork + -1))
      { s.move i (.counted (s.ioWork + -1)) with ioWork := s.ioWork + -1 }
  -- Whoever reached zero is told so and gives the lock back, the others give it back first.
  | unlock {s i newv} : s.pc i = .counted newv →
    WorkStep s (i, .unlock (newv = 0)) { s.move i .idle with workMutex := none }

section Counting

variable {s t : IoState ι} {i : ι}

/-- A thread that moves is at work just when it moved to where work is in progress. -/
theorem busy_move (s : IoState ι) (i : ι) (pc : IoPc) :
    (s.move i pc).busy = if pc.between then insert i s.busy else s.busy \ {i} := by
  ext j
  by_cases same : j = i
  · cases moved : pc.between <;> simp [IoState.busy, IoState.move, same, moved]
  · cases pc.between <;> simp [IoState.busy, IoState.move, same]

/-- A thread that stays between leaves the others and their number alone. -/
theorem busy_move_stays (pc : IoPc) (was : (s.pc i).between = true) (is : pc.between = true) :
    (s.move i pc).busy = s.busy := by
  rw [busy_move, is, if_pos rfl]
  exact Set.insert_eq_of_mem was

/-- So does one that stays outside. -/
theorem busy_move_apart (pc : IoPc) (was : (s.pc i).between = false) (is : pc.between = false) :
    (s.move i pc).busy = s.busy := by
  rw [busy_move, is, if_neg Bool.false_ne_true]
  exact Set.sdiff_singleton_eq_self (by simp [IoState.busy, was])

/-- Starting makes them one more. -/
theorem inProgress_starts {pc : IoPc} (finite : s.busy.Finite) (was : (s.pc i).between = false)
    (is : pc.between = true) : (s.move i pc).inProgress = s.inProgress + 1 := by
  -- The thread was not among them.
  have outside : i ∉ s.busy := by simp [IoState.busy, was]
  rw [IoState.inProgress, busy_move, is, if_pos rfl, Set.ncard_insert_of_notMem outside finite]
  rfl

/-- Counting down makes them one less. -/
theorem inProgress_ends {pc : IoPc} (finite : s.busy.Finite) (was : (s.pc i).between = true)
    (is : pc.between = false) : (s.move i pc).inProgress + 1 = s.inProgress := by
  have inside : i ∈ s.busy := was
  rw [IoState.inProgress, busy_move, is, if_neg Bool.false_ne_true]
  exact Set.ncard_sdiff_singleton_add_one inside finite

/-- Trying is before counting down. -/
theorem ioTry_between (cur : Int32) : (ioTry cur).between = true := by
  unfold ioTry
  split <;> rfl

/-- Trying needs no lock. -/
theorem ioTry_holds (cur : Int32) : (ioTry cur).holds = false := by
  unfold ioTry
  split <;> rfl

end Counting

section Invariant

variable {s t : IoState ι} {i : ι} {act : IoAct}

/-- Only the thread that moves may change what it holds. -/
theorem move_pc_holds (s : IoState ι) (i j : ι) (pc : IoPc) :
    ((s.move i pc).pc j).holds = if j = i then pc.holds else (s.pc j).holds := by
  by_cases same : j = i <;> simp [IoState.move, same]

/-- A thread that moves without the lock leaves its holder alone. -/
theorem WorkInv.mutex_kept (inv : WorkInv s) {pc : IoPc} (same : (s.pc i).holds = pc.holds)
    (j : ι) : s.workMutex = some j ↔ ((s.move i pc).pc j).holds = true := by
  rw [inv.mutex j, move_pc_holds]
  -- The thread itself holds as much as it did.
  by_cases mine : j = i
  · rw [if_pos mine, mine, same]
  · rw [if_neg mine]

/-- A thread that does not go on to trying leaves what the others try alone. -/
theorem WorkInv.tries_kept (inv : WorkInv s) (i : ι) {pc : IoPc}
    (not : ∀ cur, pc = .trying cur → cur ≠ 1) (j : ι) (cur : Int32)
    (trying : (s.move i pc).pc j = .trying cur) : cur ≠ 1 := by
  by_cases mine : j = i
  · subst mine
    exact not cur (by simpa [IoState.move] using trying)
  · exact inv.tries j cur (by simpa [IoState.move, mine] using trying)

/-- One is never tried, since it is refused at once. -/
theorem ioTry_trying {seen cur : Int32} (trying : ioTry seen = .trying cur) : cur ≠ 1 := by
  unfold ioTry at trying
  split at trying
  · cases trying
  · rename_i other
    obtain rfl := IoPc.trying.inj trying
    exact other

/-- Counting down takes the counter to the number of those left. -/
theorem WorkInv.work_ends (inv : WorkInv s) (pc : IoPc) (was : (s.pc i).between = true)
    (is : pc.between = false) : s.ioWork + -1 = Int32.ofNat (s.move i pc).inProgress := by
  have one : (Int32.ofNat 1) + -1 = 0 := by decide
  -- The number before is one more than the number after.
  rw [inv.work, ← inProgress_ends inv.finite was is, Int32.ofNat_add, Int32.add_assoc, one]
  exact Int32.add_zero _

/-- A thread that moves without the lock keeps the invariant, if the counter follows it. -/
theorem WorkInv.recount (inv : WorkInv s) {pc : IoPc} {newv : Int32}
    (held : (s.pc i).holds = pc.holds) (not : ∀ cur, pc = .trying cur → cur ≠ 1)
    (work : newv = Int32.ofNat (s.move i pc).inProgress) :
    WorkInv { s.move i pc with ioWork := newv } := by
  -- One thread more or less leaves them finitely many.
  refine ⟨?_, work, inv.mutex_kept held, inv.tries_kept i not⟩
  show (s.move i pc).busy.Finite
  rw [busy_move]
  split
  · exact inv.finite.insert i
  · exact inv.finite.subset Set.sdiff_subset

/-- Going on to try with a value one has seen leaves the counter right. -/
theorem WorkInv.tries_next (inv : WorkInv s) (seen : Int32) (was : (s.pc i).between = true)
    (outside : (s.pc i).holds = false) : WorkInv (s.move i (ioTry seen)) := by
  have stays := busy_move_stays _ was (ioTry_between seen)
  refine inv.recount (outside.trans (ioTry_holds seen).symm) (fun _ => ioTry_trying) ?_
  rw [IoState.inProgress, stays]
  exact inv.work

/-- Every step keeps counter, lock and threads in agreement. -/
theorem WorkInv.step (inv : WorkInv s) (step : WorkStep s (i, act) t) : WorkInv t := by
  -- Starting and counting down move the counter, and only lock and unlock move the lock.
  cases step with
  | start idle =>
    have was : (s.pc i).between = false := by rw [idle]; rfl
    have held : (s.pc i).holds = IoPc.working.holds := by rw [idle]; rfl
    have work : s.ioWork + 1 = Int32.ofNat (s.move i .working).inProgress := by
      rw [inProgress_starts inv.finite was rfl, Int32.ofNat_add, ← inv.work]
      rfl
    exact inv.recount held (fun _ other => nomatch other) work
  | fetch at_ | miss at_ => exact inv.tries_next s.ioWork (by rw [at_]; rfl) (by rw [at_]; rfl)
  | exchange trying same =>
    have was : (s.pc i).between = true := by rw [trying]; rfl
    have held : (s.pc i).holds = IoPc.idle.holds := by rw [trying]; rfl
    subst same
    exact inv.recount held (fun _ other => nomatch other) (inv.work_ends .idle was rfl)
  | lock refused free =>
    have was : (s.pc i).between = true := by rw [refused]; rfl
    have stays := busy_move_stays .locked was rfl
    refine ⟨stays ▸ inv.finite, ?_, ?_, inv.tries_kept i fun _ other => nomatch other⟩
    · show s.ioWork = Int32.ofNat (s.move i .locked).busy.ncard
      rw [stays]
      exact inv.work
    · -- Nobody held the lock before.
      intro j
      have nobody : (s.pc j).holds = false := by
        have free' := mt (inv.mutex j).mpr (by simp [free])
        simpa using free'
      show some i = some j ↔ ((s.move i .locked).pc j).holds = true
      rw [move_pc_holds, nobody]
      by_cases mine : j = i
      · simp [mine, IoPc.holds]
      · simp [mine, Ne.symm mine]
  | countDown locked =>
    have was : (s.pc i).between = true := by rw [locked]; rfl
    have held : (s.pc i).holds = (IoPc.counted (s.ioWork + -1)).holds := by rw [locked]; rfl
    exact inv.recount held (fun _ other => nomatch other) (inv.work_ends (.counted _) was rfl)
  | unlock counted =>
    have was : (s.pc i).between = false := by rw [counted]; rfl
    have stays := busy_move_apart .idle was rfl
    have holder : s.workMutex = some i := (inv.mutex i).mpr (by rw [counted]; rfl)
    refine ⟨stays ▸ inv.finite, ?_, ?_, inv.tries_kept i fun _ other => nomatch other⟩
    · show s.ioWork = Int32.ofNat (s.move i .idle).busy.ncard
      rw [stays]
      exact inv.work
    · -- Nobody else held it.
      intro j
      show none = some j ↔ ((s.move i .idle).pc j).holds = true
      rw [move_pc_holds]
      by_cases mine : j = i
      · simp [mine, IoPc.holds]
      · have others : s.workMutex ≠ some j := by simp [holder, Ne.symm mine]
        simpa [mine] using mt (inv.mutex j).mpr others

end Invariant

section History

variable {s t : IoState ι} {i : ι} {act : IoAct} {past : List (ι × IoAct)}

/-- How often a thread took the lock. -/
def acquired (i : ι) (past : List (ι × IoAct)) : Nat := past.count (i, .lock)

/-- How often a thread gave the lock back. -/
def released (i : ι) (past : List (ι × IoAct)) : Nat :=
  past.count (i, .unlock true) + past.count (i, .unlock false)

/-- The value a thread last counted down to. -/
def lastProduced (i : ι) (past : List (ι × IoAct)) : Option Int32 :=
  past.findSome? fun e => if e.1 = i then e.2.produces else none

/-- What the threads did so far, told from where they stand. -/
structure WorkHistory (past : List (ι × IoAct)) (s : IoState ι) : Prop where
  counted : ∀ i newv, s.pc i = .counted newv → lastProduced i past = some newv
  locks : ∀ i, acquired i past = released i past + if (s.pc i).holds then 1 else 0

/-- What one thread does is no part of what another did. -/
theorem history_other {j : ι} (other : j ≠ i) (act : IoAct) (past : List (ι × IoAct)) :
    acquired j ((i, act) :: past) = acquired j past ∧
      released j ((i, act) :: past) = released j past ∧
      lastProduced j ((i, act) :: past) = lastProduced j past := by
  simp [acquired, released, lastProduced, Ne.symm other]

/-- A step that moves one thread keeps what is told of the others. -/
theorem WorkHistory.moves (inv : WorkHistory past s) (pc : IoPc) (moved : t.pc = (s.move i pc).pc)
    (counted : ∀ newv, pc = .counted newv → lastProduced i ((i, act) :: past) = some newv)
    (locks : acquired i ((i, act) :: past) =
      released i ((i, act) :: past) + if pc.holds then 1 else 0) :
    WorkHistory ((i, act) :: past) t := by
  constructor
  · -- Of the threads that stay, the event tells nothing.
    intro j newv
    rw [moved]
    by_cases mine : j = i
    · subst mine
      simpa [IoState.move] using counted newv
    · rw [(history_other mine act past).2.2]
      simpa [IoState.move, mine] using inv.counted j newv
  · intro j
    rw [moved]
    by_cases mine : j = i
    · subst mine
      simpa [IoState.move] using locks
    · rw [(history_other mine act past).1, (history_other mine act past).2.1]
      simpa [IoState.move, mine] using inv.locks j

/-- Going on to try with a value one has seen is neither taking the lock nor counting down. -/
theorem WorkHistory.tries (inv : WorkHistory past s) (seen : Int32)
    (outside : (s.pc i).holds = false)
    (act_ne : act ≠ .lock ∧ ∀ returned, act ≠ .unlock returned) :
    WorkHistory ((i, act) :: past) (s.move i (ioTry seen)) := by
  refine inv.moves (ioTry seen) rfl (fun newv reached => ?_) ?_
  · -- It has not counted down, since it does not hold the lock.
    have unheld := ioTry_holds seen
    rw [reached] at unheld
    cases unheld
  · have before := inv.locks i
    rw [outside] at before
    rw [ioTry_holds]
    simpa [acquired, released, act_ne] using before

/-- Every step is told in the history as it happened. -/
theorem WorkHistory.step (inv : WorkHistory past s) (step : WorkStep s (i, act) t) :
    WorkHistory ((i, act) :: past) t := by
  have before := inv.locks i
  cases step with
  | start idle =>
    refine inv.moves .working rfl (fun _ other => nomatch other) ?_
    simpa [acquired, released, idle, IoPc.holds] using before
  | fetch at_ | miss at_ => exact inv.tries s.ioWork (by rw [at_]; rfl) (by simp)
  | exchange trying same =>
    refine inv.moves .idle rfl (fun _ other => nomatch other) ?_
    simpa [acquired, released, trying, IoPc.holds] using before
  | lock refused free =>
    refine inv.moves .locked rfl (fun _ other => nomatch other) ?_
    simpa [acquired, released, refused, IoPc.holds] using before
  | countDown locked =>
    refine inv.moves (.counted (s.ioWork + -1)) (pc_recounted _ _) (fun newv reached => ?_) ?_
    · simpa [lastProduced, IoAct.produces] using IoPc.counted.inj reached
    · simpa [acquired, released, locked, IoPc.holds] using before
  | @unlock _ newv counted =>
    -- Both ways of giving it back count once.
    refine inv.moves .idle rfl (fun _ other => nomatch other) ?_
    rw [counted] at before
    by_cases zero : newv = 0 <;>
    · simp [acquired, released, IoPc.holds, zero] at before ⊢
      omega

/-- Nothing was done, and nobody stands anywhere. -/
theorem workHistory_start : WorkHistory [] (IoState.start : IoState ι) := by
  constructor
  · intro i newv counted
    cases counted
  · intro i
    simp [acquired, released, IoState.start, IoPc.holds]

/-- Every state of a run keeps the invariant and tells what happened. -/
theorem run_workInv (run : Run WorkStep .start past s) : WorkInv s ∧ WorkHistory past s := by
  refine run.invariant (fun past s => WorkInv s ∧ WorkHistory past s)
    ⟨workInv_start, workHistory_start⟩ ?_
  intro past s e t inv step
  exact ⟨inv.1.step step, inv.2.step step⟩

end History

section Results

variable {s t : IoState ι} {i : ι} {act : IoAct} {past : List (ι × IoAct)}

/-- Counting down outside the lock never ends at zero. -/
theorem down_ne_zero {cur : Int32} (notOne : cur ≠ 1) : cur + -1 ≠ 0 := by
  intro zero
  -- Only one goes down to zero.
  have one : cur = 0 + 1 := by
    rw [← zero, Int32.add_assoc]
    exact (Int32.add_zero cur).symm
  exact notOne one

/-- A step that counts down leaves the counter at the value it tells. -/
theorem workStep_produces {newv : Int32} (step : WorkStep s (i, act) t)
    (produces : act.produces = some newv) : t.ioWork = newv := by
  cases step with
  | exchange | countDown => exact Option.some.inj produces
  | _ => cases produces

/-- The counter only gets to zero under the lock. -/
theorem WorkInv.zero_under_lock (inv : WorkInv s) (few : s.inProgress < 2 ^ 31)
    (step : WorkStep s (i, act) t) (work : s.ioWork ≠ 0) (zero : t.ioWork = 0) :
    s.workMutex = some i := by
  cases step with
  | start idle =>
    -- It goes up to a number that is not zero and fits.
    have was : (s.pc i).between = false := by rw [idle]; rfl
    have after := (inv.step (.start idle)).work
    rw [zero] at after
    have more : ({ s.move i .working with ioWork := s.ioWork + 1 } : IoState ι).inProgress =
        s.inProgress + 1 := inProgress_starts inv.finite was rfl
    rw [more] at after
    have toNat := congrArg (fun v : Int32 => v.toUInt32.toNat) after
    have bits : (Int32.ofNat (s.inProgress + 1)).toUInt32.toNat = (s.inProgress + 1) % 2 ^ 32 := rfl
    simp only [bits] at toNat
    have none : (0 : Int32).toUInt32.toNat = 0 := rfl
    omega
  | exchange trying same => exact absurd zero (down_ne_zero (inv.tries _ _ trying))
  | countDown locked => exact (inv.mutex i).mpr (by rw [locked]; rfl)
  | _ => exact absurd zero work

/-- Counting down is told true if and only if it was the one that got to zero. -/
theorem returns_iff (inv : WorkInv s) (history : WorkHistory past s) (step : WorkStep s (i, act) t)
    {returned : Bool} (returns : act.returns = some returned) :
    ∃ newv, lastProduced i ((i, act) :: past) = some newv ∧ (returned = true ↔ newv = 0) := by
  cases step with
  -- Outside the lock it is told false, and one was never tried.
  | @exchange _ cur trying same =>
    refine ⟨cur + -1, by simp [lastProduced, IoAct.produces], ?_⟩
    obtain rfl : false = returned := Option.some.inj returns
    simp [down_ne_zero (inv.tries _ _ trying)]
  -- Under the lock it is told by the value it counted down to itself.
  | @unlock _ newv counted =>
    refine ⟨newv, ?_, ?_⟩
    · simpa [lastProduced, IoAct.produces] using history.counted i newv counted
    · obtain rfl := Option.some.inj returns
      simp
  | _ => cases returns

/-- Whoever took the lock can always count down, … -/
theorem locked_counts (locked : s.pc i = .locked) :
    ∃ t, WorkStep s (i, .countDown (s.ioWork + -1)) t ∧ t.ioWork = s.ioWork + -1 ∧
      t.pc i = .counted (s.ioWork + -1) := by
  refine ⟨_, .countDown locked, rfl, ?_⟩
  rw [pc_recounted]
  exact Function.update_self ..

/-- … and whoever counted down can always give it back. -/
theorem counted_unlocks {newv : Int32} (counted : s.pc i = .counted newv) :
    ∃ t, WorkStep s (i, .unlock (newv = 0)) t ∧ t.ioWork = s.ioWork ∧ t.workMutex = none ∧
      t.pc i = .idle :=
  ⟨_, .unlock counted, rfl, rfl, Function.update_self ..⟩

/-- Whoever holds the lock can give it back in two steps of its own, whatever the others did. -/
theorem holder_releases (held : (s.pc i).holds = true) :
    ∃ events t, Run WorkStep s events t ∧ (∀ e ∈ events, e.1 = i) ∧ released i events = 1 ∧
      t.pc i = .idle := by
  -- It has yet to count down or has done so, and needs nobody else for the rest.
  match stands : s.pc i with
  | .locked =>
    obtain ⟨mid, counts, -, counted⟩ := locked_counts stands
    obtain ⟨t, unlocks, -, -, idle⟩ := counted_unlocks counted
    refine ⟨_, t, .cons (.cons .nil counts) unlocks, by simp, ?_, idle⟩
    generalize decide (s.ioWork + -1 = 0) = returned
    cases returned <;> simp [released]
  | .counted newv =>
    obtain ⟨t, unlocks, -, -, idle⟩ := counted_unlocks stands
    refine ⟨_, t, .cons .nil unlocks, by simp, ?_, idle⟩
    generalize decide (newv = 0) = returned
    cases returned <;> simp [released]
  | .idle | .working | .trying _ | .refused => rw [stands] at held; cases held

/--
In every run, as long as fewer work than the counter is wide for, it is their number.

It then gets to zero only under the lock, and whoever counts down is told true if and only if it
got to zero itself; whoever took the lock gives it back once.
-/
theorem ioWork_counts (run : Run WorkStep (IoState.start : IoState ι) past s) :
    (s.inProgress < 2 ^ 31 →
      s.ioWork.toInt = s.inProgress ∧ ((∀ i, s.pc i = .idle) → s.ioWork = 0) ∧
      ∀ i act t, WorkStep s (i, act) t → s.ioWork ≠ 0 → t.ioWork = 0 → s.workMutex = some i) ∧
    (∀ i act t, WorkStep s (i, act) t → ∀ newv, act.produces = some newv → t.ioWork = newv) ∧
    (∀ i act t, WorkStep s (i, act) t → ∀ returned, act.returns = some returned →
      ∃ newv, lastProduced i ((i, act) :: past) = some newv ∧ (returned = true ↔ newv = 0)) ∧
    ∀ i, acquired i past = released i past + (if s.workMutex = some i then 1 else 0) ∧
      (s.workMutex = some i → ∃ events t, Run WorkStep s events t ∧ (∀ e ∈ events, e.1 = i) ∧
        released i events = 1 ∧ t.pc i = .idle) := by
  obtain ⟨inv, history⟩ := run_workInv run
  refine ⟨fun few => ⟨inv.toInt_ioWork few, fun idle => ?_, ?_⟩, ?_, ?_, fun i => ⟨?_, ?_⟩⟩
  · -- With all threads idle their number is zero.
    have nobody : s.busy = ∅ := busy_eq_empty idle
    rw [inv.work, IoState.inProgress, nobody, Set.ncard_empty]
    rfl
  · intro i act t step work zero
    exact inv.zero_under_lock few step work zero
  · intro i act t step newv produces
    exact workStep_produces step produces
  · intro i act t step returned returns
    exact returns_iff inv history step returns
  · rw [history.locks i]
    simp only [inv.mutex i]
  · intro holder
    exact holder_releases ((inv.mutex i).mp holder)

/-- As many threads as wanted can be at work at once. -/
theorem run_starts (count : Nat) :
    ∃ past s, Run WorkStep (IoState.start : IoState Nat) past s ∧ s.inProgress = count ∧
      ∀ j, count ≤ j → s.pc j = .idle := by
  -- The threads start in order, each from where the ones before it left the counter.
  induction count with
  | zero =>
    refine ⟨[], .start, .nil, ?_, fun _ _ => rfl⟩
    rw [IoState.inProgress, busy_eq_empty fun _ => rfl, Set.ncard_empty]
  | succ count ih =>
    obtain ⟨past, s, run, number, waiting⟩ := ih
    have idle := waiting count le_rfl
    have was : (s.pc count).between = false := by rw [idle]; rfl
    refine ⟨_, _, .cons run (.start idle), ?_, ?_⟩
    · have more : (s.move count .working).inProgress = s.inProgress + 1 :=
        inProgress_starts (run_workInv run).1.finite was rfl
      rw [number] at more
      exact more
    · intro j later
      have other : j ≠ count := by omega
      simpa [IoState.move, other] using waiting j (by omega)

/-- Of two threads, one ends by an exchange, and the other counts down to zero under the lock. -/
theorem ioWork_counts_two :
    ∃ past s t u, past = [(true, .lock), (true, .fetch), (false, .exchange 1), (false, .fetch),
        (true, .start), (false, .start)] ∧
      Run WorkStep (IoState.start : IoState Bool) past s ∧
      WorkStep s (true, .countDown 0) t ∧ WorkStep t (true, .unlock true) u ∧
      s.ioWork.toInt = s.inProgress ∧ s.workMutex = some true ∧ t.ioWork = 0 ∧
      (∃ newv, lastProduced true ((true, .unlock true) :: (true, .countDown 0) :: past)
        = some newv ∧ newv = 0) ∧
      acquired true past = released true past + 1 ∧ u.ioWork = 0 := by
  have begins : Run WorkStep (IoState.start : IoState Bool) [] .start := .nil
  have both := (begins.cons (.start (i := false) rfl)).cons (.start (i := true) rfl)
  have one := (both.cons (.fetch (i := false) rfl)).cons (.exchange (i := false) rfl rfl)
  have run := (one.cons (.fetch (i := true) rfl)).cons (.lock (i := true) rfl rfl)
  -- Two threads are few.
  have few : ∀ s : IoState Bool, s.inProgress < 2 ^ 31 := by
    intro s
    have two := Set.ncard_le_ncard (Set.subset_univ s.busy)
    rw [Set.ncard_univ, Nat.card_eq_fintype_card, Fintype.card_bool] at two
    exact lt_of_le_of_lt two (by decide)
  have counts := run.cons (.countDown (i := true) rfl)
  have unlocks := counts.cons (@WorkStep.unlock Bool _ _ true 0 rfl)
  have here := ioWork_counts run
  have there := ioWork_counts counts
  have after := ioWork_counts unlocks
  refine ⟨_, _, _, _, rfl, run, .countDown rfl, @WorkStep.unlock Bool _ _ true 0 rfl,
    (here.1 (few _)).1, ?_, ?_, ?_, ?_, ?_⟩
  · exact (here.1 (few _)).2.2 true _ _ (.countDown rfl) (by decide) (by decide)
  · exact here.2.1 true _ _ (.countDown rfl) 0 rfl
  · obtain ⟨newv, produced, told⟩ := there.2.2.1 true (.unlock true) _
      (@WorkStep.unlock Bool _ _ true 0 rfl) true rfl
    exact ⟨newv, produced, told.mp rfl⟩
  · exact (here.2.2.2 true).1
  · exact (after.1 (few _)).2.1 (by decide)

/-- With as many threads at work as the counter is wide for, it says a negative number. -/
theorem ioWork_wraps :
    ∃ past s, Run WorkStep (IoState.start : IoState Nat) past s ∧ s.inProgress = 2 ^ 31 ∧
      s.ioWork.toInt = -2 ^ 31 := by
  obtain ⟨past, s, run, number, -⟩ := run_starts (2 ^ 31)
  refine ⟨past, s, run, number, ?_⟩
  rw [(run_workInv run).1.work, number]
  decide

end Results

end Dnfs
