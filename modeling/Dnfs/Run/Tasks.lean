import Dnfs.Run.Trace
import Mathlib.Logic.Function.Basic

/-! Programs that share a state and take turns at it, one atomic step at a time. -/

namespace Dnfs

variable {ι σ ℓ α β : Type}

section Tasks

/--
A program over a shared state.

A step has a label that says what it turned out to do, and what comes next may depend on what it
found.
-/
inductive Task (σ ℓ α : Type) where
  /-- Nothing is left to do. -/
  | done (result : α)
  /-- One atomic step, and the rest. -/
  | step (label : σ → ℓ) (effect : σ → σ) (next : σ → Task σ ℓ α)

namespace Task

/-- Read the state and go on. -/
def look (label : ℓ) (read : σ → β) (next : β → Task σ ℓ α) : Task σ ℓ α :=
  .step (fun _ => label) id fun s => next (read s)

/-- Make a call and go on with what it returned. -/
def call (label : β → ℓ) (make : σ → β × σ) (next : β → Task σ ℓ α) : Task σ ℓ α :=
  .step (fun s => label (make s).1) (fun s => (make s).2) fun s => next (make s).1

/-- Run one program and then another that is given its result. -/
def bind : Task σ ℓ α → (α → Task σ ℓ β) → Task σ ℓ β
  | done result, next => next result
  | step label effect rest, next => step label effect fun s => (rest s).bind next

/-- What a program returns and leaves behind when nobody else takes a turn. -/
def run : Task σ ℓ α → σ → α × σ
  | done result, s => (result, s)
  | step _ effect next, s => (next s).run (effect s)

/-- A task that is done changes nothing. -/
@[simp] theorem run_done (result : α) (s : σ) :
    (done result : Task σ ℓ α).run s = (result, s) := rfl

/-- Looking changes nothing. -/
@[simp] theorem run_look (label : ℓ) (read : σ → β) (next : β → Task σ ℓ α) (s : σ) :
    (look label read next).run s = (next (read s)).run s := rfl

/-- A call leaves its state to what comes next. -/
@[simp] theorem run_call (label : β → ℓ) (make : σ → β × σ) (next : β → Task σ ℓ α) (s : σ) :
    (call label make next).run s = (next (make s).1).run (make s).2 := rfl

/-- What comes behind a call comes behind what follows it. -/
theorem bind_call {γ : Type} (label : γ → ℓ) (make : σ → γ × σ) (next : γ → Task σ ℓ α)
    (after : α → Task σ ℓ β) :
    (call label make next).bind after = call label make fun result => (next result).bind after :=
  rfl

/-- What comes next is run on what the task left. -/
@[simp] theorem run_bind (task : Task σ ℓ α) (next : α → Task σ ℓ β) (s : σ) :
    (task.bind next).run s = (next (task.run s).1).run (task.run s).2 := by
  induction task generalizing s with
  | done result => rfl
  | step label effect rest ih => exact ih s (effect s)

end Task

end Tasks

section Turns

/-- One step that was taken: what it did, and the state before and after. -/
structure Turn (σ ℓ : Type) where
  what : ℓ
  before : σ
  after : σ

/-- The steps one program took, newest first. -/
def turnsOf [DecidableEq ι] (i : ι) (past : List (ι × Turn σ ℓ)) : List (Turn σ ℓ) :=
  (past.filter fun moment => moment.1 = i).map Prod.snd

/-- One more step of the program itself. -/
@[simp] theorem turnsOf_cons_self [DecidableEq ι] (i : ι) (turn : Turn σ ℓ)
    (past : List (ι × Turn σ ℓ)) : turnsOf i ((i, turn) :: past) = turn :: turnsOf i past := by
  simp [turnsOf]

/-- One more step of another program. -/
theorem turnsOf_cons_of_ne [DecidableEq ι] {i j : ι} (other : j ≠ i) (turn : Turn σ ℓ)
    (past : List (ι × Turn σ ℓ)) : turnsOf i ((j, turn) :: past) = turnsOf i past := by
  simp [turnsOf, other]

/-- The steps of a program over two stretches of a history. -/
theorem turnsOf_append [DecidableEq ι] (i : ι) (later earlier : List (ι × Turn σ ℓ)) :
    turnsOf i (later ++ earlier) = turnsOf i later ++ turnsOf i earlier := by
  simp [turnsOf]

/-- A stretch in which a program took no step. -/
theorem turnsOf_eq_nil [DecidableEq ι] {i : ι} {past : List (ι × Turn σ ℓ)} :
    turnsOf i past = [] ↔ ∀ moment ∈ past, moment.1 ≠ i := by
  simp [turnsOf, List.filter_eq_nil_iff]

/-- A step of a program is a step of the history. -/
theorem mem_of_mem_turnsOf [DecidableEq ι] {i : ι} {past : List (ι × Turn σ ℓ)} {turn : Turn σ ℓ}
    (within : turn ∈ turnsOf i past) : (i, turn) ∈ past := by
  obtain ⟨⟨j, taken⟩, kept, same⟩ := List.mem_map.mp within
  obtain ⟨mem, mine⟩ := List.mem_filter.mp kept
  obtain rfl : taken = turn := same
  obtain rfl : j = i := by simpa using mine
  exact mem

/-- The newest step of a program lies somewhere in the history, with none of its own behind it. -/
theorem turnsOf_eq_cons [DecidableEq ι] {i : ι} {past : List (ι × Turn σ ℓ)} {turn : Turn σ ℓ}
    {own : List (Turn σ ℓ)} (newest : turnsOf i past = turn :: own) :
    ∃ later earlier, past = later ++ (i, turn) :: earlier ∧ turnsOf i earlier = own ∧
      ∀ moment ∈ later, moment.1 ≠ i := by
  -- Walk down the history until the first step of this program.
  induction past with
  | nil => cases newest
  | cons moment past ih =>
    obtain ⟨j, taken⟩ := moment
    by_cases same : j = i
    · subst same
      rw [turnsOf_cons_self] at newest
      obtain ⟨rfl, rfl⟩ := List.cons.inj newest
      exact ⟨[], past, rfl, rfl, by simp⟩
    · rw [turnsOf_cons_of_ne same] at newest
      obtain ⟨later, earlier, split, own, others⟩ := ih newest
      refine ⟨(j, taken) :: later, earlier, by rw [split]; rfl, own, ?_⟩
      exact List.forall_mem_cons.mpr ⟨same, others⟩

/-- Any step of a program lies somewhere in the history, between its later and its earlier ones. -/
theorem turnsOf_eq_append_cons [DecidableEq ι] {i : ι} {past : List (ι × Turn σ ℓ)}
    {newer own : List (Turn σ ℓ)} {turn : Turn σ ℓ}
    (split : turnsOf i past = newer ++ turn :: own) :
    ∃ later earlier, past = later ++ (i, turn) :: earlier ∧ turnsOf i later = newer ∧
      turnsOf i earlier = own := by
  induction newer generalizing past with
  | nil =>
    obtain ⟨later, earlier, parts, behind, others⟩ := turnsOf_eq_cons split
    exact ⟨later, earlier, parts, turnsOf_eq_nil.mpr others, behind⟩
  | cons newest newer ih =>
    obtain ⟨later, rest, parts, behind, others⟩ := turnsOf_eq_cons split
    obtain ⟨middle, earlier, within, before, after⟩ := ih behind
    refine ⟨later ++ (i, newest) :: middle, earlier, ?_, ?_, after⟩
    · rw [parts, within, List.append_assoc, List.cons_append]
    · rw [turnsOf_append, turnsOf_eq_nil.mpr others, turnsOf_cons_self, before, List.nil_append]

/-- The steps of a history, each from the state the one before it left. -/
def Linked : List (ι × Turn σ ℓ) → σ → σ → Prop
  | [], s, t => s = t
  | moment :: past, s, t => moment.2.after = t ∧ Linked past s moment.2.before

/-- A linked history is linked up to any moment and from there on. -/
theorem Linked.split {later earlier : List (ι × Turn σ ℓ)} {s t : σ}
    (linked : Linked (later ++ earlier) s t) : ∃ u, Linked earlier s u ∧ Linked later u t := by
  induction later generalizing t with
  | nil => exact ⟨t, linked, rfl⟩
  | cons moment later ih =>
    obtain ⟨u, before, after⟩ := ih linked.2
    exact ⟨u, before, linked.1, after⟩

/-- The steps before a moment lead from the start to the state it found. -/
theorem Linked.upTo {later earlier : List (ι × Turn σ ℓ)} {moment : ι × Turn σ ℓ} {s t : σ}
    (linked : Linked (later ++ moment :: earlier) s t) : Linked earlier s moment.2.before := by
  obtain ⟨u, before, _⟩ := linked.split
  exact before.2

/-- The steps between two moments lead from the state the first left to the one the second found. -/
theorem Linked.between {later middle earlier : List (ι × Turn σ ℓ)} {newer older : ι × Turn σ ℓ}
    {s t : σ} (linked : Linked (later ++ newer :: (middle ++ older :: earlier)) s t) :
    Linked middle older.2.after newer.2.before := by
  obtain ⟨u, before, after⟩ := linked.upTo.split
  rw [before.1]
  exact after

/-- Of two moments of a history one comes first. -/
theorem one_first {past : List α} {m n : α} (first : m ∈ past) (second : n ∈ past) (apart : m ≠ n) :
    (∃ later middle earlier, past = later ++ n :: (middle ++ m :: earlier)) ∨
      ∃ later middle earlier, past = later ++ m :: (middle ++ n :: earlier) := by
  obtain ⟨later, earlier, rfl⟩ := List.append_of_mem first
  rcases List.mem_append.mp second with newer | older
  · obtain ⟨later, middle, rfl⟩ := List.append_of_mem newer
    exact .inl ⟨later, middle, earlier, by simp⟩
  · rcases List.mem_cons.mp older with same | older
    · exact absurd same.symm apart
    · obtain ⟨middle, earlier, rfl⟩ := List.append_of_mem older
      exact .inr ⟨later, middle, earlier, rfl⟩

/-- Two moments that differ are not at one place, so one of them is before the other. -/
theorem one_older {a b c d : List α} {m n : α} (split : a ++ m :: b = c ++ n :: d) (apart : m ≠ n) :
    n ∈ b ∨ m ∈ d := by
  rcases List.append_eq_append_iff.mp split with ⟨gap, _, rest⟩ | ⟨gap, _, rest⟩
  · cases gap with
    | nil => exact absurd (List.cons.inj rest).1 apart
    | cons first gap => exact .inl (by rw [(List.cons.inj rest).2]; simp)
  · cases gap with
    | nil => exact absurd (List.cons.inj rest).1.symm apart
    | cons first gap => exact .inr (by rw [(List.cons.inj rest).2]; simp)

/-- Of the moments of one kind one is the oldest. -/
theorem oldest {P : α → Prop} {past : List α} (some_ : ∃ m ∈ past, P m) :
    ∃ later m earlier, past = later ++ m :: earlier ∧ P m ∧ ∀ n ∈ earlier, ¬P n := by
  classical
  induction past with
  | nil => simp at some_
  | cons newest past ih =>
    by_cases older : ∃ m ∈ past, P m
    · obtain ⟨later, m, earlier, rfl, kind, none_⟩ := ih older
      exact ⟨newest :: later, m, earlier, rfl, kind, none_⟩
    · -- No older one is of the kind, so this one is.
      obtain ⟨m, within, kind⟩ := some_
      rcases List.mem_cons.mp within with rfl | within
      · exact ⟨[], m, past, rfl, kind, fun n inside holds => older ⟨n, inside, holds⟩⟩
      · exact absurd ⟨m, within, kind⟩ older

/-- What every step of a linked history does to a transitive relation, the whole history does. -/
theorem Linked.related (R : σ → σ → Prop) (refl : ∀ s, R s s)
    (trans : ∀ r s t, R r s → R s t → R r t) {past : List (ι × Turn σ ℓ)} {s t : σ}
    (linked : Linked past s t) (each : ∀ moment ∈ past, R moment.2.before moment.2.after) :
    R s t := by
  induction past generalizing t with
  | nil =>
    obtain rfl : s = t := linked
    exact refl s
  | cons moment past ih =>
    obtain ⟨rfl, earlier⟩ := linked
    have upTo := ih earlier fun other within => each other (List.mem_cons_of_mem _ within)
    exact trans _ _ _ upTo (each moment List.mem_cons_self)

/-- A history leads from one state to one other. -/
theorem Linked.unique {past : List (ι × Turn σ ℓ)} {s t u : σ} (one : Linked past s t)
    (two : Linked past s u) : t = u := by
  cases past with
  | nil => exact one.symm.trans two
  | cons moment past => exact one.1.symm.trans two.1

/-- A history begins at the state its first step found. -/
theorem Linked.starts {past : List (ι × Turn σ ℓ)} {s t : σ} (linked : Linked past s t)
    (some_ : past ≠ []) : ∃ moment ∈ past, moment.2.before = s := by
  induction past generalizing t with
  | nil => exact absurd rfl some_
  | cons moment past ih =>
    cases past with
    | nil => exact ⟨moment, List.mem_cons_self, linked.2.symm⟩
    | cons older past =>
      obtain ⟨first, within, found⟩ := ih linked.2 (by simp)
      exact ⟨first, List.mem_cons_of_mem _ within, found⟩

/--
Where a number that can only grow is the same at both ends, no step was taken that makes it grow.
-/
theorem Linked.still {stamp : σ → Nat} {quiet : σ → σ → Prop} {past : List (ι × Turn σ ℓ)} {s t : σ}
    (linked : Linked past s t)
    (each : ∀ moment ∈ past, (stamp moment.2.after = stamp moment.2.before ∧
      quiet moment.2.before moment.2.after) ∨ stamp moment.2.before < stamp moment.2.after)
    (same : stamp t ≤ stamp s) : ∀ moment ∈ past, quiet moment.2.before moment.2.after := by
  induction past generalizing t with
  | nil => simp
  | cons moment past ih =>
    obtain ⟨rfl, earlier⟩ := linked
    have grows : stamp s ≤ stamp moment.2.before := by
      refine earlier.related (fun s t => stamp s ≤ stamp t) (fun _ => Nat.le_refl _)
        (fun _ _ _ => Nat.le_trans) ?_
      intro other within
      have := each other (List.mem_cons_of_mem _ within)
      omega
    rcases each moment List.mem_cons_self with ⟨kept, quietly⟩ | grown
    · refine List.forall_mem_cons.mpr ⟨quietly, ih earlier (fun other within => ?_) (by omega)⟩
      exact each other (List.mem_cons_of_mem _ within)
    · omega

/-- A moment that is not in the older part of a history is in the newer one. -/
theorem newer_of_not_older {later earlier newer older : List α} {m : α}
    (split : newer ++ m :: older = later ++ earlier) (absent : m ∉ earlier) :
    ∃ gap, later = newer ++ m :: gap ∧ older = gap ++ earlier := by
  rcases List.append_eq_append_iff.mp split with ⟨gap, rfl, rest⟩ | ⟨gap, rfl, rest⟩
  · cases gap with
    | nil =>
      rw [List.nil_append] at rest
      exact absurd (rest ▸ List.mem_cons_self) absent
    | cons first gap =>
      obtain ⟨rfl, rfl⟩ := List.cons.inj rest
      exact ⟨gap, rfl, rfl⟩
  · rw [rest] at absent
    exact absurd (by simp) absent

end Turns

section Specifications

namespace Task

/-- Every step the program can take is as specified, given the steps it took before. -/
def All (spec : List (Turn σ ℓ) → Turn σ ℓ → Prop) : Task σ ℓ α → List (Turn σ ℓ) → Prop
  | done _, _ => True
  | step label effect next, own => ∀ s,
    spec own ⟨label s, s, effect s⟩ ∧ (next s).All spec (⟨label s, s, effect s⟩ :: own)

/-- Whatever the program returns is as specified, given the steps it took. -/
def Ends (spec : List (Turn σ ℓ) → α → Prop) : Task σ ℓ α → List (Turn σ ℓ) → Prop
  | done result, own => spec own result
  | step label effect next, own => ∀ s, (next s).Ends spec (⟨label s, s, effect s⟩ :: own)

/-- Looking at the state is one step. -/
theorem all_look {spec : List (Turn σ ℓ) → Turn σ ℓ → Prop} {label : ℓ} {read : σ → β}
    {next : β → Task σ ℓ α} {own : List (Turn σ ℓ)} :
    (look label read next).All spec own ↔
      ∀ s, spec own ⟨label, s, s⟩ ∧ (next (read s)).All spec (⟨label, s, s⟩ :: own) := Iff.rfl

/-- Looking at the state adds a step. -/
theorem ends_look {spec : List (Turn σ ℓ) → α → Prop} {label : ℓ} {read : σ → β}
    {next : β → Task σ ℓ α} {own : List (Turn σ ℓ)} :
    (look label read next).Ends spec own ↔
      ∀ s, (next (read s)).Ends spec (⟨label, s, s⟩ :: own) := Iff.rfl

/-- A call is one step. -/
theorem all_call {spec : List (Turn σ ℓ) → Turn σ ℓ → Prop} {label : β → ℓ} {make : σ → β × σ}
    {next : β → Task σ ℓ α} {own : List (Turn σ ℓ)} :
    (call label make next).All spec own ↔
      ∀ s, spec own ⟨label (make s).1, s, (make s).2⟩ ∧
        (next (make s).1).All spec (⟨label (make s).1, s, (make s).2⟩ :: own) := Iff.rfl

/-- A weaker specification is met by whatever meets a stronger one. -/
theorem Ends.mono {strong weak : List (Turn σ ℓ) → α → Prop} {task : Task σ ℓ α}
    {own : List (Turn σ ℓ)} (ends : task.Ends strong own)
    (implies : ∀ own result, strong own result → weak own result) : task.Ends weak own := by
  induction task generalizing own with
  | done result => exact implies own result ends
  | step label effect next ih =>
    intro s
    exact ih s (ends s)

/-- A specification that nothing can fail to meet. -/
theorem ends_of_forall {spec : List (Turn σ ℓ) → α → Prop} (holds : ∀ own result, spec own result)
    (task : Task σ ℓ α) (own : List (Turn σ ℓ)) : task.Ends spec own := by
  induction task generalizing own with
  | done result => exact holds own result
  | step label effect next ih =>
    intro s
    exact ih s _

/-- A program only adds to the steps it took. -/
theorem ends_adding (task : Task σ ℓ α) (taken own : List (Turn σ ℓ)) :
    task.Ends (fun own' _ => ∃ added, own' = added ++ own) (taken ++ own) := by
  induction task generalizing taken with
  | done result => exact ⟨taken, rfl⟩
  | step label effect next ih =>
    intro s
    exact ih s (⟨label s, s, effect s⟩ :: taken)

/-- What is true of the steps taken so far, and stays true, is true at every later step. -/
theorem all_of_kept {P : List (Turn σ ℓ) → Prop} (kept : ∀ turn own, P own → P (turn :: own))
    (task : Task σ ℓ α) {own : List (Turn σ ℓ)} (now : P own) :
    task.All (fun own _ => P own) own := by
  induction task generalizing own with
  | done result => trivial
  | step label effect next ih =>
    intro s
    exact ⟨now, ih s (kept _ _ now)⟩

/-- Steps that meet a stronger specification meet a weaker one. -/
theorem All.mono {strong weak : List (Turn σ ℓ) → Turn σ ℓ → Prop} {task : Task σ ℓ α}
    {own : List (Turn σ ℓ)} (all : task.All strong own)
    (implies : ∀ own turn, strong own turn → weak own turn) : task.All weak own := by
  induction task generalizing own with
  | done result => trivial
  | step label effect next ih =>
    intro s
    exact ⟨implies _ _ (all s).1, ih s (all s).2⟩

/-- The steps of two programs in a row are those of the first and then those of the second. -/
theorem All.bind {spec : List (Turn σ ℓ) → Turn σ ℓ → Prop} {task : Task σ ℓ α}
    {next : α → Task σ ℓ β} {own : List (Turn σ ℓ)} (first : task.All spec own)
    (later : task.Ends (fun own result => (next result).All spec own) own) :
    (task.bind next).All spec own := by
  induction task generalizing own with
  | done result => exact later
  | step label effect rest ih =>
    intro s
    exact ⟨(first s).1, ih s (first s).2 (later s)⟩

/-- What two programs in a row return is what the second returns, given the result of the first. -/
theorem Ends.bind {spec : List (Turn σ ℓ) → β → Prop} {task : Task σ ℓ α}
    {next : α → Task σ ℓ β} {own : List (Turn σ ℓ)}
    (later : task.Ends (fun own result => (next result).Ends spec own) own) :
    (task.bind next).Ends spec own := by
  induction task generalizing own with
  | done result => exact later
  | step label effect rest ih =>
    intro s
    exact ih s (later s)

end Task

end Specifications

section Crews

/-- Programs by name, and the state they share. -/
structure Crew (ι σ ℓ α : Type) where
  state : σ
  tasks : ι → Task σ ℓ α

variable [DecidableEq ι]

/-- Some program takes its next step. -/
inductive CrewStep : Crew ι σ ℓ α → ι × Turn σ ℓ → Crew ι σ ℓ α → Prop where
  | turn {crew : Crew ι σ ℓ α} {i : ι} {label : σ → ℓ} {effect : σ → σ} {next : σ → Task σ ℓ α} :
    crew.tasks i = .step label effect next →
    CrewStep crew (i, ⟨label crew.state, crew.state, effect crew.state⟩)
      ⟨effect crew.state, Function.update crew.tasks i (next crew.state)⟩

variable {start crew : Crew ι σ ℓ α} {past : List (ι × Turn σ ℓ)}

/-- The history of a run is linked. -/
theorem linked_of_run (run : Run CrewStep start past crew) :
    Linked past start.state crew.state := by
  induction run with
  | nil => rfl
  | cons _ step ih =>
    cases step with
    | turn ready => exact ⟨rfl, ih⟩

/-- Up to any moment of a run there was a run. -/
theorem run_before {later earlier : List (ι × Turn σ ℓ)} {moment : ι × Turn σ ℓ}
    (run : Run CrewStep start (later ++ moment :: earlier) crew) :
    ∃ then_ after, Run CrewStep start earlier then_ ∧ CrewStep then_ moment after := by
  induction later generalizing crew with
  | nil =>
    cases run with
    | cons earlierRun step => exact ⟨_, _, earlierRun, step⟩
  | cons newer later ih =>
    cases run with
    | cons earlierRun step => exact ih earlierRun

/--
What a program's own steps keep true of it, given the steps it took, holds throughout a run.

No step of another program touches it.
-/
theorem kept_of_run {inv : Task σ ℓ α → List (Turn σ ℓ) → Prop} {i : ι}
    (kept : ∀ label effect next own s, inv (.step label effect next) own →
      inv (next s) (⟨label s, s, effect s⟩ :: own))
    (run : Run CrewStep start past crew) (initially : inv (start.tasks i) []) :
    inv (crew.tasks i) (turnsOf i past) := by
  induction run with
  | nil => exact initially
  | cons _ step ih =>
    cases step with
    | @turn j label effect next ready =>
      by_cases same : j = i
      · subst same
        rw [ready] at ih
        rw [turnsOf_cons_self]
        simpa using kept _ _ _ _ _ ih
      · rw [turnsOf_cons_of_ne same]
        simpa [Function.update_of_ne (Ne.symm same)] using ih

/-- Every step that was taken in a run is as specified. -/
theorem spec_of_run {spec : List (Turn σ ℓ) → Turn σ ℓ → Prop} {i : ι} {turn : Turn σ ℓ}
    {later earlier : List (ι × Turn σ ℓ)} (all : (start.tasks i).All spec [])
    (run : Run CrewStep start (later ++ (i, turn) :: earlier) crew) :
    spec (turnsOf i earlier) turn := by
  obtain ⟨then_, after, earlierRun, step⟩ := run_before run
  have left : (then_.tasks i).All spec (turnsOf i earlier) :=
    kept_of_run (fun _ _ _ _ s all => (all s).2) earlierRun all
  cases step with
  | turn ready =>
    rw [ready] at left
    exact (left then_.state).1

/-- Whatever a program returned in a run is as specified. -/
theorem result_of_run {spec : List (Turn σ ℓ) → α → Prop} {i : ι} {result : α}
    (run : Run CrewStep start past crew) (ends : (start.tasks i).Ends spec [])
    (done : crew.tasks i = .done result) : spec (turnsOf i past) result := by
  have now : (crew.tasks i).Ends spec (turnsOf i past) :=
    kept_of_run (fun _ _ _ _ s ends => ends s) run ends
  rw [done] at now
  exact now

/-- Let programs take steps in the given order, skipping those that are done. -/
def Crew.play (crew : Crew ι σ ℓ α) (past : List (ι × Turn σ ℓ)) :
    List ι → List (ι × Turn σ ℓ) × Crew ι σ ℓ α
  | [] => (past, crew)
  | i :: schedule =>
    match crew.tasks i with
    | .done _ => crew.play past schedule
    | .step label effect next =>
      Crew.play ⟨effect crew.state, Function.update crew.tasks i (next crew.state)⟩
        ((i, ⟨label crew.state, crew.state, effect crew.state⟩) :: past) schedule

/-- Every order of steps gives a run. -/
theorem run_play (run : Run CrewStep start past crew) (schedule : List ι) :
    Run CrewStep start (crew.play past schedule).1 (crew.play past schedule).2 := by
  induction schedule generalizing past crew with
  | nil => exact run
  | cons i schedule ih =>
    unfold Crew.play
    split
    · exact ih run
    · rename_i ready
      exact ih (.cons run (.turn ready))

end Crews

end Dnfs
