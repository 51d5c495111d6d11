import Dnfs.Run.Sequences
import Mathlib.Data.Finset.Basic
import Mathlib.Data.Set.Basic
import Mathlib.Logic.Function.Basic

/-! Threads that take locks along one order never come to wait for each other in a circle. -/

namespace Dnfs

variable {ι μ γ : Type}

/-- What a thread does with a lock. -/
inductive LockAct (μ : Type) where
  | lock (m : μ)
  | unlock (m : μ)
  deriving DecidableEq, Repr

/-- Hold a lock for the time of a body. -/
def withLock (m : μ) (body : List (LockAct μ)) : List (LockAct μ) :=
  -- A guard gives its lock back when its scope is left.
  .lock m :: (body ++ [.unlock m])

/-- Wait for a condition, which gives its lock back and takes it again in the end. -/
def waitFor (m : μ) : List (LockAct μ) := [.unlock m, .lock m]

/-- Who holds each lock, and what each thread is yet to do. -/
structure LockRun (ι μ : Type) where
  owner : μ → Option ι
  todo : ι → List (LockAct μ)

namespace LockRun

/-- No lock is held and every thread is between two calls. -/
def start : LockRun ι μ := ⟨fun _ => none, fun _ => []⟩

section Steps

variable [DecidableEq ι] [DecidableEq μ]

/-- A thread begins a call, or goes on in the one that it is in, unless it has to wait. -/
def step (acts : γ → List (LockAct μ)) (event : ι × Option γ) (s : LockRun ι μ) :
    Option (LockRun ι μ) :=
  let i := event.1
  match event.2, s.todo i with
  | some call, [] => some { s with todo := Function.update s.todo i (acts call) }
  | none, .lock m :: rest =>
    if s.owner m = none then
      some ⟨Function.update s.owner m (some i), Function.update s.todo i rest⟩
    else none
  | none, .unlock m :: rest =>
    some ⟨Function.update s.owner m none, Function.update s.todo i rest⟩
  | _, _ => none

end Steps

/-- A thread is about to take a lock. -/
def Wants (s : LockRun ι μ) (i : ι) (m : μ) : Prop := ∃ rest, s.todo i = .lock m :: rest

/-- Some threads each wait for a lock that another one of them holds. -/
def Circle (s : LockRun ι μ) : Prop :=
  ∃ threads : Set ι, threads.Nonempty ∧
    ∀ i ∈ threads, ∃ m, s.Wants i m ∧ ∃ j ∈ threads, j ≠ i ∧ s.owner m = some j

/-- A thread is about to take a lock that it holds already. -/
def Relocks (s : LockRun ι μ) : Prop := ∃ i m, s.Wants i m ∧ s.owner m = some i

end LockRun

/-- What is above all locks held is not held. -/
theorem notMem_of_above {rank : μ → Nat} {held : Finset μ} {m : μ}
    (above : ∀ h ∈ held, rank h < rank m) : m ∉ held :=
  fun mem => Nat.lt_irrefl _ (above m mem)

section Order

variable [DecidableEq μ] (rank : μ → Nat)

/-- Every lock taken is above all that are held then, and in the end all are given back. -/
def Climbs : Finset μ → List (LockAct μ) → Prop
  | held, [] => held = ∅
  | held, .lock m :: rest => (∀ h ∈ held, rank h < rank m) ∧ Climbs (insert m held) rest
  | held, .unlock m :: rest => m ∈ held ∧ Climbs (held.erase m) rest

/-- What a piece of code does climbs, if what is done after it does. -/
def Within (held : Finset μ) (body : List (LockAct μ)) : Prop :=
  ∀ rest, Climbs rank held rest → Climbs rank held (body ++ rest)

variable {rank} {held : Finset μ} {m : μ} {body other : List (LockAct μ)}

/-- Doing nothing keeps to the order. -/
theorem Within.nil : Within rank held [] := fun _ climbs => climbs

/-- One thing after another keeps to the order if both do. -/
theorem Within.append (first : Within rank held body) (second : Within rank held other) :
    Within rank held (body ++ other) := by
  intro rest climbs
  rw [List.append_assoc]
  exact first _ (second rest climbs)

/-- One piece of code for each item of a list. -/
theorem Within.flatMap {α : Type} {items : List α} {body : α → List (LockAct μ)}
    (each : ∀ item ∈ items, Within rank held (body item)) :
    Within rank held (items.flatMap body) := by
  induction items with
  | nil => exact .nil
  | cons item items ih =>
    obtain ⟨here, later⟩ := List.forall_mem_cons.mp each
    rw [List.flatMap_cons]
    exact here.append (ih later)

/-- A lock above all that are held can be held for the time of a body. -/
theorem Within.withLock (above : ∀ h ∈ held, rank h < rank m)
    (inside : Within rank (insert m held) body) : Within rank held (withLock m body) := by
  intro rest climbs
  have given : Climbs rank (insert m held) (.unlock m :: rest) := by
    refine ⟨Finset.mem_insert_self m held, ?_⟩
    rw [Finset.erase_insert (notMem_of_above above)]
    exact climbs
  have split : Dnfs.withLock m body ++ rest = .lock m :: (body ++ .unlock m :: rest) := by
    simp [Dnfs.withLock]
  rw [split]
  exact ⟨above, inside _ given⟩

/-- Waiting gives up the topmost lock for a while. -/
theorem Within.waitFor (above : ∀ h ∈ held, rank h < rank m) :
    Within rank (insert m held) (waitFor m) := by
  intro rest climbs
  refine ⟨Finset.mem_insert_self m held, ?_⟩
  rw [Finset.erase_insert (notMem_of_above above)]
  exact ⟨above, climbs⟩

/-- A whole call climbs. -/
theorem Within.climbs (within : Within rank ∅ body) : Climbs rank ∅ body := by
  have whole := within [] rfl
  rwa [List.append_nil] at whole

end Order

namespace LockRun

section Threads

variable [DecidableEq μ] {rank : μ → Nat} {s t : LockRun ι μ}

/-- Every thread holds some locks, from which what it is yet to do climbs. -/
def Ordered (rank : μ → Nat) (s : LockRun ι μ) : Prop :=
  ∃ held : ι → Finset μ, (∀ i m, m ∈ held i ↔ s.owner m = some i) ∧
    ∀ i, Climbs rank (held i) (s.todo i)

/-- In the beginning nobody holds a lock. -/
theorem Ordered.start : Ordered rank (start : LockRun ι μ) :=
  ⟨fun _ => ∅, by simp [LockRun.start], fun _ => rfl⟩

/-- A lock that is wanted is above those its thread holds. -/
theorem Ordered.wants {i : ι} {m h : μ} (ordered : s.Ordered rank) (wants : s.Wants i m)
    (holds : s.owner h = some i) : rank h < rank m := by
  obtain ⟨held, owns, climbs⟩ := ordered
  obtain ⟨rest, at_⟩ := wants
  have next := climbs i
  rw [at_] at next
  exact next.1 h ((owns i h).mpr holds)

/-- Nobody waits for a lock of their own. -/
theorem Ordered.not_relocks (ordered : s.Ordered rank) : ¬s.Relocks := by
  rintro ⟨i, m, wants, holds⟩
  exact Nat.lt_irrefl _ (ordered.wants wants holds)

/-- In a circle every wanted lock is below another one, so there is none among finitely many. -/
theorem Ordered.not_circle (ordered : s.Ordered rank) {bound : Nat}
    (bounded : ∀ m, rank m < bound) : ¬s.Circle := by
  rintro ⟨threads, ⟨i, mem⟩, waits⟩
  -- The induction is on how far the wanted lock is from the top.
  have none_ : ∀ room, ∀ i ∈ threads, ∀ m, s.Wants i m → bound - rank m ≤ room → False := by
    intro room
    induction room with
    | zero =>
      intro i _ m _ few
      have below := bounded m
      omega
    | succ room ih =>
      intro i mem m wants few
      obtain ⟨m', wants', j, memJ, _, holds⟩ := waits i mem
      obtain ⟨next, wantsNext, _⟩ := waits j memJ
      have same : m' = m := by
        obtain ⟨rest, at_⟩ := wants
        obtain ⟨rest', at'⟩ := wants'
        rw [at_] at at'
        cases at'
        rfl
      have climbs := ordered.wants wantsNext (same ▸ holds)
      have below := bounded next
      exact ih j memJ next wantsNext (by omega)
  obtain ⟨m, wants, _⟩ := waits i mem
  exact none_ _ i mem m wants (Nat.le_refl _)

variable [DecidableEq ι] {acts : γ → List (LockAct μ)}

/-- What one thread holds and is yet to do changes, and nothing else. -/
theorem climbs_update {held : ι → Finset μ} {todo : ι → List (LockAct μ)}
    (all : ∀ j, Climbs rank (held j) (todo j)) (i : ι) {now : Finset μ}
    {rest : List (LockAct μ)} (climbs : Climbs rank now rest) (j : ι) :
    Climbs rank (Function.update held i now j) (Function.update todo i rest j) := by
  by_cases here : j = i
  · subst here
    rw [Function.update_self, Function.update_self]
    exact climbs
  · rw [Function.update_of_ne here, Function.update_of_ne here]
    exact all j

/-- A thread that begins a call holds no lock. -/
theorem Ordered.call (ordered : s.Ordered rank) {i : ι} (idle : s.todo i = [])
    {body : List (LockAct μ)} (climbs : Climbs rank ∅ body) :
    Ordered rank { s with todo := Function.update s.todo i body } := by
  obtain ⟨held, owns, all⟩ := ordered
  have nothing : held i = ∅ := by
    have ends := all i
    rwa [idle] at ends
  have same : Function.update held i (held i) = held := Function.update_eq_self i held
  refine ⟨held, owns, ?_⟩
  rw [← same]
  exact climbs_update all i (nothing ▸ climbs)

/-- A thread that takes a free lock holds it from then on. -/
theorem Ordered.lock (ordered : s.Ordered rank) {i : ι} {m : μ} {rest : List (LockAct μ)}
    (at_ : s.todo i = .lock m :: rest) (free : s.owner m = none) :
    Ordered rank ⟨Function.update s.owner m (some i), Function.update s.todo i rest⟩ := by
  obtain ⟨held, owns, all⟩ := ordered
  have next := all i
  rw [at_] at next
  refine ⟨Function.update held i (insert m (held i)), fun j h => ?_,
    climbs_update all i next.2⟩
  -- Only whether this thread holds this lock has changed.
  by_cases here : j = i
  · subst here
    by_cases same : h = m
    · simp [same]
    · simp [same, owns]
  · by_cases same : h = m
    · subst same
      simp [here, Ne.symm here, owns, free]
    · simp [here, same, owns]

/-- A thread gives back only what it holds. -/
theorem Ordered.unlock (ordered : s.Ordered rank) {i : ι} {m : μ} {rest : List (LockAct μ)}
    (at_ : s.todo i = .unlock m :: rest) :
    Ordered rank ⟨Function.update s.owner m none, Function.update s.todo i rest⟩ := by
  obtain ⟨held, owns, all⟩ := ordered
  have next := all i
  rw [at_] at next
  have mine : s.owner m = some i := (owns i m).mp next.1
  refine ⟨Function.update held i ((held i).erase m), fun j h => ?_,
    climbs_update all i next.2⟩
  -- Nobody else can have held the lock, so nobody else loses it.
  by_cases here : j = i
  · subst here
    by_cases same : h = m
    · simp [same]
    · simp [same, owns]
  · by_cases same : h = m
    · subst same
      simp [here, Ne.symm here, owns, mine]
    · simp [here, same, owns]

/-- Whatever a thread does, all threads keep to the order. -/
theorem Ordered.step (climbs : ∀ call, Climbs rank ∅ (acts call)) (ordered : s.Ordered rank)
    {event : ι × Option γ} (took : s.step acts event = some t) : t.Ordered rank := by
  rw [LockRun.step] at took
  split at took
  · next call idle =>
    cases took
    exact ordered.call idle (climbs _)
  · next m rest at_ =>
    split at took
    · next free =>
      cases took
      exact ordered.lock at_ free
    · cases took
  · next m rest at_ =>
    cases took
    exact ordered.unlock at_
  · cases took

/-- All threads keep to the order in a whole run. -/
theorem Ordered.run (climbs : ∀ call, Climbs rank ∅ (acts call)) {events : List (ι × Option γ)}
    (runs : events.foldlM (fun s event => LockRun.step acts event s) LockRun.start = some t) :
    t.Ordered rank :=
  invariant_of_run (fun _ _ _ ordered took => ordered.step climbs took) Ordered.start runs

end Threads

end LockRun

end Dnfs
