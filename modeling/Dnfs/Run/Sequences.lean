import Mathlib.Tactic.Common

/-! Sequences of operations that may fail, and what holds at every point of them. -/

namespace Dnfs

variable {σ ε : Type}

section Sequences

variable (step : ε → σ → Option σ)

/-- No operation fails, and the property holds before, between and after them. -/
def AtEveryPoint (property : σ → Prop) : σ → List ε → Prop
  | s, [] => property s
  | s, op :: ops => property s ∧ ∃ t, step op s = some t ∧ AtEveryPoint property t ops

/-- Every operation meets the condition in the state it is applied to, as long as none fails. -/
def AtEveryStep (condition : σ → ε → Prop) : σ → List ε → Prop
  | _, [] => True
  | s, op :: ops => condition s op ∧ ∀ t, step op s = some t → AtEveryStep condition t ops

variable {step} {property inv : σ → Prop} {condition : σ → ε → Prop}

/-- Whether every operation meets the condition is found out by doing them. -/
instance decidableAtEveryStep [∀ s op, Decidable (condition s op)] :
    ∀ s ops, Decidable (AtEveryStep step condition s ops)
  | _, [] => isTrue trivial
  | s, op :: ops =>
    match taken : step op s with
    | none => decidable_of_iff (condition s op) (by simp [AtEveryStep, taken])
    | some t =>
      have := decidableAtEveryStep t ops
      decidable_of_iff (condition s op ∧ AtEveryStep step condition t ops)
        (by simp [AtEveryStep, taken])

/-- What holds everywhere holds at the beginning. -/
theorem AtEveryPoint.first {s : σ} {ops : List ε} (holds : AtEveryPoint step property s ops) :
    property s := by
  cases ops with
  | nil => exact holds
  | cons => exact holds.1

/-- What an operation keeps holds of every state it is found to lead to. -/
theorem kept_of_step {s t : σ} {op : ε} (keeps : ∃ t, step op s = some t ∧ inv t)
    (takes : step op s = some t) : inv t := by
  obtain ⟨same, takesSame, kept⟩ := keeps
  -- The operation has one outcome only.
  obtain rfl : t = same := Option.some.inj (takes.symm.trans takesSame)
  exact kept

/-- An invariant that operations keep under the condition gives what follows from it everywhere. -/
theorem AtEveryStep.atEveryPoint (gives : ∀ s, inv s → property s)
    (keeps : ∀ s op, inv s → condition s op → ∃ t, step op s = some t ∧ inv t)
    {s : σ} {ops : List ε} (start : inv s) (meets : AtEveryStep step condition s ops) :
    AtEveryPoint step property s ops := by
  induction ops generalizing s with
  | nil => exact gives s start
  | cons op ops ih =>
    obtain ⟨here, later⟩ := meets
    obtain ⟨t, takes, kept⟩ := keeps s op start here
    exact ⟨gives s start, t, takes, ih kept (later t takes)⟩

/-- Under an assumption on every step, the property holds everywhere just if the condition does. -/
theorem atEveryPoint_iff_of_assumed {assumed : σ → ε → Prop} (gives : ∀ s, inv s → property s)
    (keeps : ∀ s op, inv s → assumed s op → condition s op → ∃ t, step op s = some t ∧ inv t)
    (necessary : ∀ s op t, inv s → assumed s op → step op s = some t → property t →
      condition s op)
    {s : σ} {ops : List ε} (start : inv s) (assumes : AtEveryStep step assumed s ops) :
    AtEveryPoint step property s ops ↔ AtEveryStep step condition s ops := by
  induction ops generalizing s with
  | nil => exact iff_of_true (gives s start) trivial
  | cons op ops ih =>
    obtain ⟨here, later⟩ := assumes
    constructor
    · rintro ⟨_, t, takes, holds⟩
      have meets := necessary s op t start here takes holds.first
      refine ⟨meets, fun other takesOther => ?_⟩
      obtain rfl : t = other := Option.some.inj (takes.symm.trans takesOther)
      exact (ih (kept_of_step (keeps s op start here meets) takes) (later t takes)).mp holds
    · rintro ⟨meets, meetsLater⟩
      obtain ⟨t, takes, kept⟩ := keeps s op start here meets
      exact ⟨gives s start, t, takes, (ih kept (later t takes)).mpr (meetsLater t takes)⟩

/-- What every operation of a sequence meets in any state is met at every step. -/
theorem atEveryStep_of_forall {admits : ε → Prop} {s : σ} {ops : List ε}
    (all : ∀ op ∈ ops, admits op) : AtEveryStep step (fun _ => admits) s ops := by
  induction ops generalizing s with
  | nil => trivial
  | cons op ops ih =>
    obtain ⟨here, later⟩ := List.forall_mem_cons.mp all
    exact ⟨here, fun _ _ => ih later⟩

/-- Without an assumption. -/
theorem atEveryPoint_iff (gives : ∀ s, inv s → property s)
    (keeps : ∀ s op, inv s → condition s op → ∃ t, step op s = some t ∧ inv t)
    (necessary : ∀ s op t, inv s → step op s = some t → property t → condition s op)
    {s : σ} {ops : List ε} (start : inv s) :
    AtEveryPoint step property s ops ↔ AtEveryStep step condition s ops :=
  atEveryPoint_iff_of_assumed gives (fun s op here _ => keeps s op here)
    (fun s op t here _ => necessary s op t here) start
    (atEveryStep_of_forall fun _ _ => trivial)

/-- What holds everywhere holds at the end. -/
theorem AtEveryPoint.last {s : σ} {ops : List ε} (holds : AtEveryPoint step property s ops) :
    ∃ t, ops.foldlM (fun s op => step op s) s = some t ∧ property t := by
  induction ops generalizing s with
  | nil => exact ⟨s, rfl, holds⟩
  | cons op ops ih =>
    obtain ⟨_, next, takes, later⟩ := holds
    obtain ⟨t, runs, here⟩ := ih later
    exact ⟨t, by simp [takes, runs], here⟩

/-- A run goes through its first operation and then the others. -/
theorem foldlM_cons_eq_some {s t : σ} {op : ε} {ops : List ε} :
    (op :: ops).foldlM (fun s op => step op s) s = some t ↔
      ∃ next, step op s = some next ∧ ops.foldlM (fun s op => step op s) next = some t := by
  rw [List.foldlM_cons]
  exact Option.bind_eq_some_iff

/-- What every operation keeps holds at the end of a run. -/
theorem invariant_of_run (keeps : ∀ s op t, inv s → step op s = some t → inv t) {s t : σ}
    {ops : List ε} (start : inv s) (runs : ops.foldlM (fun s op => step op s) s = some t) :
    inv t := by
  induction ops generalizing s with
  | nil =>
    cases runs
    exact start
  | cons op ops ih =>
    obtain ⟨next, takes, ends⟩ := foldlM_cons_eq_some.mp runs
    exact ih (keeps s op next start takes) ends

/-- What every operation keeps of the state and of all that was done holds at the end of a run. -/
theorem history_of_run {inv : List ε → σ → Prop}
    (keeps : ∀ past s op t, inv past s → step op s = some t → inv (past ++ [op]) t)
    {past ops : List ε} {s t : σ} (start : inv past s)
    (runs : ops.foldlM (fun s op => step op s) s = some t) : inv (past ++ ops) t := by
  induction ops generalizing past s with
  | nil =>
    cases runs
    rw [List.append_nil]
    exact start
  | cons op ops ih =>
    obtain ⟨next, takes, ends⟩ := foldlM_cons_eq_some.mp runs
    rw [List.append_cons]
    exact ih (keeps past s op next start takes) ends

/-- Where breaking the condition spoils every later state, what ends unspoilt met it throughout. -/
theorem AtEveryStep.of_run {spoilt : σ → Prop}
    (keeps : ∀ s op, inv s → condition s op → ∃ t, step op s = some t ∧ inv t)
    (breaks : ∀ s op t, inv s → ¬condition s op → step op s = some t → spoilt t)
    (stays : ∀ s op t, spoilt s → step op s = some t → spoilt t)
    {s t : σ} {ops : List ε} (start : inv s)
    (runs : ops.foldlM (fun s op => step op s) s = some t) (fine : ¬spoilt t) :
    AtEveryStep step condition s ops := by
  induction ops generalizing s with
  | nil => trivial
  | cons op ops ih =>
    obtain ⟨next, takes, ends⟩ := foldlM_cons_eq_some.mp runs
    have here : condition s op := by
      by_contra fails
      exact fine (invariant_of_run stays (breaks s op next start fails takes) ends)
    refine ⟨here, fun other takesOther => ?_⟩
    obtain rfl : next = other := Option.some.inj (takes.symm.trans takesOther)
    exact ih (kept_of_step (keeps s op start here) takes) ends

/-- What falls with every turn of one operation has fallen by the number of its turns. -/
theorem rank_le_of_run [DecidableEq ε] {rank : σ → Nat} {turn : ε}
    (falls : ∀ s op t, step op s = some t → rank t ≤ rank s - if op = turn then 1 else 0)
    {s t : σ} {ops : List ε} (runs : ops.foldlM (fun s op => step op s) s = some t) :
    rank t ≤ rank s - ops.count turn := by
  induction ops generalizing s with
  | nil =>
    cases runs
    exact Nat.le_refl _
  | cons op ops ih =>
    obtain ⟨next, takes, ends⟩ := foldlM_cons_eq_some.mp runs
    have later := ih ends
    have first := falls s op next takes
    rw [List.count_cons]
    simp only [beq_iff_eq]
    omega

end Sequences

section Threads

/-- When one thread goes on, one place loses it and another has it. -/
theorem countP_set_add {π : Type} (here : π → Bool) {pcs : List π} {i : Nat} {pc : π}
    (at_ : pcs[i]? = some pc) (next : π) :
    (pcs.set i next).countP here + (if here pc then 1 else 0)
      = pcs.countP here + if here next then 1 else 0 := by
  obtain ⟨within, same⟩ := List.getElem?_eq_some_iff.mp at_
  rw [List.countP_set within, same]
  by_cases counted : here pc = true
  · have positive : 0 < pcs.countP here :=
      List.countP_pos_iff.mpr ⟨pc, List.mem_of_getElem? at_, counted⟩
    simp only [counted, if_true]
    omega
  · simp [counted]

/-- The others stay where they are. -/
theorem mem_set_of_ne {π : Type} {pcs : List π} {i : Nat} {pc other : π}
    (at_ : pcs[i]? = some pc) (mem : other ∈ pcs) (differs : other ≠ pc) (next : π) :
    other ∈ pcs.set i next := by
  obtain ⟨j, atOther⟩ := List.getElem?_of_mem mem
  have apart : i ≠ j := by
    rintro rfl
    exact differs (Option.some.inj (atOther.symm.trans at_))
  exact List.mem_of_getElem? ((List.getElem?_set_ne apart).trans atOther)

end Threads

end Dnfs
