import Dnfs.Run.SpoolSteps

/-! Items of one owner stay in order on their way to the output, if sorting can tell them apart. -/

namespace Dnfs

variable {β ε γ : Type}

/-- Two orders of the same items agree, if one is strict and the other never contradicts it. -/
theorem eq_of_strict {le lt : ε → ε → Prop} (strict : ∀ x y, lt x y → le x y ∧ ¬le y x)
    {first second : List ε} (perm : first.Perm second) (weak : first.Pairwise le)
    (ordered : second.Pairwise lt) : first = second := by
  -- Of two different items one is strictly first.
  have apart : ∀ x ∈ second, ∀ y ∈ second, x ≠ y → lt x y ∨ lt y x := by
    have symm : Std.Symm fun x y : ε => lt x y ∨ lt y x := ⟨fun _ _ => Or.symm⟩
    have either : second.Pairwise fun x y => lt x y ∨ lt y x := ordered.imp .inl
    exact fun x memX y memY => either.forall memX memY
  have alike : second.Pairwise le := ordered.imp fun less => (strict _ _ less).1
  refine List.Perm.eq_of_pairwise ?_ weak alike perm
  intro x y memX memY below above
  by_contra differs
  rcases apart x (perm.mem_iff.mp memX) y memY differs with less | less
  · exact (strict _ _ less).2 above
  · exact (strict _ _ less).2 below

namespace Spool

variable [DecidableEq γ] (owner : ε → γ) (queueOf : γ → β)

/-- What is written, in the batch and queued of one owner. -/
def ofOwner (a : Spool β ε) (c : γ) : List ε :=
  (a.output.map Prod.snd ++ a.unwritten ++ a.queues (queueOf c)).filter (owner · = c)

/-- Every item is queued where all those of its owner are. -/
def Placed (a : Spool β ε) : Prop := ∀ b, ∀ item ∈ a.queues b, b = queueOf (owner item)

/-- The items of every owner are on their way in the order in which they were queued. -/
def InOrder (a : Spool β ε) : Prop :=
  ∀ c, a.ofOwner owner queueOf c = a.added.filter (owner · = c)

variable {owner queueOf} {a b : Spool β ε}

/-- What was written of an owner came first of what it had queued. -/
theorem InOrder.output (inOrder : a.InOrder owner queueOf) (c : γ) :
    (a.output.map Prod.snd).filter (owner · = c) <+: a.added.filter (owner · = c) := by
  rw [← inOrder c, ofOwner, List.append_assoc, List.filter_append]
  exact List.prefix_append _ _

/-- Nothing of an owner is in another queue. -/
theorem Placed.filter_eq_nil (placed : a.Placed owner queueOf) {b : β} {c : γ}
    (other : b ≠ queueOf c) : (a.queues b).filter (owner · = c) = [] := by
  refine List.filter_eq_nil_iff.mpr fun item mem => ?_
  simp only [decide_eq_true_eq]
  rintro rfl
  exact other (placed b item mem)

variable [DecidableEq β] [Fintype β] {le lt : ε → ε → Prop}

/-- A step keeps the items of every owner in order, if those it queues are in a strict order. -/
theorem Step.inOrder (took : Step le a b) (strict : ∀ x y, lt x y → le x y ∧ ¬le y x)
    (placed : a.Placed owner queueOf) (placedAfter : b.Placed owner queueOf)
    (ordered : ∀ c, (a.added.filter (owner · = c)).Pairwise lt)
    (inOrder : a.InOrder owner queueOf) : b.InOrder owner queueOf := by
  intro c
  have before := inOrder c
  rw [ofOwner] at before ⊢
  -- Taken together, output, batch and queue of an owner only ever grow at their end.
  cases took with
  | push q item =>
    have here : q = queueOf (owner item) := placedAfter q item (by simp)
    show (a.output.map Prod.snd ++ a.unwritten ++ Function.update a.queues q _ _).filter _ = _
    rw [List.filter_append _ [item], ← before]
    by_cases same : queueOf c = q
    · rw [same, Function.update_self, ← List.append_assoc, List.filter_append _ [item]]
    · -- The item is somebody else's, whose queue is another one.
      have away : owner item ≠ c := by
        rintro rfl
        exact same here.symm
      rw [Function.update_of_ne same, List.filter_singleton, decide_eq_false away]
      exact (List.append_nil _).symm
  | begin => exact before
  | enter flush waits none_ =>
    rw [unwritten, none_] at before
    exact before
  | gather flush taken q running =>
    rw [unwritten, running] at before
    show (a.output.map Prod.snd ++ (a.batch ++ a.queues q) ++
      Function.update a.queues q [] _).filter _ = _
    by_cases same : queueOf c = q
    · -- The queue of the owner moves behind the batch.
      rw [same, Function.update_self, List.append_nil, ← List.append_assoc, ← same]
      exact before
    · rw [Function.update_of_ne same, ← before]
      simp only [List.filter_append, placed.filter_eq_nil (Ne.symm same), List.append_nil]
  | sort flush sorted running perm weak =>
    rw [unwritten, running] at before
    -- Sorting can not swap two items of one owner, since their order is strict.
    have within : (a.batch.filter (owner · = c)).Sublist (a.added.filter (owner · = c)) := by
      rw [← before, List.filter_append, List.filter_append]
      exact (List.sublist_append_right _ _).trans (List.sublist_append_left _ _)
    have same : sorted.filter (owner · = c) = a.batch.filter (owner · = c) :=
      eq_of_strict strict (perm.filter _) (weak.filter _) ((ordered c).sublist within)
    show (a.output.map Prod.snd ++ sorted.drop 0 ++ a.queues (queueOf c)).filter _ = _
    rw [List.drop_zero, ← before]
    simp only [List.filter_append, same]
  | write flush count item running at_ =>
    rw [unwritten, running] at before
    show ((a.output ++ [(flush, item)]).map Prod.snd ++ a.batch.drop (count + 1) ++
      a.queues (queueOf c)).filter _ = _
    obtain ⟨below, here⟩ := List.getElem?_eq_some_iff.mp at_
    dsimp only at before
    rw [List.drop_eq_getElem_cons below, here] at before
    rw [← before]
    simp
  | wrote flush count running all =>
    rw [unwritten, running] at before
    dsimp only at before
    rw [List.drop_of_length_le all] at before
    exact before
  | clear flush running | leave flush running =>
    rw [unwritten, running] at before
    exact before

end Spool

end Dnfs
