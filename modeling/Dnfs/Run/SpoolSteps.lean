import Dnfs.Run.Spool
import Mathlib.Tactic.Abel

/-! What can happen to queues, batch and output, and that it loses and repeats nothing. -/

namespace Dnfs

variable {β ε : Type}

namespace Spool

section Queues

variable {β : Type} [DecidableEq β] {queues : β → List ε} {b c : β} {item other : ε}

/-- What is queued was queued before, or is the item at the end. -/
theorem mem_push (mem : other ∈ Function.update queues b (queues b ++ [item]) c) :
    other ∈ queues c ∨ other = item := by
  -- One queue changes, and only at its end.
  by_cases same : c = b
  · subst same
    rw [Function.update_self] at mem
    exact (List.mem_append.mp mem).imp_right List.mem_singleton.mp
  · rw [Function.update_of_ne same] at mem
    exact .inl mem

/-- What is still queued is in another queue than the one that was taken. -/
theorem mem_take (mem : item ∈ Function.update queues b [] c) : c ≠ b ∧ item ∈ queues c := by
  by_cases same : c = b
  · subst same
    rw [Function.update_self] at mem
    cases mem
  · rw [Function.update_of_ne same] at mem
    exact ⟨same, mem⟩

end Queues

variable [DecidableEq β] [Fintype β]

/-- What can happen next, where the relation says which items may precede which in one batch. -/
inductive Step (le : ε → ε → Prop) (a : Spool β ε) : Spool β ε → Prop where
  | push (b : β) (item : ε) : item ∉ a.added →
    Step le a { a with
      queues := Function.update a.queues b (a.queues b ++ [item]), added := a.added ++ [item] }
  | begin :
    Step le a { a with begun := a.begun + 1, waiting := insert a.begun a.waiting }
  | enter (flush : Nat) : flush ∈ a.waiting → a.running = none →
    Step le a { a with
      waiting := a.waiting.erase flush, running := some (flush, .gathering ∅) }
  | gather (flush : Nat) (taken : Finset β) (b : β) :
    a.running = some (flush, .gathering taken) →
    Step le a { a with
      queues := Function.update a.queues b [], batch := a.batch ++ a.queues b,
      running := some (flush, .gathering (insert b taken)) }
  | sort (flush : Nat) (sorted : List ε) : a.running = some (flush, .gathering Finset.univ) →
    sorted.Perm a.batch → sorted.Pairwise le →
    Step le a { a with batch := sorted, running := some (flush, .writing 0) }
  | write (flush count : Nat) (item : ε) : a.running = some (flush, .writing count) →
    a.batch[count]? = some item →
    Step le a { a with
      output := a.output ++ [(flush, item)], running := some (flush, .writing (count + 1)) }
  | wrote (flush count : Nat) : a.running = some (flush, .writing count) →
    a.batch.length ≤ count →
    Step le a { a with running := some (flush, .written) }
  | clear (flush : Nat) : a.running = some (flush, .written) →
    Step le a { a with batch := [], running := some (flush, .cleared) }
  | leave (flush : Nat) : a.running = some (flush, .cleared) →
    Step le a { a with running := none, finished := flush :: a.finished }

section Places

/-- Changing one summand takes the old one away and brings the new one in. -/
theorem sum_update_add {γ M : Type} [AddCommMonoid M] (measure : γ → M) (f : β → γ) (b : β)
    (new : γ) : ∑ i, measure (Function.update f b new i) + measure (f b)
      = ∑ i, measure (f i) + measure new := by
  -- All summands but one stay.
  have others : ∑ i ∈ Finset.univ.erase b, measure (Function.update f b new i)
      = ∑ i ∈ Finset.univ.erase b, measure (f i) := by
    refine Finset.sum_congr rfl fun i away => ?_
    rw [Function.update_of_ne (Finset.ne_of_mem_erase away)]
  rw [← Finset.add_sum_erase _ _ (Finset.mem_univ b), others, Function.update_self,
    ← Finset.add_sum_erase _ (fun i => measure (f i)) (Finset.mem_univ b)]
  abel

variable {le : ε → ε → Prop} {a b : Spool β ε}

/-- An item at the end of a queue is one more in the queues. -/
theorem queues_push (queues : β → List ε) (b : β) (item : ε) :
    ∑ i, (Function.update queues b (queues b ++ [item]) i : Multiset ε)
      = ∑ i, (queues i : Multiset ε) + {item} := by
  have moved := sum_update_add (fun queue : List ε => (queue : Multiset ε)) queues b
    (queues b ++ [item])
  rw [← Multiset.coe_add, ← add_assoc, add_right_comm] at moved
  exact add_right_cancel moved

/-- What is taken from a queue is no longer in the queues. -/
theorem queues_take (queues : β → List ε) (b : β) :
    ∑ i, (Function.update queues b [] i : Multiset ε) + (queues b : Multiset ε)
      = ∑ i, (queues i : Multiset ε) := by
  have moved := sum_update_add (fun queue : List ε => (queue : Multiset ε)) queues b []
  rwa [Multiset.coe_nil, add_zero] at moved

/-- No step loses an item or writes it once more. -/
theorem Step.places (took : Step le a b) (whole : a.places = a.added) : b.places = b.added := by
  rw [Spool.places] at whole ⊢
  -- What leaves one place arrives in another in the same step.
  cases took with
  | push b item =>
    rw [queues_push, ← Multiset.coe_add, ← whole]
    show _ + _ + (a.unwritten : Multiset ε) + (a.output.map Prod.snd : List ε) = _
    rw [Multiset.coe_singleton]
    abel
  | begin => exact whole
  -- A flush that enters or leaves has nothing of the batch written.
  | enter _ _ running | leave _ running =>
    rw [unwritten, running] at whole
    exact whole
  | gather flush taken b running =>
    rw [unwritten, running, ← queues_take a.queues b] at whole
    rw [← whole]
    show _ + ((a.batch ++ a.queues b : List ε) : Multiset ε) + _ = _
    rw [← Multiset.coe_add]
    abel
  | sort flush sorted running perm =>
    rw [unwritten, running] at whole
    rw [← whole, ← Multiset.coe_eq_coe.mpr perm]
    rfl
  | write flush count item running at_ =>
    -- The item that is written next is the first that is not written.
    have before : a.unwritten = item :: a.batch.drop (count + 1) := by
      rw [unwritten, running]
      exact List.drop_eq_getElem?_toList_append.trans (by rw [at_]; rfl)
    rw [← whole, before, ← Multiset.cons_coe, ← Multiset.singleton_add]
    show _ + ((a.batch.drop (count + 1) : List ε) : Multiset ε)
      + ((a.output ++ [(flush, item)]).map Prod.snd : List ε) = _
    rw [List.map_append, ← Multiset.coe_add]
    show _ + _ + (_ + {item}) = _
    abel
  | wrote flush count running all =>
    rw [unwritten, running] at whole
    dsimp only at whole
    rw [List.drop_eq_nil_of_le all] at whole
    exact whole
  | clear flush running =>
    rw [unwritten, running] at whole
    exact whole

end Places

section Order

variable {le : ε → ε → Prop} {a b : Spool β ε}

/-- A step keeps the numbers of the flushes apart. -/
theorem Step.numbered (took : Step le a b) (numbered : a.Numbered) : b.Numbered := by
  cases took with
  | push => exact { numbered with }
  | begin =>
    refine ⟨fun flush mem => ?_, fun flush stage running => ?_, fun flush mem => ?_⟩
    · rcases Finset.mem_insert.mp mem with rfl | before
      · exact Nat.lt_succ_self _
      · exact Nat.lt_succ_of_lt (numbered.waiting flush before)
    · obtain ⟨below, away⟩ := numbered.running flush stage running
      refine ⟨Nat.lt_succ_of_lt below, fun mem => ?_⟩
      rcases Finset.mem_insert.mp mem with rfl | before
      · exact Nat.lt_irrefl _ below
      · exact away before
    · exact Nat.lt_succ_of_lt (numbered.finished flush mem)
  | enter flush waits =>
    refine ⟨fun other mem => ?_, fun other stage same => ?_, numbered.finished⟩
    · exact numbered.waiting other (Finset.mem_of_mem_erase mem)
    · cases same
      exact ⟨numbered.waiting flush waits, Finset.notMem_erase flush a.waiting⟩
  -- From its first queue on the flush that runs is the same one.
  | gather _ _ _ running | sort _ _ running | write _ _ _ running | wrote _ _ running
  | clear _ running => exact { numbered with running := numbered.goesOn running }
  | leave flush running =>
    refine ⟨numbered.waiting, nofun, fun other mem => ?_⟩
    rcases List.mem_cons.mp mem with rfl | before
    · exact (numbered.running _ _ running).1
    · exact numbered.finished other before

/-- A step keeps what the flushes write in order. -/
theorem Step.written (took : Step le a b) (numbered : a.Numbered) (written : a.Written le) :
    b.Written le := by
  cases took with
  | push => exact { written with }
  | begin =>
    refine { written with silent := fun flush silent => written.silent flush ?_ }
    rcases silent with above | mem | gathers
    · exact .inl (Nat.le_of_succ_le above)
    · rcases Finset.mem_insert.mp mem with rfl | before
      · exact .inl (Nat.le_refl _)
      · exact .inr (.inl before)
    · exact .inr (.inr gathers)
  -- Who gets a turn waited for it, and has written nothing.
  | enter flush waits =>
    refine ⟨fun other silent => written.silent other ?_, nofun, nofun, written.sorted⟩
    rcases silent with above | mem | ⟨taken, ⟨⟩⟩
    · exact .inl above
    · exact .inr (.inl (Finset.mem_of_mem_erase mem))
    · exact .inr (.inl waits)
  | gather flush taken b running =>
    refine ⟨fun other silent => written.silent other ?_, nofun, nofun, written.sorted⟩
    refine silent.earlier rfl rfl fun taken same => ?_
    cases same
    exact .inr (.inr ⟨_, running⟩)
  -- The batch is in order from now on, and nothing of it is written.
  | sort flush sorted running perm ordered =>
    refine ⟨fun other silent => written.silent other (silent.earlier rfl rfl nofun),
      fun other count same => ?_, nofun, written.sorted⟩
    cases same
    exact ⟨ordered, written.silent flush (.inr (.inr ⟨_, running⟩))⟩
  -- Only the flush that writes has something added to what it wrote.
  | write flush count item running at_ =>
    obtain ⟨below, away⟩ := numbered.running _ _ running
    obtain ⟨ordered, so_far⟩ := written.writing _ _ running
    have now : ∀ other, writtenBy { a with
        output := a.output ++ [(flush, item)], running := some (flush, .writing (count + 1)) } other
        = a.writtenBy other ++ if flush = other then [item] else [] :=
      fun other => writtenBy_write a.output flush other item
    -- The flush has written one more item of its batch.
    have more : a.writtenBy flush ++ [item] = a.batch.take (count + 1) := by
      rw [so_far, List.take_add_one, at_]
      rfl
    refine ⟨fun other silent => ?_, fun other next same => ?_, nofun, fun other => ?_⟩
    · have before : a.Silent other := silent.earlier rfl rfl nofun
      have differs : flush ≠ other := by
        rintro rfl
        rcases silent with above | mem | ⟨taken, ⟨⟩⟩
        · exact Nat.lt_irrefl _ (Nat.lt_of_lt_of_le below above)
        · exact away mem
      rw [now, if_neg differs, List.append_nil]
      exact written.silent other before
    · cases same
      rw [now, if_pos rfl]
      exact ⟨ordered, more⟩
    · rw [now]
      by_cases same : flush = other
      · subst same
        rw [if_pos rfl, more]
        exact ordered.sublist (List.take_sublist _ _)
      · rw [if_neg same, List.append_nil]
        exact written.sorted other
  | wrote | leave =>
    exact ⟨fun other silent => written.silent other (silent.earlier rfl rfl nofun), nofun, nofun,
      written.sorted⟩
  | clear => exact ⟨fun other silent => written.silent other (silent.earlier rfl rfl nofun), nofun,
      fun _ _ => rfl, written.sorted⟩

end Order

section Sound

variable {le : ε → ε → Prop} {a b : Spool β ε} {old : ε → Prop} {first : Nat}

/-- A step leaves no old item behind that was to be reached. -/
theorem Step.reaches (took : Step le a b) (written : a.Written le) (reaches : a.Reaches old first) :
    b.Reaches old first := by
  have finished := reaches.finished
  -- A finished flush promises something about the batch, so its stage is put in first.
  cases took with
  | push b item new =>
    -- What is queued now is not old.
    have queues : ∀ c, (∀ item ∈ a.queues c, ¬old item) →
        ∀ other ∈ Function.update a.queues b (a.queues b ++ [item]) c, ¬old other := by
      intro c none other mem
      rcases mem_push mem with before | rfl
      · exact none other before
      · exact fun isOld => new (reaches.known other isOld)
    refine ⟨fun other isOld => List.mem_append_left _ (reaches.known other isOld),
      fun flush stage running later c taken => queues c ?_, fun flush mem later => ?_⟩
    · exact reaches.taken flush stage running later c taken
    · obtain ⟨none, batch⟩ := finished flush mem later
      exact ⟨fun c => queues c (none c), batch⟩
  | begin => exact { reaches with }
  | enter flush waits running =>
    rw [unwritten, running] at finished
    refine ⟨reaches.known, fun other stage same later c taken => ?_, finished⟩
    cases same
    cases taken
  | gather flush taken b running =>
    rw [unwritten, running] at finished
    refine ⟨reaches.known, fun other stage same later c within item mem => ?_,
      fun other mem later => ?_⟩
    · cases same
      obtain ⟨away, before⟩ := mem_take mem
      have earlier := (Finset.mem_insert.mp within).resolve_left away
      exact reaches.taken flush _ running later c earlier item before
    · obtain ⟨none, batch⟩ := finished other mem later
      refine ⟨fun c item within => none c item (mem_take within).2, fun item within => ?_⟩
      exact (List.mem_append.mp within).elim (batch item) (none b item)
  | sort flush sorted running perm =>
    rw [unwritten, running] at finished
    refine ⟨reaches.known, reaches.goesOn running rfl, fun other mem later => ?_⟩
    obtain ⟨none, batch⟩ := finished other mem later
    exact ⟨none, fun item within => batch item (perm.mem_iff.mp within)⟩
  | write flush count item running at_ =>
    rw [unwritten, running] at finished
    refine ⟨reaches.known, reaches.goesOn running rfl, fun other mem later => ?_⟩
    obtain ⟨none, batch⟩ := finished other mem later
    exact ⟨none, fun item within =>
      batch item (List.drop_subset_drop_left _ (Nat.le_succ count) within)⟩
  | wrote flush count running | clear flush running =>
    exact ⟨reaches.known, reaches.goesOn running rfl,
      fun other mem later => ⟨(finished other mem later).1, List.forall_mem_nil _⟩⟩
  | leave flush running =>
    rw [unwritten, running] at finished
    refine ⟨reaches.known, fun _ _ same => (by cases same), fun other mem later => ?_⟩
    rcases List.mem_cons.mp mem with rfl | before
    · -- Everything was taken, and nothing is left of the batch.
      refine ⟨fun c => reaches.taken _ _ running later c (Finset.mem_univ c), ?_⟩
      show ∀ item ∈ a.batch, ¬old item
      rw [written.cleared _ running]
      exact List.forall_mem_nil _
    · exact finished other before later

/-- A step keeps every item in one place. -/
theorem Step.sound (took : Step le a b) (sound : a.Sound le) : b.Sound le where
  toNumbered := took.numbered sound.toNumbered
  toWritten := took.written sound.toNumbered sound.toWritten
  places := took.places sound.places
  nodup := by
    cases took with
    | push _ item new => exact List.nodup_append_comm.mp (List.nodup_cons.mpr ⟨new, sound.nodup⟩)
    | _ => exact sound.nodup

end Sound

end Spool

end Dnfs
