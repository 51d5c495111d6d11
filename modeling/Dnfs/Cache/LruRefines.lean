import Dnfs.Cache.LruLaws

/-! A cache to which only new values are added keeps the values used last. -/

namespace Dnfs

variable {α : Type} [DecidableEq α] {capacity : Nat}

/-- What is done with a cache, done with the values that are to be held. -/
def LruOp.recent : LruOp α → Recent α capacity → Recent α capacity
  | add value => Recent.add value
  | access value => Recent.access value
  | remove value => Recent.remove value

/-- The values that are to be held after some operations. -/
def recentAfter (capacity : Nat) (ops : List (LruOp α)) : Recent α capacity :=
  ops.foldl (fun recent op => op.recent recent) Recent.empty

namespace Lru

/-- A cache holds what is to be held, in the order of its last uses, and its parts agree. -/
structure Follows (past : List (LruOp α)) (recent : Recent α capacity) (s : Lru α) : Prop where
  linked : s.Linked
  held : s.values = recent.held
  limit : s.limit = capacity
  inOrder : UsedInOrder LruOp.uses past s.values

variable {past : List (LruOp α)} {recent : Recent α capacity} {s : Lru α} {value : α}

section Operations

variable (follows : s.Follows past recent)
include follows

/-- A cache with room for one more takes in a new value. -/
theorem Follows.add_room (absent : value ∉ s.values) (room : s.values.length ≠ capacity) :
    (s.pushFront value).Follows (.add value :: past) (recent.add value) where
  linked := follows.linked.pushFront absent
  held := by
    -- A list within its bound that is not at it has room for one more.
    have bounded := recent.bounded
    rw [follows.held] at absent room
    rw [Recent.add_room absent (by omega), ← follows.held, values_pushFront]
  limit := follows.limit
  inOrder := by
    refine follows.inOrder.used_now (List.Sublist.refl _) (decide_eq_true rfl) ?_
    exact fun other member same => absent (of_decide_eq_true same ▸ member)

/-- A full cache takes in a new value for its last one. -/
theorem Follows.add_full (absent : value ∉ s.values)
    {init : List (Nat × α)} {last : Nat × α} (ends : s.mList = init ++ [last])
    (full : s.values.length = capacity) :
    ((s.dropped init last).pushFront value).Follows (.add value :: past) (recent.add value) where
  linked := by
    refine (follows.linked.dropped ends).pushFront fun member => absent ?_
    rw [values_dropped ends]
    exact List.mem_append_left _ member
  held := by
    have split := values_dropped ends
    rw [follows.held] at split absent full
    rw [Recent.add_full absent split full, values_pushFront]
  limit := follows.limit
  inOrder := by
    -- The values that stay are in the order they were in.
    have part : (s.dropped init last).values.Sublist s.values := by
      rw [values_dropped ends]
      exact List.sublist_append_left _ _
    refine follows.inOrder.used_now part (decide_eq_true rfl) fun other member same => ?_
    exact absent (of_decide_eq_true same ▸ part.subset member)

/-- A value that is held moves to the front when it is used. -/
theorem Follows.access_present {node : Nat}
    (kept : s.mMap value = some node) (present : value ∈ s.values) :
    (s.moved node value).Follows (.access value :: past) (recent.access value) where
  linked := follows.linked.moved kept
  held := by
    rw [follows.linked.values_moved kept, Recent.access_present (follows.held ▸ present),
      follows.held]
  limit := follows.limit
  inOrder := by
    rw [follows.linked.values_moved kept]
    refine follows.inOrder.used_now List.erase_sublist (decide_eq_true rfl) ?_
    exact fun other member same =>
      follows.linked.nodup.not_mem_erase (of_decide_eq_true same ▸ member)

/-- A value that is not held is not used, and nothing else is. -/
theorem Follows.access_absent (absent : value ∉ s.values) :
    s.Follows (.access value :: past) (recent.access value) where
  linked := follows.linked
  held := by
    rw [Recent.access_absent (follows.held ▸ absent), follows.held]
  limit := follows.limit
  inOrder := follows.inOrder.unused (List.Sublist.refl _) fun other member same =>
    absent (of_decide_eq_true same ▸ member)

/-- A value that is removed is gone, and the others stay in order. -/
theorem Follows.remove_present {node : Nat} (kept : s.mMap value = some node) :
    (s.without node value).Follows (.remove value :: past) (recent.remove value) where
  linked := follows.linked.without kept
  held := by
    rw [follows.linked.values_without kept, follows.held]
    rfl
  limit := follows.limit
  inOrder := by
    rw [follows.linked.values_without kept]
    exact follows.inOrder.unused List.erase_sublist fun _ _ => Bool.false_ne_true

/-- Removing a value that is not held changes nothing. -/
theorem Follows.remove_absent (absent : value ∉ s.values) :
    s.Follows (.remove value :: past) (recent.remove value) where
  linked := follows.linked
  held := by
    rw [follows.held] at absent
    exact follows.held.trans (List.erase_of_not_mem absent).symm
  limit := follows.limit
  inOrder := follows.inOrder.unused (List.Sublist.refl _) fun _ _ => Bool.false_ne_true

end Operations

/-- Only a value that is not held is added. -/
def AddsAbsent (s : Lru α) : LruOp α → Prop
  | .add value => value ∉ s.values
  | _ => True

instance (s : Lru α) : ∀ op, Decidable (s.AddsAbsent op)
  | .add value => inferInstanceAs (Decidable (value ∉ s.values))
  | .access _ | .remove _ => isTrue trivial

/-- A full cache has a last node. -/
theorem Follows.exists_last (follows : s.Follows past recent) (positive : 0 < capacity)
    (full : s.values.length = capacity) : ∃ init last, s.mList = init ++ [last] := by
  rw [length_values, ← follows.limit] at full
  exact Lru.exists_last (follows.limit ▸ positive) full

/-- Every operation is defined, and does with the cache what is to be done with the values. -/
theorem Follows.step (follows : s.Follows past recent) (positive : 0 < capacity) {op : LruOp α}
    (admitted : s.AddsAbsent op) :
    ∃ t, op.step s = some t ∧ t.Follows (op :: past) (op.recent recent) := by
  have anchored := follows.linked.toAnchored
  cases op with
  | add value =>
    -- A full cache lets go of its last value first.
    by_cases full : s.values.length = capacity
    · obtain ⟨init, last, ends⟩ := follows.exists_last positive full
      have reached : s.mList.length = s.limit := by rw [← length_values, full, follows.limit]
      exact ⟨_, congrArg (Option.map Prod.fst) (Lru.add_full ends reached),
        follows.add_full admitted ends full⟩
    · have below : s.mList.length ≠ s.limit := by rwa [← length_values, follows.limit]
      exact ⟨_, congrArg (Option.map Prod.fst) (Lru.add_room below),
        follows.add_room admitted full⟩
  | access value =>
    by_cases present : value ∈ s.values
    · obtain ⟨node, kept⟩ := follows.linked.present present
      exact ⟨_, anchored.access_present kept, follows.access_present kept present⟩
    · exact ⟨s, Lru.access_absent (anchored.absent present), follows.access_absent present⟩
  | remove value =>
    by_cases present : value ∈ s.values
    · obtain ⟨node, kept⟩ := follows.linked.present present
      exact ⟨_, anchored.remove_present kept, follows.remove_present kept⟩
    · exact ⟨s, Lru.remove_absent (anchored.absent present), follows.remove_absent present⟩

/-- Any number of operations are defined, and keep up with the values that are to be held. -/
theorem Follows.run (follows : s.Follows past recent) (positive : 0 < capacity)
    {ops : List (LruOp α)} (admitted : AtEveryStep LruOp.step AddsAbsent s ops) :
    ∃ t, ops.foldlM (fun s op => op.step s) s = some t ∧
      t.Follows (ops.reverse ++ past) (ops.foldl (fun recent op => op.recent recent) recent) := by
  -- The cache and the values that are to be held take the same step.
  induction ops generalizing s past recent with
  | nil => exact ⟨s, rfl, follows⟩
  | cons op ops ih =>
    obtain ⟨next, took, nextFollows⟩ := follows.step positive admitted.1
    obtain ⟨t, ran, tFollows⟩ := ih nextFollows (admitted.2 next took)
    refine ⟨t, ?_, ?_⟩
    · rw [List.foldlM_cons, took]
      exact ran
    · rw [List.reverse_cons, List.append_assoc]
      exact tFollows

/-- A cache keeps the values used last, and says which one it pushes out for a new one. -/
structure KeepsRecent (past : List (LruOp α)) (recent : Recent α capacity) (s : Lru α) : Prop where
  /-- It holds what is to be held, without duplicates and in the order of the last uses. -/
  held : s.values = recent.held
  nodup : s.values.Nodup
  inOrder : UsedInOrder LruOp.uses past s.values
  bounded : s.values.length ≤ capacity
  /-- Each node is its own, and is in the list just when the table has it for its value. -/
  addresses : (s.mList.map Prod.fst).Nodup
  nodes : ∀ node value, (node, value) ∈ s.mList ↔ s.mMap value = some node
  /-- Using or removing a value that is not held changes nothing. -/
  absent : ∀ value ∉ s.values, s.access value = some s ∧ s.remove value = some s
  /-- With no room left, a new value takes the place of the one whose last use is the oldest. -/
  full : s.values.length = capacity → ∃ oldest ∈ s.values,
    (∀ value ∈ s.values, value ≠ oldest →
      age LruOp.uses past value < age LruOp.uses past oldest) ∧
    ∀ value ∉ s.values, ∃ t, s.add value = some (t, ⟨true, some oldest⟩) ∧
      t.values = value :: s.values.erase oldest
  /-- Before that it takes nobody's place. -/
  room : s.values.length ≠ capacity → ∀ value ∉ s.values,
    ∃ t, s.add value = some (t, {}) ∧ t.values = value :: s.values

/-- What a full cache does with a new value. -/
theorem Follows.keeps_full (follows : s.Follows past recent) (positive : 0 < capacity)
    (full : s.values.length = capacity) : ∃ oldest ∈ s.values,
      (∀ value ∈ s.values, value ≠ oldest →
        age LruOp.uses past value < age LruOp.uses past oldest) ∧
      ∀ value ∉ s.values, ∃ t, s.add value = some (t, ⟨true, some oldest⟩) ∧
        t.values = value :: s.values.erase oldest := by
  obtain ⟨init, last, ends⟩ := follows.exists_last positive full
  have reached : s.mList.length = s.limit := by rw [← length_values, full, follows.limit]
  have split := values_dropped ends
  -- The last value is in no other place of the list.
  have nodup := follows.linked.nodup
  rw [split] at nodup
  have once : last.2 ∉ (s.dropped init last).values := fun member =>
    (List.nodup_append.mp nodup).2.2 last.2 member last.2 List.mem_cons_self rfl
  refine ⟨last.2, ?_, ?_, fun value absent => ⟨_, Lru.add_full ends reached, ?_⟩⟩
  · rw [split]
    exact List.mem_append_right _ List.mem_cons_self
  · refine follows.inOrder.last_oldest ?_
    rw [split, List.getLast?_concat]
  · rw [values_pushFront, split, List.erase_append_right _ once, List.erase_cons_head,
      List.append_nil]

/-- What the two have in common is what is promised. -/
theorem Follows.keepsRecent (follows : s.Follows past recent) (positive : 0 < capacity) :
    s.KeepsRecent past recent where
  held := follows.held
  nodup := follows.linked.nodup
  inOrder := follows.inOrder
  bounded := follows.held ▸ recent.bounded
  addresses := follows.linked.addresses
  nodes node value := ⟨follows.linked.linked node value, follows.linked.anchored value node⟩
  absent value absent :=
    have unkept := follows.linked.toAnchored.absent absent
    ⟨Lru.access_absent unkept, Lru.remove_absent unkept⟩
  full := follows.keeps_full positive
  room below value _ := by
    rw [length_values, ← follows.limit] at below
    exact ⟨_, Lru.add_room below, rfl⟩

/-- A cache that was just constructed holds nothing, as it should. -/
theorem new_follows {cap : Int32} (positive : 0 ≤ cap.toInt) :
    (new cap : Lru α).Follows [] (Recent.empty : Recent α cap.toInt.toNat) where
  linked := new_linked cap
  held := rfl
  limit := limit_eq positive
  inOrder := ⟨List.Pairwise.nil, fun _ member => absurd member List.not_mem_nil⟩

end Lru

/--
A cache to which only new values are added keeps the values used last.

Every operation is defined, and the values are those of the list that was made for the purpose.
-/
theorem lru_refines {cap : Int32} (positive : 1 ≤ cap.toInt) {ops : List (LruOp α)}
    (admitted : AtEveryStep LruOp.step Lru.AddsAbsent (Lru.new cap) ops) :
    ∃ s, ops.foldlM (fun s op => op.step s) (Lru.new cap) = some s ∧
      s.KeepsRecent ops.reverse (recentAfter cap.toInt.toNat ops) := by
  have room : 0 < cap.toInt.toNat := by omega
  obtain ⟨s, ran, follows⟩ := (Lru.new_follows (by omega)).run room admitted
  rw [List.append_nil] at follows
  exact ⟨s, ran, follows.keepsRecent room⟩

/-- Three values in a cache for two, where the second use of the first one spares it. -/
theorem lru_refines_three :
    ∃ s, [LruOp.add 1, .add 2, .access 1, .add 3].foldlM (fun s op => op.step s)
        (Lru.new 2 : Lru Nat) = some s ∧
      s.KeepsRecent [.add 3, .access 1, .add 2, .add 1]
        (recentAfter (Int32.toInt 2).toNat [LruOp.add 1, .add 2, .access 1, .add 3]) :=
  lru_refines (by decide) (by decide)

end Dnfs
