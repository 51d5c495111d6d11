import Dnfs.Cache.LruLaws

/-! How a cache fares when anything may be added to it, and its capacity may be any number. -/

namespace Dnfs

variable {α : Type} [DecidableEq α]

namespace Lru

variable {s t : Lru α} {value : α}

/-- The values that are reported as pushed out while some operations are done. -/
def reports (s : Lru α) : List (LruOp α) → List α
  | [] => []
  | op :: ops => (op.popped s).toList ++
      match op.step s with
      | some t => t.reports ops
      | none => []

/-- A cache stays within its capacity, holds nothing twice, and can be rid of any value. -/
structure Sound (s : Lru α) : Prop where
  bounded : (s.values.length : Int) ≤ max s.capacity.toInt 0
  nodup : s.values.Nodup
  removable : ∀ value ∈ s.values, ∃ t, s.remove value = some t ∧ value ∉ t.values
  /-- A value that was removed is not reported as pushed out until it is added again. -/
  forgotten : ∀ value t, s.remove value = some t →
    value ∉ t.values ∧ ∀ later, LruOp.add value ∉ later → value ∉ t.reports later

/-- A value may be added where there is a capacity, and none of the values that stay is the same. -/
def Admits (s : Lru α) : LruOp α → Prop
  | .add value => 1 ≤ s.capacity.toInt ∧
      (value ∈ s.values → s.values.length = s.capacity.toInt ∧ s.values.getLast? = some value)
  | _ => True

section Anchored

/-- What an operation reports was held before. -/
theorem mem_of_popped {op : LruOp α} (reported : op.popped s = some value) : value ∈ s.values := by
  cases op with
  | add other =>
    obtain ⟨⟨t, res⟩, added, item⟩ := Option.bind_eq_some_iff.mp reported
    obtain ⟨u, made, _⟩ := add_eq_some added
    -- Only the last value of a full list is reported.
    rcases makeRoom_cases made with ⟨_, _, rfl⟩ | ⟨init, last, ends, _, _, rfl⟩
    · cases item
    · cases item
      rw [values_dropped ends]
      exact List.mem_append_right _ List.mem_cons_self
  | access other => cases reported
  | remove other => cases reported

/-- An operation keeps no node that is gone, and holds no value that was not held or added. -/
theorem Anchored.step (anchored : s.Anchored) {op : LruOp α} (took : op.step s = some t) :
    t.Anchored ∧ ∀ value ∈ t.values, value ∈ s.values ∨ op = .add value := by
  -- Only adding brings in a value, and it may push out another first.
  cases op with
  | add other =>
    obtain ⟨⟨u, res⟩, added, rfl⟩ := Option.map_eq_some_iff.mp took
    obtain ⟨room, made, rfl⟩ := add_eq_some added
    have old : room.Anchored ∧ ∀ value ∈ room.values, value ∈ s.values := by
      rcases makeRoom_cases made with ⟨_, rfl, _⟩ | ⟨init, last, ends, _, rfl, _⟩
      · exact ⟨anchored, fun _ member => member⟩
      · refine ⟨anchored.dropped ends, fun value member => ?_⟩
        rw [values_dropped ends]
        exact List.mem_append_left _ member
    refine ⟨old.1.pushFront, fun value member => ?_⟩
    rcases List.mem_cons.mp member with rfl | member
    · exact .inr rfl
    · exact .inl (old.2 value member)
  | access other =>
    cases kept : s.mMap other with
    | none =>
      obtain rfl := Option.some.inj ((access_absent kept).symm.trans took)
      exact ⟨anchored, fun _ member => .inl member⟩
    | some node =>
      obtain rfl := Option.some.inj ((anchored.access_present kept).symm.trans took)
      refine ⟨anchored.moved kept, fun value member => .inl ?_⟩
      obtain ⟨address, inList⟩ := mem_values.mp member
      rcases List.mem_cons.mp inList with here | later
      · obtain ⟨rfl, rfl⟩ := Prod.mk.inj here
        exact mem_values.mpr ⟨_, anchored.anchored _ _ kept⟩
      · exact mem_values.mpr ⟨address, List.mem_of_mem_filter later⟩
  | remove other =>
    cases kept : s.mMap other with
    | none =>
      obtain rfl := Option.some.inj ((remove_absent kept).symm.trans took)
      exact ⟨anchored, fun _ member => .inl member⟩
    | some node =>
      obtain rfl := Option.some.inj ((anchored.remove_present kept).symm.trans took)
      refine ⟨anchored.without kept, fun value member => .inl ?_⟩
      obtain ⟨address, inList⟩ := mem_values.mp member
      exact mem_values.mpr ⟨address, List.mem_of_mem_filter inList⟩

/-- A value that is not held is not reported until it is added. -/
theorem Anchored.not_reported (anchored : s.Anchored) (absent : value ∉ s.values)
    {later : List (LruOp α)} (notAdded : LruOp.add value ∉ later) : value ∉ s.reports later := by
  induction later generalizing s with
  | nil => exact List.not_mem_nil
  | cons op later ih =>
    rw [List.mem_cons, not_or] at notAdded
    rw [reports, List.mem_append, not_or]
    constructor
    · intro reported
      exact absent (mem_of_popped (Option.mem_toList.mp reported))
    · cases took : op.step s with
      | none => exact List.not_mem_nil
      | some t =>
        obtain ⟨kept, origin⟩ := anchored.step took
        refine ih kept (fun member => ?_) notAdded.2
        exact (origin value member).elim absent fun same => notAdded.1 same.symm

end Anchored

section Steps

/-- List and table agree, and stay within the capacity. -/
structure Tidy (s : Lru α) : Prop extends s.Linked where
  bounded : (s.values.length : Int) ≤ max s.capacity.toInt 0

/-- Removing a value leaves a cache that does not hold it. -/
theorem Linked.remove_gone (linked : s.Linked) (value : α) :
    ∃ t, s.remove value = some t ∧ t.Linked ∧ t.capacity = s.capacity ∧
      t.values = s.values.erase value := by
  cases kept : s.mMap value with
  | none =>
    refine ⟨s, remove_absent kept, linked, rfl, (List.erase_of_not_mem fun member => ?_).symm⟩
    obtain ⟨node, present⟩ := linked.present member
    rw [kept] at present
    cases present
  | some node =>
    exact ⟨_, linked.toAnchored.remove_present kept, linked.without kept, rfl,
      linked.values_without kept⟩

/-- A cache whose parts agree can be rid of any value, for as long as that is not added again. -/
theorem Tidy.sound (tidy : s.Tidy) : s.Sound where
  bounded := tidy.bounded
  nodup := tidy.nodup
  removable value _ := by
    obtain ⟨t, removed, _, _, rest⟩ := tidy.remove_gone value
    exact ⟨t, removed, rest ▸ tidy.nodup.not_mem_erase⟩
  forgotten value t removed := by
    obtain ⟨u, removes, linked, _, rest⟩ := tidy.remove_gone value
    obtain rfl := Option.some.inj (removes.symm.trans removed)
    have gone : value ∉ u.values := rest ▸ tidy.nodup.not_mem_erase
    exact ⟨gone, fun later notAdded => linked.not_reported gone notAdded⟩

/-- Adding a value that is admitted keeps the cache tidy. -/
theorem Tidy.add (tidy : s.Tidy) (admitted : s.Admits (.add value)) :
    ∃ t, LruOp.step (.add value) s = some t ∧ t.Tidy := by
  obtain ⟨positive, oldest⟩ := admitted
  have bounded := tidy.bounded
  have limit := limit_eq (s := s) (by omega)
  by_cases full : s.mList.length = s.limit
  · -- What is left after pushing out the last value does not hold the new one.
    obtain ⟨init, last, ends⟩ := exists_last (by omega) full
    have split := values_dropped ends
    have nodup := tidy.nodup
    rw [split] at nodup
    have absent : value ∉ (s.dropped init last).values := by
      intro member
      have inAll : value ∈ s.values := split ▸ List.mem_append_left _ member
      have atEnd := (oldest inAll).2
      rw [split, List.getLast?_concat] at atEnd
      exact (List.nodup_append.mp nodup).2.2 value member last.2 List.mem_cons_self
        (Option.some.inj atEnd).symm
    refine ⟨_, congrArg (Option.map Prod.fst) (add_full ends full),
      (tidy.toLinked.dropped ends).pushFront absent, ?_⟩
    rw [split, List.length_append] at bounded
    exact bounded
  · have absent : value ∉ s.values := by
      intro member
      rw [length_values] at oldest
      have atLimit := (oldest member).1
      omega
    refine ⟨_, congrArg (Option.map Prod.fst) (add_room full), tidy.toLinked.pushFront absent, ?_⟩
    rw [length_values] at bounded
    rw [values_pushFront, List.length_cons, length_values]
    show ((s.mList.length + 1 : Nat) : Int) ≤ max s.capacity.toInt 0
    omega

/-- Every operation that is admitted is defined, and keeps the cache tidy. -/
theorem Tidy.step (tidy : s.Tidy) {op : LruOp α} (admitted : s.Admits op) :
    ∃ t, op.step s = some t ∧ t.Tidy := by
  cases op with
  | add value => exact tidy.add admitted
  -- Moving a value keeps the length, and removing one lowers it.
  | access value =>
    cases kept : s.mMap value with
    | none => exact ⟨s, access_absent kept, tidy⟩
    | some node =>
      refine ⟨_, tidy.toAnchored.access_present kept, tidy.toLinked.moved kept, ?_⟩
      have present : value ∈ s.values := mem_values.mpr ⟨node, tidy.anchored value node kept⟩
      rw [tidy.values_moved kept, (List.perm_cons_erase present).symm.length_eq]
      exact tidy.bounded
  | remove value =>
    obtain ⟨t, removed, linked, capacity, rest⟩ := tidy.remove_gone value
    refine ⟨t, removed, linked, ?_⟩
    have fewer := List.length_erase_le (a := value) (l := s.values)
    have bounded := tidy.bounded
    rw [rest, capacity]
    omega

/-- What is not admitted breaks the cache at once. -/
theorem Tidy.admits (tidy : s.Tidy) {op : LruOp α} (took : op.step s = some t) (sound : t.Sound) :
    s.Admits op := by
  cases op with
  | add value =>
    obtain ⟨⟨u, res⟩, added, rfl⟩ := Option.map_eq_some_iff.mp took
    obtain ⟨room, made, rfl⟩ := add_eq_some added
    have bounded := sound.bounded
    have nodup := sound.nodup
    rw [values_pushFront, List.nodup_cons] at nodup
    rw [values_pushFront, List.length_cons] at bounded
    rcases makeRoom_cases made with ⟨_, rfl, _⟩ | ⟨init, last, ends, full, rfl, _⟩
    · -- A new node is one more, and its value must be new.
      have positive : 1 ≤ room.capacity.toInt := by
        change ((room.values.length + 1 : Nat) : Int) ≤ max room.capacity.toInt 0 at bounded
        omega
      exact ⟨positive, fun member => absurd member nodup.1⟩
    · have positive : 1 ≤ s.capacity.toInt := by
        change (((s.dropped init last).values.length + 1 : Nat) : Int) ≤ max s.capacity.toInt 0
          at bounded
        omega
      refine ⟨positive, fun member => ⟨?_, ?_⟩⟩
      · rw [length_values, full, limit_eq (by omega)]
        omega
      · -- Only the value that went may have been the same.
        rw [values_dropped ends] at member ⊢
        rcases List.mem_append.mp member with inInit | atEnd
        · exact absurd inInit nodup.1
        · rw [List.getLast?_concat, List.mem_singleton.mp atEnd]
  | access value => trivial
  | remove value => trivial

end Steps

end Lru

/--
A cache is sound throughout just when every value that is added is admitted where it is added.

That is, the capacity is at least one, and the value is not held yet, unless the cache is full and
the value is the very one that is pushed out.
-/
theorem lru_sound_iff (cap : Int32) (ops : List (LruOp α)) :
    AtEveryPoint LruOp.step Lru.Sound (Lru.new cap) ops ↔
      AtEveryStep LruOp.step Lru.Admits (Lru.new cap) ops := by
  have start : (Lru.new cap : Lru α).Tidy := ⟨Lru.new_linked cap, Int.le_max_right _ _⟩
  refine atEveryPoint_iff (fun s tidy => tidy.sound) ?_ ?_ start
  · exact fun s op tidy admitted => tidy.step admitted
  · exact fun s op t tidy took sound => tidy.admits took sound

/-- A value that was added twice is still held after its removal, and is pushed out later. -/
theorem lru_holds_removed :
    ¬ AtEveryPoint LruOp.step Lru.Sound (Lru.new 2 : Lru Nat) [.add 1, .add 1] ∧
    (∃ s, [LruOp.add 1, .add 1, .remove 1].foldlM (fun s op => op.step s)
      (Lru.new 2 : Lru Nat) = some s ∧ 1 ∈ s.values ∧ s.reports [.add 2, .add 3] = [1]) := by
  refine ⟨fun everywhere => ?_, _, rfl, by decide, by decide⟩
  obtain ⟨s, ran, sound⟩ := everywhere.last
  cases ran
  exact absurd sound.nodup (by decide)

end Dnfs
