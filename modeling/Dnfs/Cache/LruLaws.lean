import Dnfs.Cache.Lru
import Dnfs.Cache.Recency
import Dnfs.Run.Sequences

/-! The list and the table of a cache agree, as far as the values added to it are new. -/

namespace Dnfs

variable {α : Type}

namespace Lru

section Agreement

/-- Every node that is kept for a value is in the list, and holds that value. -/
structure Anchored (s : Lru α) : Prop where
  addresses : (s.mList.map Prod.fst).Nodup
  made : ∀ node value, (node, value) ∈ s.mList → node < s.fresh
  anchored : ∀ value node, s.mMap value = some node → (node, value) ∈ s.mList

/-- List and table agree: a node is in the list just when it is the one kept for its value. -/
structure Linked (s : Lru α) : Prop extends Anchored s where
  linked : ∀ node value, (node, value) ∈ s.mList → s.mMap value = some node

variable {s : Lru α} {value : α} {node : Nat}

/-- A value is held just when some node holds it. -/
theorem mem_values : value ∈ s.values ↔ ∃ node, (node, value) ∈ s.mList := by
  rw [values, List.mem_map]
  constructor
  · rintro ⟨⟨node, held⟩, member, rfl⟩
    exact ⟨node, member⟩
  · rintro ⟨node, member⟩
    exact ⟨(node, value), member, rfl⟩

/-- There are as many values as nodes. -/
theorem length_values : s.values.length = s.mList.length := List.length_map Prod.snd

/-- A cache that was just constructed is in order. -/
theorem new_linked (cap : Int32) : (new cap : Lru α).Linked where
  addresses := List.nodup_nil
  made _ _ member := absurd member List.not_mem_nil
  anchored _ _ kept := absurd kept (by simp [new])
  linked _ _ member := absurd member List.not_mem_nil

/-- No two nodes share an address. -/
theorem Anchored.node_value (anchored : s.Anchored) {other : α}
    (member : (node, value) ∈ s.mList) (also : (node, other) ∈ s.mList) : value = other :=
  congrArg Prod.snd (List.inj_on_of_nodup_map anchored.addresses member also rfl)

/-- A value that is not held has no node. -/
theorem Anchored.absent (anchored : s.Anchored) (absent : value ∉ s.values) :
    s.mMap value = none := by
  -- Its node would be in the list.
  rw [Option.eq_none_iff_forall_ne_some]
  exact fun node kept => absent (mem_values.mpr ⟨node, anchored.anchored value node kept⟩)

/-- A node that is kept can be taken out of the list. -/
theorem Anchored.unlink_eq (anchored : s.Anchored) (kept : s.mMap value = some node) :
    s.unlink node = some (s.mList.filter (·.1 ≠ node)) := by
  refine if_pos (List.any_eq_true.mpr ⟨(node, value), anchored.anchored value node kept, ?_⟩)
  exact decide_eq_true rfl

/-- Using a value without a node changes nothing. -/
theorem access_absent (absent : s.mMap value = none) : s.access value = some s := by
  rw [access, absent]

/-- A cache with a node in front that was somewhere in its list. -/
def moved (s : Lru α) (node : Nat) (value : α) : Lru α :=
  { s with mList := (node, value) :: s.mList.filter (·.1 ≠ node) }

/-- Using a value moves its node to the front. -/
theorem Anchored.access_present (anchored : s.Anchored) (kept : s.mMap value = some node) :
    s.access value = some (s.moved node value) := by
  simp only [access, kept, anchored.unlink_eq kept, Option.map_some]
  rfl

/-- Moving a node to the front loses none that is kept. -/
theorem Anchored.moved (anchored : s.Anchored) (kept : s.mMap value = some node) :
    (s.moved node value).Anchored where
  addresses := by
    -- The node that moved is no longer among the others.
    refine List.nodup_cons.mpr ⟨fun member => ?_, ?_⟩
    · obtain ⟨item, inList, same⟩ := List.mem_map.mp member
      exact of_decide_eq_true (List.mem_filter.mp inList).2 same
    · exact anchored.addresses.sublist (List.filter_sublist.map Prod.fst)
  made other held member := by
    rcases List.mem_cons.mp member with here | later
    · obtain ⟨rfl, rfl⟩ := Prod.mk.inj here
      exact anchored.made _ _ (anchored.anchored _ _ kept)
    · exact anchored.made other held (List.mem_of_mem_filter later)
  anchored held other keptOther := by
    by_cases same : other = node
    · -- The node moved to the front.
      subst same
      rw [anchored.node_value (anchored.anchored held other keptOther)
        (anchored.anchored value other kept)]
      exact List.mem_cons_self
    · exact List.mem_cons_of_mem _ (List.mem_filter.mpr
        ⟨anchored.anchored held other keptOther, decide_eq_true same⟩)

/-- A value that is held has a node. -/
theorem Linked.present (linked : s.Linked) (present : value ∈ s.values) :
    ∃ node, s.mMap value = some node :=
  (mem_values.mp present).imp fun node member => linked.linked node value member

/-- Moving a node to the front leaves it the one that is kept. -/
theorem Linked.moved (linked : s.Linked) (kept : s.mMap value = some node) :
    (s.moved node value).Linked where
  toAnchored := linked.toAnchored.moved kept
  linked other held member := by
    rcases List.mem_cons.mp member with here | later
    · obtain ⟨rfl, rfl⟩ := Prod.mk.inj here
      exact kept
    · exact linked.linked other held (List.mem_of_mem_filter later)

/-- No value is held twice. -/
theorem Linked.nodup (linked : s.Linked) : s.values.Nodup := by
  -- Two nodes of one value would both be the one that is kept for it.
  refine (List.Nodup.of_map Prod.fst linked.addresses).map_on fun one inList other alsoIn same => ?_
  have kept := linked.linked one.1 one.2 inList
  rw [same, linked.linked other.1 other.2 alsoIn] at kept
  exact Prod.ext (Option.some.inj kept).symm same

/-- Taking the node of a value out of the list leaves the other values as they stand. -/
theorem Linked.values_filter [DecidableEq α] (linked : s.Linked) (kept : s.mMap value = some node) :
    (s.mList.filter (·.1 ≠ node)).map Prod.snd = s.values.erase value := by
  rw [linked.nodup.erase_eq_filter, values, List.filter_map]
  refine congrArg (List.map Prod.snd) (List.filter_congr fun item member => ?_)
  -- A node of the list is that of the value just when it holds the value.
  have own := linked.linked item.1 item.2 member
  simp only [Function.comp_apply, ne_eq, decide_not, Bool.not_eq_eq_eq_not, bne]
  by_cases same : item.2 = value
  · rw [same, kept] at own
    simp [same, (Option.some.inj own).symm]
  · have differ : item.1 ≠ node := fun equal =>
      same (linked.node_value (equal ▸ member) (linked.anchored value node kept))
    simp [same, differ]

/-- A capacity that is not below zero is the limit. -/
theorem limit_eq (positive : 0 ≤ s.capacity.toInt) : s.limit = s.capacity.toInt.toNat := by
  have equal := asSize_of_nonneg positive
  rw [limit]
  omega

/-- A list that has reached a limit above zero has a last node. -/
theorem exists_last (positive : 0 < s.limit) (full : s.mList.length = s.limit) :
    ∃ init last, s.mList = init ++ [last] := by
  rcases List.eq_nil_or_concat s.mList with none | ⟨init, last, ends⟩
  · rw [none, List.length_nil] at full
    omega
  · exact ⟨init, last, ends.trans List.concat_eq_append⟩

end Agreement

section Operations

variable [DecidableEq α] {s t : Lru α} {value : α} {node : Nat}

/-- A cache whose last node was pushed out. -/
def dropped (s : Lru α) (init : List (Nat × α)) (last : Nat × α) : Lru α :=
  { s with mList := init, mMap := s.setNode last.2 none }

/-- Room is made by pushing out the last node of a full list, if it has one. -/
theorem makeRoom_full {init : List (Nat × α)} {last : Nat × α} (ends : s.mList = init ++ [last])
    (full : s.mList.length = s.limit) :
    s.makeRoom = some (s.dropped init last, ⟨true, some last.2⟩) := by
  rw [makeRoom, if_pos full, ends, List.getLast?_concat, List.dropLast_concat]
  rfl

/-- A list that is not full lets go of nothing. -/
theorem makeRoom_room (room : s.mList.length ≠ s.limit) : s.makeRoom = some (s, {}) := if_neg room

/-- The two ways of making room. -/
theorem makeRoom_cases {res : LruAddRes α} (made : s.makeRoom = some (t, res)) :
    s.mList.length ≠ s.limit ∧ t = s ∧ res = {} ∨
      ∃ init last, s.mList = init ++ [last] ∧ s.mList.length = s.limit ∧
        t = s.dropped init last ∧ res = ⟨true, some last.2⟩ := by
  by_cases full : s.mList.length = s.limit
  · -- A full list that is empty has nothing to push out.
    rcases List.eq_nil_or_concat s.mList with none | ⟨init, last, ends⟩
    · rw [makeRoom, if_pos full, none] at made
      exact absurd made (by simp)
    · rw [List.concat_eq_append] at ends
      rw [makeRoom_full ends full] at made
      obtain ⟨rfl, rfl⟩ := Prod.mk.inj (Option.some.inj made)
      exact .inr ⟨init, last, ends, full, rfl, rfl⟩
  · rw [makeRoom_room full] at made
    obtain ⟨rfl, rfl⟩ := Prod.mk.inj (Option.some.inj made)
    exact .inl ⟨full, rfl, rfl⟩

/-- Adding puts the value in front once room was made. -/
theorem add_eq {res : LruAddRes α} (made : s.makeRoom = some (t, res)) :
    s.add value = some (t.pushFront value, res) := by
  rw [add, made]
  rfl

/-- What was added came behind making room. -/
theorem add_eq_some {u : Lru α} {res : LruAddRes α} (added : s.add value = some (u, res)) :
    ∃ t, s.makeRoom = some (t, res) ∧ u = t.pushFront value := by
  obtain ⟨⟨t, res⟩, made, rest⟩ := Option.bind_eq_some_iff.mp added
  obtain ⟨rfl, rfl⟩ := Prod.mk.inj (Option.some.inj rest)
  exact ⟨t, made, rfl⟩

/-- Removing a value without a node changes nothing. -/
theorem remove_absent (absent : s.mMap value = none) : s.remove value = some s := by
  rw [remove, absent]

/-- A cache without a node that was somewhere in its list. -/
def without (s : Lru α) (node : Nat) (value : α) : Lru α :=
  { s with mList := s.mList.filter (·.1 ≠ node), mMap := s.setNode value none }

/-- Removing a value takes its node out. -/
theorem Anchored.remove_present (anchored : s.Anchored) (kept : s.mMap value = some node) :
    s.remove value = some (s.without node value) := by
  simp only [remove, kept, anchored.unlink_eq kept, Option.map_some]
  rfl

/-- What a changed table keeps for a value. -/
theorem setNode_eq_some {other : α} {kept : Option Nat}
    (set : s.setNode other kept value = some node) :
    value = other ∧ kept = some node ∨ value ≠ other ∧ s.mMap value = some node := by
  by_cases same : value = other
  · exact .inl ⟨same, (if_pos same).symm.trans set⟩
  · exact .inr ⟨same, (if_neg same).symm.trans set⟩

/-- The table keeps the node that was set. -/
theorem setNode_self {kept : Option Nat} : s.setNode value kept value = kept := if_pos rfl

/-- The table keeps the nodes of the other values. -/
theorem setNode_other {other : α} {kept : Option Nat} (differ : other ≠ value) :
    s.setNode value kept other = s.mMap other := if_neg differ

/-- Pushing out the last node leaves no node kept that is gone. -/
theorem Anchored.dropped (anchored : s.Anchored) {init : List (Nat × α)} {last : Nat × α}
    (ends : s.mList = init ++ [last]) : (s.dropped init last).Anchored where
  addresses := by
    have addresses := anchored.addresses
    rw [ends, List.map_append] at addresses
    exact (List.nodup_append.mp addresses).1
  made node value member := anchored.made node value (ends ▸ List.mem_append_left [last] member)
  anchored value node kept := by
    -- Only the table's entry for the last value could have been its node.
    rcases setNode_eq_some kept with ⟨_, gone⟩ | ⟨differ, kept⟩
    · cases gone
    · have member := anchored.anchored value node kept
      rw [ends] at member
      rcases List.mem_append.mp member with inInit | atEnd
      · exact inInit
      · exact absurd (congrArg Prod.snd (List.mem_singleton.mp atEnd)) differ

/-- A new node in front is the one kept for its value. -/
theorem Anchored.pushFront (anchored : s.Anchored) : (s.pushFront value).Anchored where
  addresses := by
    refine List.nodup_cons.mpr ⟨fun member => ?_, anchored.addresses⟩
    -- The address is new.
    obtain ⟨⟨node, held⟩, inList, same⟩ := List.mem_map.mp member
    exact absurd same (Nat.ne_of_lt (anchored.made node held inList))
  made node held member := by
    rcases List.mem_cons.mp member with here | later
    · obtain ⟨rfl, rfl⟩ := Prod.mk.inj here
      exact Nat.lt_succ_self s.fresh
    · exact Nat.lt_succ_of_lt (anchored.made node held later)
  anchored other node kept := by
    rcases setNode_eq_some kept with ⟨rfl, here⟩ | ⟨_, kept⟩
    · exact Option.some.inj here ▸ List.mem_cons_self
    · exact List.mem_cons_of_mem _ (anchored.anchored other node kept)

/-- Taking a node out leaves the others kept. -/
theorem Anchored.without (anchored : s.Anchored) (kept : s.mMap value = some node) :
    (s.without node value).Anchored where
  addresses := anchored.addresses.sublist (List.filter_sublist.map Prod.fst)
  made other held member := anchored.made other held (List.mem_of_mem_filter member)
  anchored held other set := by
    rcases setNode_eq_some set with ⟨_, gone⟩ | ⟨differ, keptOther⟩
    · cases gone
    · -- The node of another value is another node.
      have member := anchored.anchored held other keptOther
      refine List.mem_filter.mpr ⟨member, decide_eq_true fun same => differ ?_⟩
      subst same
      exact anchored.node_value member (anchored.anchored value other kept)

section Values

/-- The last value is the one that goes. -/
theorem values_dropped {init : List (Nat × α)} {last : Nat × α} (ends : s.mList = init ++ [last]) :
    s.values = (s.dropped init last).values ++ [last.2] := by
  rw [values, ends, List.map_append]
  rfl

/-- A new value stands before the others. -/
theorem values_pushFront : (s.pushFront value).values = value :: s.values := rfl

/-- A value that was used stands before the others. -/
theorem Linked.values_moved (linked : s.Linked) (kept : s.mMap value = some node) :
    (s.moved node value).values = value :: s.values.erase value :=
  congrArg (value :: ·) (linked.values_filter kept)

/-- Only the value that was removed is gone. -/
theorem Linked.values_without (linked : s.Linked) (kept : s.mMap value = some node) :
    (s.without node value).values = s.values.erase value := linked.values_filter kept

end Values

section Linked

/-- List and table agree after the last node went. -/
theorem Linked.dropped (linked : s.Linked) {init : List (Nat × α)} {last : Nat × α}
    (ends : s.mList = init ++ [last]) : (s.dropped init last).Linked where
  toAnchored := linked.toAnchored.dropped ends
  linked node value member := by
    -- The last value is in no other node.
    have nodup := linked.nodup
    rw [values_dropped ends] at nodup
    have differ : value ≠ last.2 :=
      (List.nodup_append.mp nodup).2.2 value (mem_values.mpr ⟨node, member⟩) last.2
        List.mem_cons_self
    exact (setNode_other differ).trans
      (linked.linked node value (ends ▸ List.mem_append_left [last] member))

/-- List and table agree when a value that was not held is put in front. -/
theorem Linked.pushFront (linked : s.Linked) (absent : value ∉ s.values) :
    (s.pushFront value).Linked where
  toAnchored := linked.toAnchored.pushFront
  linked node held member := by
    rcases List.mem_cons.mp member with here | later
    · obtain ⟨rfl, rfl⟩ := Prod.mk.inj here
      exact setNode_self
    · have differ : held ≠ value := fun same => absent (mem_values.mpr ⟨node, same ▸ later⟩)
      exact (setNode_other differ).trans (linked.linked node held later)

/-- List and table agree after a value was removed. -/
theorem Linked.without (linked : s.Linked) (kept : s.mMap value = some node) :
    (s.without node value).Linked where
  toAnchored := linked.toAnchored.without kept
  linked other held member := by
    obtain ⟨inList, differ⟩ := List.mem_filter.mp member
    have own := linked.linked other held inList
    -- Only the node that went was kept for the value.
    have another : held ≠ value := by
      intro same
      rw [same, kept] at own
      exact of_decide_eq_true differ (Option.some.inj own).symm
    exact (setNode_other another).trans own

end Linked

end Operations

section Adding

variable [DecidableEq α] {s : Lru α} {value : α} {init : List (Nat × α)} {last : Nat × α}

/-- Adding to a full cache pushes out its last value. -/
theorem add_full (ends : s.mList = init ++ [last]) (full : s.mList.length = s.limit) :
    s.add value = some ((s.dropped init last).pushFront value, ⟨true, some last.2⟩) :=
  add_eq (makeRoom_full ends full)

/-- Adding to a cache that is not full pushes out nothing. -/
theorem add_room (room : s.mList.length ≠ s.limit) :
    s.add value = some (s.pushFront value, {}) := add_eq (makeRoom_room room)

end Adding

end Lru

end Dnfs
