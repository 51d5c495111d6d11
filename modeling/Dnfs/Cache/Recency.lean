import Mathlib.Data.List.Nodup
import Mathlib.Tactic.Common

/-! A bounded number of values, kept in the order in which they were used last. -/

namespace Dnfs

variable {α ε : Type}

section Age

variable (uses : ε → α → Bool)

/-- How many events ago a value was used last, with the events listed newest first. -/
def age (past : List ε) (value : α) : Nat := past.findIdx (uses · value)

/-- Values stand in the order of their last use, and each was used at some time. -/
structure UsedInOrder (past : List ε) (held : List α) : Prop where
  ordered : held.Pairwise fun newer older => age uses past newer < age uses past older
  used : ∀ value ∈ held, ∃ event ∈ past, uses event value

variable {uses} {past : List ε} {event : ε} {value : α} {held rest : List α}

/-- A value that is used now has no age. -/
theorem age_cons_used (now : uses event value) : age uses (event :: past) value = 0 := by
  rw [age, List.findIdx_cons, now, cond_true]

/-- Any other value ages by one. -/
theorem age_cons_unused (notNow : ¬ uses event value) :
    age uses (event :: past) value = age uses past value + 1 := by
  rw [age, List.findIdx_cons, Bool.eq_false_iff.mpr notNow, cond_false, age]

/-- Some of the values stay in order when none of them is used. -/
theorem UsedInOrder.unused (inOrder : UsedInOrder uses past held) (part : rest.Sublist held)
    (notNow : ∀ value ∈ rest, ¬ uses event value) : UsedInOrder uses (event :: past) rest := by
  refine ⟨?_, fun value member => ?_⟩
  · -- All of them age alike.
    refine (inOrder.ordered.sublist part).imp_of_mem fun inNewer inOlder before => ?_
    rw [age_cons_unused (notNow _ inNewer), age_cons_unused (notNow _ inOlder)]
    omega
  · obtain ⟨earlier, happened, did⟩ := inOrder.used value (part.subset member)
    exact ⟨earlier, List.mem_cons_of_mem event happened, did⟩

/-- The value that is used now comes first. -/
theorem UsedInOrder.used_now (inOrder : UsedInOrder uses past held) (part : rest.Sublist held)
    (now : uses event value) (notNow : ∀ other ∈ rest, ¬ uses event other) :
    UsedInOrder uses (event :: past) (value :: rest) := by
  have others := inOrder.unused part notNow
  refine ⟨List.pairwise_cons.mpr ⟨fun older member => ?_, others.ordered⟩, ?_⟩
  · rw [age_cons_used now, age_cons_unused (notNow older member)]
    omega
  · -- The first was used just now, and the others as before.
    intro other member
    rcases List.mem_cons.mp member with rfl | member
    · exact ⟨event, List.mem_cons_self, now⟩
    · exact others.used other member

/-- The last value is the one whose last use is the oldest. -/
theorem UsedInOrder.last_oldest (inOrder : UsedInOrder uses past held)
    {oldest : α} (last : held.getLast? = some oldest) :
    ∀ value ∈ held, value ≠ oldest → age uses past value < age uses past oldest := by
  intro value member other
  obtain ⟨init, rfl⟩ := List.getLast?_eq_some_iff.mp last
  have inInit : value ∈ init := by
    rcases List.mem_append.mp member with inInit | atEnd
    · exact inInit
    · exact absurd (List.mem_singleton.mp atEnd) other
  exact (List.pairwise_append.mp inOrder.ordered).2.2 value inInit oldest List.mem_cons_self

end Age

/-- Distinct values, no more than there is room for, with the one used last in front. -/
structure Recent (α : Type) (capacity : Nat) where
  held : List α
  nodup : held.Nodup
  bounded : held.length ≤ capacity

namespace Recent

variable {capacity : Nat}

/-- Nothing is held yet. -/
def empty : Recent α capacity := ⟨[], List.nodup_nil, Nat.zero_le _⟩

variable [DecidableEq α]

/-- The values with one of them used now. -/
theorem nodup_front {held : List α} (nodup : held.Nodup) (value : α) :
    (value :: held.erase value).Nodup :=
  List.nodup_cons.mpr ⟨nodup.not_mem_erase, nodup.erase value⟩

/-- Hold a value, and let go of what there is no room for. -/
def add (value : α) (recent : Recent α capacity) : Recent α capacity where
  held := (value :: recent.held.erase value).take capacity
  nodup := (nodup_front recent.nodup value).sublist (List.take_sublist capacity _)
  bounded := List.length_take_le capacity _

/-- Use a value, if it is held. -/
def access (value : α) (recent : Recent α capacity) : Recent α capacity :=
  if member : value ∈ recent.held then
    { held := value :: recent.held.erase value
      nodup := nodup_front recent.nodup value
      bounded := by
        have room := List.length_pos_of_mem member
        rw [List.length_cons, List.length_erase_of_mem member]
        have bounded := recent.bounded
        omega }
  else recent

/-- Let go of a value. -/
def remove (value : α) (recent : Recent α capacity) : Recent α capacity where
  held := recent.held.erase value
  nodup := recent.nodup.erase value
  bounded := Nat.le_trans List.length_erase_le recent.bounded

variable {recent : Recent α capacity} {value : α}

/-- What is added comes first, and the last goes if there is no room. -/
theorem held_add : (recent.add value).held = (value :: recent.held.erase value).take capacity := rfl

/-- A new value takes the place of the last one if there is no other. -/
theorem add_full {init : List α} {oldest : α} (absent : value ∉ recent.held)
    (ends : recent.held = init ++ [oldest]) (full : recent.held.length = capacity) :
    (recent.add value).held = value :: init := by
  have length : (value :: init).length = capacity := by
    rw [← full, ends, List.length_append, List.length_cons, List.length_singleton]
  have joined : value :: (init ++ [oldest]) = (value :: init) ++ [oldest] := rfl
  rw [held_add, List.erase_of_not_mem absent, ends, joined, List.take_left' length]

/-- A new value takes nobody's place as long as there is room. -/
theorem add_room (absent : value ∉ recent.held) (room : recent.held.length < capacity) :
    (recent.add value).held = value :: recent.held := by
  rw [held_add, List.erase_of_not_mem absent]
  exact List.take_of_length_le room

/-- What is held comes to the front. -/
theorem access_present (present : value ∈ recent.held) :
    (recent.access value).held = value :: recent.held.erase value := by
  rw [access, dif_pos present]

/-- What is not held changes nothing. -/
theorem access_absent (absent : value ∉ recent.held) : recent.access value = recent :=
  dif_neg absent

end Recent

end Dnfs
