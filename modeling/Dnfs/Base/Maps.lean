import Mathlib.Tactic.Common

/-! Ordered maps that are filled entry by entry, where a key that is there already is kept. -/

namespace Dnfs

variable {κ υ : Type} {cmp : κ → κ → Ordering} [Std.TransCmp cmp]

/-- Insert entries one after another, each unless its key is there. -/
def emplaceAll (map : Std.ExtTreeMap κ υ cmp) (entries : List (κ × υ)) : Std.ExtTreeMap κ υ cmp :=
  entries.foldl (fun map entry => map.insertIfNew entry.1 entry.2) map

/-- The first entry for a key. -/
def firstEntry (cmp : κ → κ → Ordering) (entries : List (κ × υ)) (key : κ) : Option (κ × υ) :=
  entries.find? fun entry => cmp entry.1 key == .eq

/-- A map was extended by just the entries of a list, and kept what it had. -/
structure ExtendedBy (map : Std.ExtTreeMap κ υ cmp) (entries : List (κ × υ))
    (extended : Std.ExtTreeMap κ υ cmp) : Prop where
  keys : ∀ key, extended.getKey? key =
    (map.getKey? key).or ((firstEntry cmp entries key).map Prod.fst)
  values : ∀ key : κ, extended[key]? = map[key]?.or ((firstEntry cmp entries key).map Prod.snd)

variable {map : Std.ExtTreeMap κ υ cmp} {entry : κ × υ} {entries : List (κ × υ)}

/-- A key is that of an entry which the map has or lacks along with it, or another. -/
theorem key_cases (map : Std.ExtTreeMap κ υ cmp) (own key : κ) :
    (cmp own key = .eq ∧ own ∈ map ∧ key ∈ map) ∨ (cmp own key = .eq ∧ own ∉ map ∧ key ∉ map) ∨
      cmp own key ≠ .eq := by
  by_cases same : cmp own key = .eq
  · have congr : own ∈ map ↔ key ∈ map := Std.ExtTreeMap.mem_congr same
    by_cases present : own ∈ map
    · exact .inl ⟨same, present, congr.mp present⟩
    · exact .inr (.inl ⟨same, present, mt congr.mpr present⟩)
  · exact .inr (.inr same)

/-- Inserting one entry extends a map by it. -/
theorem insertIfNew_extendedBy : ExtendedBy map [entry] (map.insertIfNew entry.1 entry.2) where
  keys key := by
    rw [Std.ExtTreeMap.getKey?_insertIfNew, firstEntry, List.find?_singleton]
    -- The entry counts where its key is asked for and was not there.
    rcases key_cases map entry.1 key with ⟨same, present, there⟩ | ⟨same, absent, lacks⟩ | other
    · simp [same, present, Std.ExtTreeMap.getKey?_eq_some_getKey there]
    · simp [same, absent, Std.ExtTreeMap.getKey?_eq_none lacks]
    · simp [other]
  values key := by
    rw [Std.ExtTreeMap.getElem?_insertIfNew, firstEntry, List.find?_singleton]
    rcases key_cases map entry.1 key with ⟨same, present, there⟩ | ⟨same, absent, lacks⟩ | other
    · simp [same, present, Std.ExtTreeMap.getElem?_eq_some_getElem there]
    · simp [same, absent, Std.ExtTreeMap.getElem?_eq_none lacks]
    · simp [other]

/-- Nothing extends a map to itself. -/
theorem ExtendedBy.nil : ExtendedBy map [] map where
  keys _ := (Option.or_none).symm
  values _ := (Option.or_none).symm

/-- Extending twice extends by both. -/
theorem ExtendedBy.trans {others : List (κ × υ)} {next last : Std.ExtTreeMap κ υ cmp}
    (first : ExtendedBy map entries next) (second : ExtendedBy next others last) :
    ExtendedBy map (entries ++ others) last where
  keys key := by
    rw [second.keys, first.keys, firstEntry, firstEntry, firstEntry, List.find?_append,
      Option.map_or, Option.or_assoc]
  values key := by
    rw [second.values, first.values, firstEntry, firstEntry, firstEntry, List.find?_append,
      Option.map_or, Option.or_assoc]

/-- Inserting entries one after another extends a map by all of them. -/
theorem emplaceAll_extendedBy (map : Std.ExtTreeMap κ υ cmp) (entries : List (κ × υ)) :
    ExtendedBy map entries (emplaceAll map entries) := by
  induction entries generalizing map with
  | nil => exact ExtendedBy.nil
  | cons entry entries ih =>
    exact insertIfNew_extendedBy.trans (ih (map.insertIfNew entry.1 entry.2))

/-- The first entry for a key in the list of a map is what the map has for it. -/
theorem firstEntry_toList (map : Std.ExtTreeMap κ υ cmp) (key : κ) :
    (firstEntry cmp map.toList key).map Prod.fst = map.getKey? key ∧
      (firstEntry cmp map.toList key).map Prod.snd = map[key]? := by
  cases first : firstEntry cmp map.toList key with
  | none =>
    have absent := Std.ExtTreeMap.find?_toList_eq_none_iff_not_mem.mp first
    exact ⟨(Std.ExtTreeMap.getKey?_eq_none absent).symm,
      (Std.ExtTreeMap.getElem?_eq_none absent).symm⟩
  | some entry =>
    obtain ⟨own, value⟩ :=
      Std.ExtTreeMap.find?_toList_eq_some_iff_getKey?_eq_some_and_getElem?_eq_some.mp first
    exact ⟨own.symm, value.symm⟩

/-- The entries of a map, inserted into an empty one, make the same map. -/
theorem emplaceAll_toList (map : Std.ExtTreeMap κ υ cmp) : emplaceAll ∅ map.toList = map := by
  have extended := emplaceAll_extendedBy (∅ : Std.ExtTreeMap κ υ cmp) map.toList
  refine Std.ExtTreeMap.ext_getKey_getElem? (fun key there present => ?_) fun key => ?_
  · -- Both maps have the key in the same form.
    have keys := extended.keys key
    rw [Std.ExtTreeMap.getKey?_empty, Option.none_or, (firstEntry_toList map key).1,
      Std.ExtTreeMap.getKey?_eq_some_getKey there,
      Std.ExtTreeMap.getKey?_eq_some_getKey present] at keys
    exact Option.some.inj keys
  · rw [extended.values, Std.ExtTreeMap.getElem?_empty, Option.none_or,
      (firstEntry_toList map key).2]

end Dnfs
