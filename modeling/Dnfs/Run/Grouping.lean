import Mathlib.Data.List.Nodup
import Mathlib.Data.List.Perm.Basic
import Mathlib.Tactic.Common

/-! Sorting entries into lists by a key, one after the other. -/

namespace Dnfs

section Grouping

variable {κ α : Type} [DecidableEq κ] {cmp : κ → κ → Ordering} [Std.TransCmp cmp]
variable (entries : List (κ × α))

/-- Put every entry behind the others with its key. -/
def grouped (groups : Std.ExtTreeMap κ (List α) cmp) : Std.ExtTreeMap κ (List α) cmp :=
  entries.foldl (fun groups entry =>
    groups.insert entry.1 (groups.getD entry.1 [] ++ [entry.2])) groups

/-- What the entries with a key hold, in their order. -/
def bucket (key : κ) : List α :=
  (entries.filter fun entry => entry.1 = key).map Prod.snd

/-- An entry goes into the bucket of its key. -/
theorem bucket_cons (entry : κ × α) (entries : List (κ × α)) (key : κ) :
    bucket (entry :: entries) key =
      if entry.1 = key then entry.2 :: bucket entries key else bucket entries key := by
  by_cases same : entry.1 = key
  · rw [if_pos same, bucket, List.filter_cons_of_pos (by simpa using same), List.map_cons, bucket]
  · rw [if_neg same, bucket, List.filter_cons_of_neg (by simpa using same), bucket]

/-- A bucket has the values of its key. -/
theorem mem_bucket {entries : List (κ × α)} {key : κ} {value : α} :
    value ∈ bucket entries key ↔ (key, value) ∈ entries := by
  simp [bucket]

/-- A bucket keeps the order of the entries. -/
theorem bucket_sublist (key : κ) : (bucket entries key).Sublist (entries.map Prod.snd) :=
  List.filter_sublist.map Prod.snd

variable [Std.LawfulEqCmp cmp]

/-- A list is what was there before, and then the entries with its key. -/
theorem getElem?_grouped (groups : Std.ExtTreeMap κ (List α) cmp) (key : κ) :
    (grouped entries groups)[key]? =
      if bucket entries key = [] then groups[key]?
      else some (groups.getD key [] ++ bucket entries key) := by
  -- The first entry is put into the groups, so these stay quantified over.
  induction entries generalizing groups with
  | nil => rfl
  | cons entry entries ih =>
    change (grouped entries (groups.insert entry.1 (groups.getD entry.1 [] ++ [entry.2])))[key]? = _
    rw [ih, bucket_cons, Std.ExtTreeMap.getElem?_insert, Std.ExtTreeMap.getD_insert]
    by_cases same : entry.1 = key
    · -- The entry stands in front of the others with its key.
      have equal : cmp entry.1 key = .eq := Std.LawfulEqCmp.compare_eq_iff_eq.mpr same
      rw [if_pos equal, if_pos equal, if_pos same, if_neg (List.cons_ne_nil _ _), ← same]
      split
      · next empty => rw [empty]
      · rw [List.append_assoc, List.singleton_append]
    · have differs : cmp entry.1 key ≠ .eq := fun equal =>
        same (Std.LawfulEqCmp.compare_eq_iff_eq.mp equal)
      rw [if_neg differs, if_neg differs, if_neg same]

/-- With no lists before, there is one for each key of an entry, and it holds these entries. -/
theorem getElem?_grouped_empty {entries : List (κ × α)} {key : κ} {list : List α} :
    (grouped entries (∅ : Std.ExtTreeMap κ (List α) cmp))[key]? = some list ↔
      bucket entries key = list ∧ list ≠ [] := by
  rw [getElem?_grouped, Std.ExtTreeMap.getElem?_empty, Std.ExtTreeMap.getD_empty, List.nil_append]
  constructor
  · intro found
    split at found
    · cases found
    · next nonempty =>
      cases found
      exact ⟨rfl, nonempty⟩
  · rintro ⟨rfl, nonempty⟩
    rw [if_neg nonempty]

/-- All lists together hold what the entries hold, if these are different. -/
theorem flatMap_grouped_perm {entries : List (κ × α)} (distinct : (entries.map Prod.snd).Nodup) :
    ((grouped entries (∅ : Std.ExtTreeMap κ (List α) cmp)).toList.flatMap Prod.snd).Perm
      (entries.map Prod.snd) := by
  have listed : ∀ pair ∈ (grouped entries (∅ : Std.ExtTreeMap κ (List α) cmp)).toList,
      bucket entries pair.1 = pair.2 := fun pair mem =>
    (getElem?_grouped_empty.mp (Std.ExtTreeMap.mem_toList_iff_getElem?_eq_some.mp mem)).1
  -- A value has one key only, since it occurs once.
  have once : ∀ key key' value, (key, value) ∈ entries → (key', value) ∈ entries → key = key' := by
    intro key key' value mem mem'
    exact congrArg Prod.fst (List.inj_on_of_nodup_map distinct mem mem' rfl)
  refine (List.perm_ext_iff_of_nodup (List.nodup_flatMap.mpr ⟨?_, ?_⟩) distinct).mpr ?_
  · intro pair mem
    rw [← listed pair mem]
    exact (bucket_sublist entries pair.1).nodup distinct
  · refine Std.ExtTreeMap.distinct_keys_toList.imp_of_mem fun {pair pair'} mem mem' differ => ?_
    intro value here there
    rw [← listed pair mem, mem_bucket] at here
    rw [← listed pair' mem', mem_bucket] at there
    exact differ (Std.LawfulEqCmp.compare_eq_iff_eq.mpr (once _ _ value here there))
  · intro value
    rw [List.mem_flatMap, List.mem_map]
    constructor
    · rintro ⟨pair, mem, here⟩
      rw [← listed pair mem, mem_bucket] at here
      exact ⟨(pair.1, value), here, rfl⟩
    · rintro ⟨⟨key, _⟩, mem, rfl⟩
      have here : _ ∈ bucket entries key := mem_bucket.mpr mem
      refine ⟨(key, bucket entries key), ?_, here⟩
      exact Std.ExtTreeMap.mem_toList_iff_getElem?_eq_some.mpr
        (getElem?_grouped_empty.mpr ⟨rfl, List.ne_nil_of_mem here⟩)

end Grouping

end Dnfs
