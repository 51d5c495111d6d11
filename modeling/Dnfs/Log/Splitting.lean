import Dnfs.Log.Strings

/-! Whether splitting a string leaves the pieces between its separators. -/

namespace Dnfs

section Pushing

/-- The loop of `split_str` with the vector it pushes to, if it ends within so many steps. -/
def splitPush (split : Text) : Nat → Text → List Text → Option (List Text)
  | 0, _, _ => none
  | steps + 1, strs, result =>
    match find split strs with
    | none => some result
    | some pos =>
      let temp := strs.take pos
      splitPush split steps (strs.drop (pos + split.length))
        (if temp = [] then result else result ++ [temp])

/-- `split_str` with the vector it pushes to. -/
def splitStrInto (str split : Text) (result : List Text) : Option (List Text) :=
  if str = [] then some result
  else splitPush split ((str ++ split).length + 1) (str ++ split) result

variable {split : Text}

/-- The loop ends, and pushes one piece after the other. -/
theorem splitPush_eq (nonempty : split ≠ []) {steps : Nat} {strs : Text}
    (enough : strs.length ≤ steps) (result : List Text) :
    splitPush split (steps + 1) strs result = some (result ++ splitLoop split steps strs) := by
  -- Every step cuts off the separator at least, so what is left needs one step less.
  have positive := List.length_pos_iff.mpr nonempty
  induction steps generalizing strs result with
  | zero =>
    obtain rfl : strs = [] := List.length_eq_zero_iff.mp (by omega)
    rw [splitPush, find_nil nonempty, splitLoop, List.append_nil]
  | succ steps ih =>
    rw [splitPush, splitLoop]
    cases found : find split strs with
    | none => rw [List.append_nil]
    | some pos =>
      obtain ⟨within, _⟩ := find_some found
      dsimp only
      rw [ih (by rw [List.length_drop]; omega)]
      split
      · rfl
      · rw [List.append_assoc, List.singleton_append]

/-- What is pushed are the pieces. -/
theorem splitStrInto_eq (nonempty : split ≠ []) (str : Text) (result : List Text) :
    splitStrInto str split result = some (result ++ splitStr str split) := by
  rw [splitStrInto, splitStr]
  split
  · rw [List.append_nil]
  · exact splitPush_eq nonempty le_rfl result

end Pushing

section Pieces

/-- The pieces of a string between the separators, of which each is the first behind the last. -/
inductive SplitsInto (split : Text) : Text → List Text → Prop where
  | last {str : Text} (absent : ¬split <:+: str) : SplitsInto split str [str]
  | next {before rest : Text} {pieces : List Text}
      (first : ∀ j < before.length, ¬split <+: (before ++ (split ++ rest)).drop j)
      (into : SplitsInto split rest pieces) :
      SplitsInto split (before ++ (split ++ rest)) (before :: pieces)

variable {split str before rest : Text} {pieces : List Text}

/-- There is always a piece. -/
theorem SplitsInto.ne_nil (into : SplitsInto split str pieces) : pieces ≠ [] := by
  cases into with
  | last | next => exact List.cons_ne_nil _ _

/-- A separator that is the first one is found, also if the string goes on. -/
theorem find_first_separator
    (first : ∀ j < before.length, ¬split <+: (before ++ (split ++ rest)).drop j) (more : Text) :
    find split (before ++ (split ++ rest) ++ more) = some before.length := by
  refine find_eq_some_iff.mpr ⟨?_, ?_, fun j earlier stands => first j earlier ?_⟩
  · simp only [List.length_append]
    omega
  · rw [List.append_assoc, List.drop_left, List.append_assoc]
    exact List.prefix_append split _
  · -- What begins in front of the separator ends within the string.
    have within : j ≤ (before ++ (split ++ rest)).length := by
      simp only [List.length_append]
      omega
    rw [List.drop_append_of_le_length within] at stands
    refine List.prefix_of_prefix_length_le stands (List.prefix_append _ more) ?_
    simp only [List.length_drop, List.length_append]
    omega

/-- Every string has pieces. -/
theorem exists_splitsInto (nonempty : split ≠ []) (str : Text) :
    ∃ pieces, SplitsInto split str pieces := by
  -- What is left behind a separator is shorter.
  induction length : str.length using Nat.strong_induction_on generalizing str with
  | _ length ih =>
    subst length
    cases found : find split str with
    | none => exact ⟨[str], .last (find_eq_none_iff.mp found)⟩
    | some pos =>
      obtain ⟨within, ⟨rest, whole⟩, first⟩ := find_eq_some_iff.mp found
      have parts : str = str.take pos ++ (split ++ rest) := by
        rw [whole, List.take_append_drop]
      have taken : (str.take pos).length = pos := by
        rw [List.length_take]
        omega
      have shorter : rest.length < str.length := by
        have positive := List.length_pos_iff.mpr nonempty
        rw [parts]
        simp only [List.length_append]
        omega
      obtain ⟨pieces, into⟩ := ih rest.length shorter rest rfl
      refine ⟨str.take pos :: pieces, ?_⟩
      have earliest : ∀ j < (str.take pos).length,
          ¬split <+: (str.take pos ++ (split ++ rest)).drop j := by
        intro j earlier
        rw [← parts]
        exact first j (taken ▸ earlier)
      have next := SplitsInto.next earliest into
      rw [← parts] at next
      exact next

/-- Without a separator, a string is its one piece. -/
theorem SplitsInto.of_absent (into : SplitsInto split str pieces) (absent : ¬split <:+: str) :
    pieces = [str] := by
  cases into with
  | last => rfl
  | @next before rest =>
    exact absurd ⟨before, rest, List.append_assoc before split rest⟩ absent

/-- Behind the first separator, a string has its other pieces. -/
theorem SplitsInto.of_first (into : SplitsInto split str pieces) {pos : Nat}
    (found : find split str = some pos) :
    ∃ others, pieces = str.take pos :: others ∧
      SplitsInto split (str.drop (pos + split.length)) others := by
  cases into with
  | last absent => rw [find_eq_none_iff.mpr absent] at found; cases found
  | @next before rest others first into =>
    have here := find_first_separator first []
    rw [List.append_nil] at here
    obtain rfl : before.length = pos := Option.some.inj (here.symm.trans found)
    refine ⟨others, by rw [List.take_left], ?_⟩
    rw [← List.drop_drop, List.drop_left, List.drop_left]
    exact into

/-- A string has no other pieces. -/
theorem SplitsInto.unique (into : SplitsInto split str pieces) {other : List Text}
    (into' : SplitsInto split str other) : other = pieces := by
  induction into generalizing other with
  | last absent => exact into'.of_absent absent
  | @next before rest pieces first into ih =>
    have here := find_first_separator first []
    rw [List.append_nil] at here
    obtain ⟨others, rfl, later⟩ := into'.of_first here
    rw [← List.drop_drop, List.drop_left, List.drop_left] at later
    rw [List.take_left, ih later]

/-- Joined with the separator, the pieces are the string. -/
theorem SplitsInto.intercalate (into : SplitsInto split str pieces) :
    split.intercalate pieces = str := by
  induction into with
  | last => rw [List.intercalate_singleton]
  | @next before rest pieces first into ih =>
    obtain ⟨piece, others, rfl⟩ := List.exists_cons_of_ne_nil into.ne_nil
    rw [List.intercalate_cons_cons, ih, List.append_assoc]

end Pieces

section Loop

variable {split str : Text} {pieces result : List Text} {steps : Nat}

/-- What is too short holds no separator, and ends the loop. -/
theorem splitPush_short (short : str.length < split.length) (result : List Text) :
    splitPush split (steps + 1) str result = some result := by
  have absent : ¬split <:+: str := fun there => by
    have length := there.length_le
    omega
  rw [splitPush, find_eq_none_iff.mpr absent]

/-- The last piece is cut off at the first place where the added separator lets one begin. -/
theorem splitPush_last (absent : ¬split <:+: str) (steps : Nat) (result : List Text) :
    ∃ pos, find split (str ++ split) = some pos ∧ pos ≤ str.length ∧
      splitPush split (steps + 2) (str ++ split) result
        = some (result ++ [str.take pos].filter (· ≠ [])) := by
  cases found : find split (str ++ split) with
  | none => exact absurd (List.suffix_append str split).isInfix (find_eq_none_iff.mp found)
  | some pos =>
    obtain ⟨_, stands, first⟩ := find_eq_some_iff.mp found
    -- The added separator itself is one place.
    have within : pos ≤ str.length := by
      by_contra behind
      exact first str.length (by omega) (by rw [List.drop_left])
    -- A place further in front would leave a separator within the string.
    have inside : str.length < pos + split.length := by
      by_contra ends
      rw [List.drop_append_of_le_length within] at stands
      have part := List.prefix_of_prefix_length_le stands (List.prefix_append _ split)
        (by rw [List.length_drop]; omega)
      exact absent (part.isInfix.trans (List.drop_suffix pos str).isInfix)
    refine ⟨pos, rfl, within, ?_⟩
    rw [splitPush, found]
    dsimp only
    rw [splitPush_short (by simp only [List.length_drop, List.length_append]; omega),
      List.take_append_of_le_length within]
    generalize str.take pos = piece
    by_cases empty : piece = []
    · rw [if_pos empty, List.filter_cons_of_neg (by simpa using empty), List.filter_nil,
        List.append_nil]
    · rw [if_neg empty, List.filter_cons_of_pos (by simpa using empty), List.filter_nil]

/-- The loop pushes the pieces that are not empty, unless the last one is cut off early. -/
theorem SplitsInto.splitPush (into : SplitsInto split str pieces) (nonempty : split ≠ [])
    (enough : (str ++ split).length < steps) (result : List Text) :
    ∃ pushed, Dnfs.splitPush split steps (str ++ split) result = some (result ++ pushed) ∧
      (pushed = pieces.filter (· ≠ []) ↔
        find split (pieces.getLastD [] ++ split) = some (pieces.getLastD []).length) := by
  have positive := List.length_pos_iff.mpr nonempty
  induction into generalizing steps result with
  | @last str absent =>
    obtain ⟨steps, rfl⟩ : ∃ fewer, steps = fewer + 2 :=
      ⟨steps - 2, by rw [List.length_append] at enough; omega⟩
    obtain ⟨pos, found, within, pushes⟩ := splitPush_last absent steps result
    refine ⟨_, pushes, ?_⟩
    change _ ↔ find split (str ++ split) = some str.length
    rw [found, Option.some_inj]
    constructor
    · intro same
      by_contra early
      have some_ : str ≠ [] := by
        rintro rfl
        exact early (Nat.le_zero.mp within)
      rw [List.filter_cons_of_pos (a := str) (by simpa using some_), List.filter_nil] at same
      -- What is pushed is shorter than the last piece.
      have isPiece : str ∈ [str.take pos].filter (· ≠ []) := by
        rw [same]
        exact List.mem_singleton_self str
      have whole := congrArg List.length (List.mem_singleton.mp (List.mem_of_mem_filter isPiece))
      rw [List.length_take] at whole
      omega
    · rintro rfl
      rw [List.take_length]
  | @next before rest pieces first into ih =>
    obtain ⟨steps, rfl⟩ : ∃ fewer, steps = fewer + 1 := ⟨steps - 1, by omega⟩
    have last : (before :: pieces).getLastD [] = pieces.getLastD [] := by
      obtain ⟨piece, others, rfl⟩ := List.exists_cons_of_ne_nil into.ne_nil
      rfl
    rw [Dnfs.splitPush, find_first_separator first split]
    dsimp only
    rw [last, List.append_assoc, List.take_left, ← List.drop_drop, List.drop_left,
      List.append_assoc, List.drop_left]
    have fewer : (rest ++ split).length < steps := by
      simp only [List.length_append] at enough ⊢
      omega
    by_cases empty : before = []
    · rw [if_pos empty, List.filter_cons_of_neg (by simpa using empty)]
      exact ih fewer result
    · rw [if_neg empty, List.filter_cons_of_pos (by simpa using empty)]
      obtain ⟨pushed, pushes, standard⟩ := ih fewer (result ++ [before])
      refine ⟨before :: pushed, ?_, ?_⟩
      · rw [pushes, List.append_assoc, List.singleton_append]
      · rw [← standard, List.cons_inj_right]

end Loop

/--
Splitting gives the pieces between the separators that are not empty, just if in the last piece with
a separator behind it the first separator is that one.
-/
theorem splitStr_standard_iff (str split : Text) (nonempty : split ≠ []) (result : List Text) :
    splitStrInto str split result = some (result ++ splitStr str split) ∧
    ∃ pieces, SplitsInto split str pieces ∧
      (∀ other, SplitsInto split str other → other = pieces) ∧ split.intercalate pieces = str ∧
      (splitStr str split = pieces.filter (· ≠ []) ↔
        find split (pieces.getLastD [] ++ split) = some (pieces.getLastD []).length) := by
  have done := splitStrInto_eq nonempty str result
  obtain ⟨pieces, into⟩ := exists_splitsInto nonempty str
  refine ⟨done, pieces, into, fun other => into.unique, into.intercalate, ?_⟩
  by_cases empty : str = []
  · -- Nothing is pushed for an empty string, whose one piece is empty.
    have absent : ¬split <:+: str := by
      rw [empty, List.infix_nil]
      exact nonempty
    have found : find split split = some 0 := by
      have front := find_append split []
      rwa [List.append_nil] at front
    rw [into.of_absent absent, empty]
    exact iff_of_true rfl found
  · obtain ⟨pushed, pushes, standard⟩ := into.splitPush nonempty (Nat.lt_succ_self _) result
    rw [splitStrInto, if_neg empty, pushes, Option.some_inj, List.append_right_inj] at done
    rw [← done]
    exact standard

/-- The pieces of a string with two separators in a row, of which one is empty. -/
theorem splitStr_standard_colon :
    SplitsInto ":".toList "a::b".toList ["a".toList, [], "b".toList] ∧
      splitStr "a::b".toList ":".toList =
        ["a".toList, [], "b".toList].filter (· ≠ []) := by
  obtain ⟨-, pieces, -, unique, -, standard⟩ :=
    splitStr_standard_iff "a::b".toList ":".toList (by decide) []
  have into : SplitsInto ":".toList "a::b".toList ["a".toList, [], "b".toList] :=
    @SplitsInto.next _ "a".toList ":b".toList _ (by decide)
      (@SplitsInto.next _ [] "b".toList _ (by decide) (.last (by decide)))
  rw [← unique _ into] at standard
  exact ⟨into, standard.mpr (by decide)⟩

/-- A separator that overlaps itself is found at the end of a string that only begins it. -/
theorem splitStr_standard_fails :
    SplitsInto "aa".toList "xa".toList ["xa".toList] ∧
      splitStrInto "xa".toList "aa".toList [] = some ["x".toList] :=
  ⟨.last (by decide), by decide⟩

end Dnfs
