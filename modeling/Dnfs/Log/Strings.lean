import Mathlib.Data.Nat.Digits.Lemmas

/-! The string functions that the logger uses, of the standard library and of its own. -/

namespace Dnfs

/-- The characters of a string. -/
abbrev Text := List Char

/-- Strings are compared character by character. -/
instance lawfulBEqText : LawfulBEq Text := inferInstance

/-- What the functions of the standard library throw. -/
inductive StdException where
  | outOfRange
  | invalidArgument
  deriving DecidableEq, Repr

section Library

/-- `std::string::find`, which finds the first place where a piece occurs. -/
def find (piece : Text) : Text → Option Nat
  | [] => if piece = [] then some 0 else none
  | c :: rest => if piece <+: c :: rest then some 0 else (find piece rest).map (· + 1)

/-- `std::string::substr`, which throws if it is to begin behind the end. -/
def substr (text : Text) (pos count : Nat) : Except StdException Text :=
  if text.length < pos then .error .outOfRange else .ok ((text.drop pos).take count)

/-- The difference of two sizes, which wraps around below zero. -/
def sizeSub (a b : Nat) : Nat := if b ≤ a then a - b else 2 ^ 64 - (b - a)

/-- `isspace` in the default locale. -/
def isSpace (c : Char) : Bool := c ∈ [' ', '\t', '\n', '\x0b', '\x0c', '\r']

/-- The value of a string of decimal digits. -/
def decimal (digits : Text) : Nat := digits.foldl (fun value c => 10 * value + (c.toNat - 48)) 0

/-- The sign at the beginning of a number, and what follows it. -/
def takeSign : Text → Bool × Text
  | '-' :: rest => (true, rest)
  | '+' :: rest => (false, rest)
  | rest => (false, rest)

/-- Read a decimal number of so many bits from the beginning of a string. -/
def stoBits (bits : Nat) (text : Text) : Except StdException Int :=
  let (negative, rest) := takeSign (text.dropWhile isSpace)
  let digits := rest.takeWhile Char.isDigit
  if digits = [] then .error .invalidArgument
  else
    let value : Int := if negative then -(decimal digits) else decimal digits
    if -2 ^ (bits - 1) ≤ value ∧ value < 2 ^ (bits - 1) then .ok value else .error .outOfRange

/-- `std::stoi` -/
def stoi (text : Text) : Except StdException Int := stoBits 32 text

/-- `std::stoll` -/
def stoll (text : Text) : Except StdException Int := stoBits 64 text

/-- Whether all of a string matches the regular expression of one or more digits. -/
def isNumber (text : Text) : Bool := text ≠ [] && text.all Char.isDigit

/-- A character that may be in a word. -/
def isWord (c : Char) : Bool := c.isAlphanum || c = '_'

/-- Whether all of a string matches `(/[\w]*)*`. -/
def isPath : Text → Bool
  | [] => true
  | c :: rest => c = '/' && rest.all fun c => c = '/' || isWord c

end Library

section Utils

/-- Cut off one piece after the other, in front of the next separator, and leave out empty ones. -/
def splitLoop (split : Text) : Nat → Text → List Text
  | 0, _ => []
  | steps + 1, strs =>
    match find split strs with
    | none => []
    | some pos =>
      let temp := strs.take pos
      let rest := splitLoop split steps (strs.drop (pos + split.length))
      if temp = [] then rest else temp :: rest

/-- The pieces of a string between separators. -/
def splitStr (str split : Text) : List Text :=
  -- A separator at the end makes the last piece one like the others.
  if str = [] then [] else splitLoop split (str ++ split).length (str ++ split)

def toLower (str : Text) : Text := str.map Char.toLower

def toUpper (str : Text) : Text := str.map Char.toUpper

end Utils

section Finding

variable {piece text : Text}

/-- A piece that is not empty does not occur in an empty string. -/
theorem find_nil (nonempty : piece ≠ []) : find piece [] = none := if_neg nonempty

/-- A piece is found at the beginning, if it is there. -/
theorem find_append (piece rest : Text) : find piece (piece ++ rest) = some 0 := by
  -- The test at the first character succeeds, and an empty piece is everywhere.
  cases piece with
  | nil => cases rest <;> simp [find]
  | cons c piece => exact if_pos (List.prefix_append (c :: piece) rest)

/-- Where a piece is found, it stands. -/
theorem find_some {pos : Nat} (found : find piece text = some pos) :
    pos + piece.length ≤ text.length ∧ (text.drop pos).take piece.length = piece := by
  -- The induction follows the search, which counts the characters it has passed.
  induction text generalizing pos with
  | nil =>
    rw [find] at found
    split at found
    · next empty =>
      cases found
      simp [empty]
    · cases found
  | cons c rest ih =>
    rw [find] at found
    split at found
    · next here =>
      cases found
      obtain ⟨after, whole⟩ := here
      rw [← whole]
      simp
    · obtain ⟨later, foundLater, rfl⟩ := Option.map_eq_some_iff.mp found
      obtain ⟨within, stands⟩ := ih foundLater
      refine ⟨?_, stands⟩
      rw [List.length_cons]
      omega

/-- The place where a piece is found is the first one where it stands. -/
theorem find_eq_some_iff {pos : Nat} :
    find piece text = some pos ↔
      pos ≤ text.length ∧ piece <+: text.drop pos ∧ ∀ j < pos, ¬piece <+: text.drop j := by
  induction text generalizing pos with
  | nil =>
    rw [find]
    by_cases empty : piece = []
    · rw [if_pos empty]
      constructor
      · rintro ⟨⟩
        exact ⟨le_rfl, empty ▸ List.nil_prefix, fun j before => absurd before (by omega)⟩
      · rintro ⟨within, _, _⟩
        rw [List.length_nil, Nat.le_zero] at within
        rw [within]
    · rw [if_neg empty]
      refine iff_of_false nofun fun stands => empty ?_
      rw [List.drop_nil] at stands
      exact List.prefix_nil.mp stands.2.1
  | cons c rest ih =>
    rw [find]
    by_cases here : piece <+: c :: rest
    · rw [if_pos here]
      constructor
      · rintro ⟨⟩
        exact ⟨Nat.zero_le _, here, fun j before => absurd before (by omega)⟩
      · rintro ⟨_, _, first⟩
        -- Behind the beginning it would not be the first place.
        by_contra later
        exact first 0 (Nat.pos_of_ne_zero fun zero => later (by rw [zero])) here
    · rw [if_neg here]
      cases pos with
      | zero =>
        refine iff_of_false (fun found => ?_) fun stands => here stands.2.1
        obtain ⟨_, _, impossible⟩ := Option.map_eq_some_iff.mp found
        cases impossible
      | succ pos =>
        have shift : Option.map (· + 1) (find piece rest) = some (pos + 1)
            ↔ find piece rest = some pos := by
          simp
        rw [shift, ih, List.length_cons, Nat.add_le_add_iff_right]
        refine and_congr_right fun _ => and_congr_right fun _ => ?_
        constructor
        · intro first j before
          cases j with
          | zero => exact here
          | succ j => exact first j (by omega)
        · exact fun first j before => first (j + 1) (by omega)

/-- A piece is not found if it stands nowhere. -/
theorem find_eq_none_iff : find piece text = none ↔ ¬piece <:+: text := by
  induction text with
  | nil =>
    rw [find, List.infix_nil]
    split
    · next empty => exact iff_of_false nofun (not_not.mpr empty)
    · next nonempty => exact iff_of_true rfl nonempty
  | cons c rest ih =>
    rw [find, List.infix_cons_iff, not_or]
    split
    · next here => exact iff_of_false nofun fun nowhere => nowhere.1 here
    · next absent => rw [Option.map_eq_none_iff, ih, and_iff_right absent]

/-- A single character is found where it stands first. -/
theorem find_first {c : Char} {before : Text} (first : c ∉ before) (rest : Text) :
    find [c] (before ++ c :: rest) = some before.length := by
  induction before with
  | nil => exact find_append [c] rest
  | cons d before ih =>
    obtain ⟨differs, later⟩ := List.ne_and_not_mem_of_not_mem_cons first
    have notHere : ¬[c] <+: d :: (before ++ c :: rest) := by
      rw [List.cons_prefix_cons]
      exact fun here => differs here.1
    rw [List.cons_append, find, if_neg notHere, ih later]
    rfl

/-- With a separator of one character, the pieces are those that are not empty. -/
theorem splitLoop_eq_filter (c : Char) {steps : Nat} (enough : text.length < steps) :
    splitLoop [c] steps (text ++ [c]) = (text.splitOn c).filter (· ≠ []) := by
  induction steps generalizing text with
  | zero => omega
  | succ steps ih =>
    by_cases mem : c ∈ text
    · -- The first piece ends at the first separator.
      obtain ⟨piece, rest, rfl, first⟩ := List.eq_append_cons_of_mem mem
      have shorter : rest.length < steps := by
        rw [List.length_append, List.length_cons] at enough
        omega
      rw [List.splitOn_append_cons_self_of_not_mem first, splitLoop, List.append_assoc,
        List.cons_append, find_first first]
      dsimp only
      rw [List.take_left, List.length_singleton, ← List.drop_drop, List.drop_left,
        List.drop_one, List.tail_cons, ih shorter]
      by_cases empty : piece = []
      · rw [if_pos empty, List.filter_cons_of_neg (by simpa using empty)]
      · rw [if_neg empty, List.filter_cons_of_pos (by simpa using empty)]
    · -- Only the separator that was added is left.
      rw [List.splitOn_eq_singleton mem, splitLoop, find_first mem]
      dsimp only
      rw [List.take_left, List.length_singleton, ← List.drop_drop, List.drop_left]
      have none_ : splitLoop [c] steps (List.drop 1 [c]) = [] := by
        cases steps with
        | zero => rfl
        | succ steps => rfl
      rw [none_]
      by_cases empty : text = []
      · rw [if_pos empty, List.filter_cons_of_neg (by simpa using empty), List.filter_nil]
      · rw [if_neg empty, List.filter_cons_of_pos (by simpa using empty), List.filter_nil]

/-- The same for the whole function. -/
theorem splitStr_eq_filter (c : Char) (str : Text) :
    splitStr str [c] = (str.splitOn c).filter (· ≠ []) := by
  rw [splitStr]
  split
  · next empty =>
    rw [empty]
    rfl
  · exact splitLoop_eq_filter c (by rw [List.length_append, List.length_singleton]; omega)

/-- A character that does not separate is in some piece. -/
theorem exists_piece {c d : Char} (mem : d ∈ text) (differs : d ≠ c) :
    ∃ piece ∈ splitStr text [c], d ∈ piece := by
  suffices part : ∃ part ∈ text.splitOn c, d ∈ part by
    obtain ⟨part, isPart, inPart⟩ := part
    refine ⟨part, ?_, inPart⟩
    rw [splitStr_eq_filter]
    exact List.mem_filter.mpr ⟨isPart, by simpa using List.ne_nil_of_mem inPart⟩
  induction text with
  | nil => cases mem
  | cons e text ih =>
    rw [List.splitOn_cons_eq_if_modifyHead]
    obtain ⟨first, others, isCons⟩ := List.exists_cons_of_ne_nil (List.splitOn_ne_nil c text)
    -- A separator begins a new piece, and anything else joins the first one.
    by_cases separates : (e == c) = true
    · rw [if_pos separates]
      have later : d ∈ text := by
        rcases List.mem_cons.mp mem with rfl | later
        · exact absurd (eq_of_beq separates) differs
        · exact later
      obtain ⟨part, isPart, inPart⟩ := ih later
      exact ⟨part, List.mem_cons_of_mem [] isPart, inPart⟩
    · rw [if_neg separates, isCons, List.modifyHead_cons]
      rcases List.mem_cons.mp mem with rfl | later
      · exact ⟨d :: first, List.mem_cons_self, List.mem_cons_self⟩
      · obtain ⟨part, isPart, inPart⟩ := ih later
        rw [isCons] at isPart
        rcases List.mem_cons.mp isPart with rfl | isOther
        · exact ⟨e :: part, List.mem_cons_self, List.mem_cons_of_mem e inPart⟩
        · exact ⟨part, List.mem_cons_of_mem _ isOther, inPart⟩

/-- The pieces in front of a separator and behind it. -/
theorem splitStr_append (c : Char) (before after : Text) :
    splitStr (before ++ c :: after) [c] = splitStr before [c] ++ splitStr after [c] := by
  rw [splitStr_eq_filter, splitStr_eq_filter, splitStr_eq_filter, List.splitOn_append_cons_self,
    List.filter_append]

/-- What has no separator is one piece, if it is not empty. -/
theorem splitStr_single {c : Char} (nonempty : text ≠ []) (absent : c ∉ text) :
    splitStr text [c] = [text] := by
  rw [splitStr_eq_filter, List.splitOn_eq_singleton absent,
    List.filter_cons_of_pos (by simpa using nonempty), List.filter_nil]

end Finding

end Dnfs
