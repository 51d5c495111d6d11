import Dnfs.Log.FileNumber
import Mathlib.Data.List.TakeWhile

/-! When the next number is greater than that of every log file that was cut off before. -/

namespace Dnfs

section Digits

/-- A digit is what it is written as. -/
theorem digit_char {d : Nat} (small : d < 10) :
    (Char.ofNat (48 + d)).isDigit = true ∧ digitValue (Char.ofNat (48 + d)) = some d ∧
      isDigitOf 10 (Char.ofNat (48 + d)) = true ∧ isSpace (Char.ofNat (48 + d)) = false := by
  -- Ten characters, each checked by itself.
  have each : ∀ d : Fin 10, (Char.ofNat (48 + d.val)).isDigit = true ∧
      digitValue (Char.ofNat (48 + d.val)) = some d.val ∧
      isDigitOf 10 (Char.ofNat (48 + d.val)) = true ∧
      isSpace (Char.ofNat (48 + d.val)) = false := by decide
  exact each ⟨d, small⟩

/-- A number is written in digits, of which there is at least one. -/
theorem natText_digits (n : Nat) :
    natText n ≠ [] ∧ ∀ c ∈ natText n, ∃ d < 10, c = Char.ofNat (48 + d) := by
  rw [natText]
  split
  · exact ⟨by simp, fun c mem => ⟨0, by decide, List.mem_singleton.mp mem⟩⟩
  · next positive =>
    refine ⟨by simpa using Nat.digits_ne_nil_iff_ne_zero.mpr positive, fun c mem => ?_⟩
    obtain ⟨d, within, rfl⟩ := List.mem_map.mp mem
    exact ⟨d, Nat.digits_lt_base (by decide) (List.mem_reverse.mp within), rfl⟩

/-- A number is written in digits. -/
theorem natText_isDigit {n : Nat} {c : Char} (mem : c ∈ natText n) : c.isDigit = true := by
  obtain ⟨d, small, rfl⟩ := (natText_digits n).2 c mem
  exact (digit_char small).1

/-- Reading the digits of a number gives the number. -/
theorem foldl_natText (n : Nat) :
    (natText n).foldl (fun value c => 10 * value + (digitValue c).getD 0) 0 = n := by
  rw [natText]
  split
  · next zero => rw [zero]; rfl
  · -- The fold from the left over the reversed digits is one from the right over them.
    rw [List.foldl_map, List.foldl_reverse]
    have values : ∀ digits : List Nat, (∀ d ∈ digits, d < 10) →
        digits.foldr (fun d value => 10 * value + (digitValue (Char.ofNat (48 + d))).getD 0) 0
          = Nat.ofDigits 10 digits := by
      intro digits small
      induction digits with
      | nil => rfl
      | cons d digits ih =>
        obtain ⟨here, later⟩ := List.forall_mem_cons.mp small
        rw [List.foldr_cons, ih later, (digit_char here).2.1, Nat.ofDigits_cons]
        rw [Option.getD_some]
        exact Nat.add_comm _ _
    rw [values _ fun d mem => Nat.digits_lt_base (by decide) mem, Nat.ofDigits_digits]

/-- Different numbers are written differently. -/
theorem natText_injective {m n : Nat} (same : natText m = natText n) : m = n := by
  rw [← foldl_natText m, same, foldl_natText]

/-- A number that is not zero is not taken for an octal one. -/
theorem takeBase_natText {n : Nat} (positive : n ≠ 0) : takeBase (natText n) = (10, natText n) := by
  have head : ∀ rest, natText n ≠ '0' :: rest := by
    intro rest same
    -- The first digit is the last one of the list of digits, which is not zero.
    rw [natText, if_neg positive] at same
    have nonempty : Nat.digits 10 n ≠ [] := Nat.digits_ne_nil_iff_ne_zero.mpr positive
    have first : ((Nat.digits 10 n).reverse.map fun d => Char.ofNat (48 + d)).head? = some '0' := by
      rw [same]
      rfl
    rw [List.head?_map, List.head?_reverse, List.getLast?_eq_getLast_of_ne_nil nonempty] at first
    obtain ⟨d, isLast, zero⟩ := Option.map_eq_some_iff.mp first
    have notZero := Nat.getLast_digit_ne_zero 10 positive
    rw [Option.some.inj isLast] at notZero
    have small : d < 10 := by
      rw [← Option.some.inj isLast]
      exact Nat.digits_lt_base (by decide) (List.getLast_mem nonempty)
    have value := (digit_char small).2.1
    rw [zero] at value
    exact notZero (Option.some.inj value).symm
  rw [takeBase.eq_def]
  split
  · next x d rest same => exact absurd same (head _)
  · next rest _ same => exact absurd same (head _)
  · rfl

/-- `strtol` reads back what was written, up to the greatest long integer. -/
theorem strtol_natText (n : Nat) : strtol (natText n) = min (n : Int) (2 ^ 63 - 1) := by
  obtain ⟨nonempty, digits⟩ := natText_digits n
  obtain ⟨c, rest, same⟩ := List.exists_cons_of_ne_nil nonempty
  obtain ⟨d, small, isDigit⟩ := digits c (by simp [same])
  have all : (natText n).takeWhile (isDigitOf 10) = natText n := by
    refine List.takeWhile_eq_self_iff.mpr fun c mem => ?_
    obtain ⟨d, small, rfl⟩ := digits c mem
    exact (digit_char small).2.2.1
  -- Nothing is skipped, and there is no sign.
  have unsigned : takeSign ((natText n).dropWhile isSpace) = (false, natText n) := by
    rw [same, List.dropWhile_cons_of_neg (by simp [isDigit, (digit_char small).2.2.2]), isDigit,
      takeSign.eq_def]
    have signs : ∀ d : Fin 10, Char.ofNat (48 + d.val) ≠ '-' ∧ Char.ofNat (48 + d.val) ≠ '+' := by
      decide
    split
    · next eq => exact absurd (List.cons.inj eq).1 (signs ⟨d, small⟩).1
    · next eq => exact absurd (List.cons.inj eq).1 (signs ⟨d, small⟩).2
    · rfl
  rw [strtol, unsigned]
  by_cases zero : n = 0
  · subst zero
    rfl
  · dsimp only
    rw [takeBase_natText zero]
    dsimp only
    rw [all, foldl_natText]
    rfl

end Digits

section Matching

variable {name text found rest : Text}

/-- A character of a name matches itself. -/
theorem accepts_self (c : Char) : accepts c c = true := by
  rw [accepts]
  split
  · next dot => rw [dot]; rfl
  · exact decide_eq_true rfl

/-- A name matches itself, and what is behind it is left over. -/
theorem matchChars_self (name after : Text) : matchChars name (name ++ after) = some after := by
  induction name with
  | nil => rfl
  | cons c name ih => rw [List.cons_append, matchChars, if_pos (accepts_self c), ih]

/-- What matches is as long as the pattern. -/
theorem matchChars_some (done : matchChars name text = some rest) :
    ∃ before, text = before ++ rest ∧ before.length = name.length := by
  induction name generalizing text with
  | nil =>
    cases done
    exact ⟨[], rfl, rfl⟩
  | cons p name ih =>
    cases text with
    | nil => cases done
    | cons c text =>
      rw [matchChars] at done
      split at done
      · obtain ⟨before, whole, length⟩ := ih done
        exact ⟨c :: before, by rw [whole, List.cons_append], by simp [length]⟩
      · cases done

/-- A match is not empty, and stands in front of what is left. -/
theorem matchHere_some (done : matchHere name text = some (found, rest)) :
    text = found ++ rest ∧ found ≠ [] := by
  rw [matchHere] at done
  split at done
  · cases done
  next after matched =>
  dsimp only at done
  split at done
  · cases done
  next some_ =>
  obtain ⟨before, whole, length⟩ := matchChars_some matched
  -- The digits follow what the name and the dot have matched.
  have taken : text.take (name.length + 1 + (after.takeWhile Char.isDigit).length)
      = before ++ after.takeWhile Char.isDigit := by
    rw [whole, ← List.takeWhile_append_dropWhile (p := Char.isDigit) (l := after),
      ← List.append_assoc, List.takeWhile_append_dropWhile]
    exact List.take_left' (by simp [length])
  cases done
  rw [taken, List.append_assoc, List.takeWhile_append_dropWhile]
  exact ⟨whole, by simp [some_]⟩

end Matching

section Entries

variable {name found rest after : Text}

/-- An entry of the name is matched as a whole. -/
theorem matchHere_entry (name : Text) (n : Nat) (ends : ∀ c ∈ after.head?, c.isDigit = false) :
    matchHere name (name ++ '.' :: (natText n ++ after))
      = some (name ++ '.' :: natText n, after) := by
  have regroup : ∀ rest : Text, name ++ '.' :: rest = name ++ ['.'] ++ rest :=
    fun rest => List.append_cons name '.' rest
  -- The name and its dot match first, then as many digits as there are.
  have matched : matchChars (name ++ ['.']) (name ++ '.' :: (natText n ++ after))
      = some (natText n ++ after) := by
    rw [regroup (natText n ++ after), matchChars_self]
  have digits : (natText n ++ after).takeWhile Char.isDigit = natText n := by
    rw [List.takeWhile_append_of_pos fun c mem => natText_isDigit mem]
    cases after with
    | nil => simp
    | cons c after => rw [List.takeWhile_cons_of_neg (by simpa using ends c rfl), List.append_nil]
  have left : (natText n ++ after).dropWhile Char.isDigit = after := by
    have parts := List.takeWhile_append_dropWhile (p := Char.isDigit) (l := natText n ++ after)
    rw [digits] at parts
    exact List.append_cancel_left parts
  have length : name.length + 1 + (natText n).length = (name ++ ['.'] ++ natText n).length := by
    simp only [List.length_append, List.length_singleton]
  rw [matchHere, matched]
  dsimp only
  rw [digits, left, if_neg (natText_digits n).1, regroup (natText n ++ after),
    regroup (natText n), ← List.append_assoc, length, List.take_left]

/-- What is found ends before an entry of the name, takes in the colon there, or is the entry. -/
theorem searchNumber_entry (before : Text) (n : Nat) (entry : Text)
    (is : entry = ':' :: (name ++ '.' :: (natText n ++ after)))
    (ends : ∀ c ∈ after.head?, c.isDigit = false) :
    ∃ found rest, searchNumber name (before ++ entry) = some (found, rest) ∧
      ((∃ left, rest = left ++ entry ∧ left.length < before.length) ∨
        (rest.length < entry.length ∧ entry.length ≤ found.length + rest.length) ∨
        (found = name ++ '.' :: natText n ∧ rest = after)) := by
  induction before with
  | nil =>
    rw [List.nil_append, is, searchNumber]
    cases done : matchHere name (':' :: (name ++ '.' :: (natText n ++ after))) with
    | some pair =>
      -- A match that begins with the colon takes it in.
      obtain ⟨whole, some_⟩ := matchHere_some done
      have positive := List.length_pos_iff.mpr some_
      have lengths := congrArg List.length whole
      rw [List.length_append] at lengths
      exact ⟨pair.1, pair.2, rfl, .inr (.inl ⟨by omega, by omega⟩)⟩
    | none =>
      obtain ⟨c, rest, isCons⟩ := List.exists_cons_of_ne_nil
        (List.append_ne_nil_of_right_ne_nil name (List.cons_ne_nil '.' (natText n ++ after)))
      have entry := matchHere_entry name n ends
      dsimp only
      rw [isCons] at entry ⊢
      rw [searchNumber, entry]
      exact ⟨_, _, rfl, .inr (.inr ⟨rfl, rfl⟩)⟩
  | cons c before ih =>
    rw [List.cons_append, searchNumber]
    cases done : matchHere name (c :: (before ++ entry)) with
    | none =>
      obtain ⟨found, rest, finds, cases_⟩ := ih
      refine ⟨found, rest, finds, cases_.imp_left fun ⟨left, behind, shorter⟩ => ?_⟩
      exact ⟨left, behind, Nat.lt_succ_of_lt shorter⟩
    | some pair =>
      obtain ⟨found, rest⟩ := pair
      obtain ⟨whole, some_⟩ := matchHere_some done
      have positive := List.length_pos_iff.mpr some_
      have lengths := congrArg List.length whole
      simp only [List.length_cons, List.length_append] at lengths
      refine ⟨found, rest, rfl, ?_⟩
      rcases Nat.lt_or_ge rest.length entry.length with into | behind
      · exact .inr (.inl ⟨into, by omega⟩)
      · -- What is left and the entry are ends of one text.
        have isEnd : entry <:+ found ++ rest := ⟨c :: before, by rw [← whole, List.cons_append]⟩
        obtain ⟨left, isLeft⟩ :=
          List.suffix_of_suffix_length_le isEnd (List.suffix_append found rest) behind
        have parts := congrArg List.length isLeft
        rw [List.length_append] at parts
        exact .inl ⟨left, isLeft.symm, by rw [List.length_cons]; omega⟩

/-- A text that begins like itself behind some characters consists of such characters. -/
theorem all_of_prefix {p : Char → Bool} {repeated text : Text} (some_ : repeated ≠ [])
    (all : ∀ c ∈ repeated, p c = true) (is : text <+: repeated ++ text) :
    ∀ c ∈ text, p c = true := by
  -- The text is a part of what is repeated, or begins with it and goes on in the same way.
  induction count : text.length using Nat.strong_induction_on generalizing text with
  | _ length ih =>
    rcases Nat.le_total text.length repeated.length with short | long
    · have part : text <+: repeated :=
        List.prefix_of_prefix_length_le is (List.prefix_append repeated text) short
      exact fun c mem => all c (part.subset mem)
    · obtain ⟨tail, rfl⟩ :=
        List.prefix_of_prefix_length_le (List.prefix_append repeated text) is long
      have shorter : tail.length < length := by
        have positive := List.length_pos_iff.mpr some_
        rw [← count, List.length_append]
        omega
      have tail_ := ih tail.length shorter ((List.prefix_append_right_inj repeated).mp is) rfl
      exact fun c mem => (List.mem_append.mp mem).elim (all c) (tail_ c)

/-- The name is found behind the digits, and not earlier. -/
theorem find_behind {digits : Text} (all : ∀ c ∈ digits, c.isDigit = true) :
    find (name ++ ['.']) (digits ++ (name ++ ['.'])) = some digits.length := by
  induction digits with
  | nil => simpa using find_append (name ++ ['.']) []
  | cons d digits ih =>
    have rest := ih fun c mem => all c (List.mem_cons_of_mem d mem)
    have later : ¬ name ++ ['.'] <+: d :: (digits ++ (name ++ ['.'])) := by
      intro is
      have dot := all_of_prefix (List.cons_ne_nil d digits) all is '.' (by simp)
      exact absurd dot (by decide)
    rw [List.cons_append, find, if_neg later, rest]
    rfl

/-- An entry of the name is read as its number, as far as that fits. -/
theorem readNumber_entry (name : Text) (n : Nat) :
    readNumber name (name ++ '.' :: natText n) = min (n : Int) (2 ^ 63 - 1) := by
  have nonempty : name ++ '.' :: natText n ≠ [] := by simp
  have shape : name ++ '.' :: natText n ++ (name ++ ['.'])
      = name ++ ['.'] ++ (natText n ++ (name ++ ['.'])) := by simp
  obtain ⟨steps, enough⟩ : ∃ steps,
      (name ++ ['.'] ++ (natText n ++ (name ++ ['.']))).length = steps + 1 + 1 :=
    ⟨name.length + (natText n).length + name.length, by simp; omega⟩
  rw [readNumber, splitStr, if_neg nonempty, shape, enough, splitLoop, find_append]
  dsimp only
  -- The first piece is empty, and the second one is the number.
  rw [List.take_zero, if_pos rfl, Nat.zero_add, List.drop_left, splitLoop,
    find_behind fun c mem => natText_isDigit mem]
  dsimp only
  rw [List.take_left, if_neg (natText_digits n).1, List.headD_cons, strtol_natText]

end Entries

section Greatest

variable {name text before after : Text} {steps : Nat} {start : Int}

/-- What the search finds one after the other, each with what is left behind it. -/
def foundNumbers (name : Text) : Nat → Text → List (Text × Text)
  | 0, _ => []
  | steps + 1, text =>
    match searchNumber name text with
    | none => []
    | some (found, rest) => (found, rest) :: foundNumbers name steps rest

/-- The greatest number is the first one or one that was found, and not below any of them. -/
theorem greatestNumber_spec (name : Text) (steps : Nat) (start : Int) (text : Text) :
    start ≤ greatestNumber name steps start text ∧
    (∀ pair ∈ foundNumbers name steps text,
      readNumber name pair.1 ≤ greatestNumber name steps start text) ∧
    (greatestNumber name steps start text = start ∨
      ∃ pair ∈ foundNumbers name steps text,
        greatestNumber name steps start text = readNumber name pair.1) := by
  induction steps generalizing start text with
  | zero => exact ⟨le_rfl, by simp [foundNumbers], .inl rfl⟩
  | succ steps ih =>
    rw [greatestNumber, foundNumbers]
    cases searchNumber name text with
    | none => exact ⟨le_rfl, by simp, .inl rfl⟩
    | some pair =>
      obtain ⟨found, rest⟩ := pair
      -- The loop goes on from the greater of both numbers.
      obtain ⟨least, all, reached⟩ :=
        ih (if readNumber name found > start then readNumber name found else start) rest
      have both : start ≤ _ ∧ readNumber name found ≤ _ :=
        ⟨le_trans (by split <;> omega) least, le_trans (by split <;> omega) least⟩
      dsimp only
      refine ⟨both.1, List.forall_mem_cons.mpr ⟨both.2, all⟩, ?_⟩
      rcases reached with first | ⟨other, within, same⟩
      · rw [first]
        split
        · exact .inr ⟨_, List.mem_cons_self, rfl⟩
        · exact .inl rfl
      · exact .inr ⟨other, List.mem_cons_of_mem _ within, same⟩

/-- An entry of the name is found, unless something that is found takes in the colon before it. -/
theorem entry_mem_foundNumbers (n : Nat) (entry : Text)
    (is : entry = ':' :: (name ++ '.' :: (natText n ++ after)))
    (ends : ∀ c ∈ after.head?, c.isDigit = false) (enough : (before ++ entry).length ≤ steps)
    (whole : ∀ pair ∈ foundNumbers name steps (before ++ entry),
      ¬(pair.2.length < entry.length ∧ entry.length ≤ pair.1.length + pair.2.length)) :
    (name ++ '.' :: natText n, after) ∈ foundNumbers name steps (before ++ entry) := by
  induction steps generalizing before with
  | zero =>
    rw [List.length_append, is, List.length_cons] at enough
    omega
  | succ steps ih =>
    obtain ⟨found, rest, finds, cases_⟩ := searchNumber_entry before n entry is ends
    rw [foundNumbers, finds] at whole ⊢
    rcases cases_ with ⟨left, rfl, shorter⟩ | into | ⟨rfl, rfl⟩
    · -- The entry is left for later.
      rw [List.length_append] at enough
      refine List.mem_cons_of_mem _ (ih (by rw [List.length_append]; omega) ?_)
      exact fun pair within => whole pair (List.mem_cons_of_mem _ within)
    · exact absurd into (whole (found, rest) List.mem_cons_self)
    · exact List.mem_cons_self

end Greatest

section Numbering

variable {files : List Text} {name file : Text}

/-- What is read fits into a long integer. -/
theorem readNumber_le (name found : Text) : readNumber name found ≤ 2 ^ 63 - 1 := by
  rw [readNumber, strtol]
  dsimp only
  split
  · exact max_le (by omega) (by decide)
  · exact min_le_right _ _

/-- Behind the greatest long integer comes a negative one. -/
theorem toText_nextLong_greatest (k : Nat) : toText (nextLong (2 ^ 63 - 1)) ≠ natText k := by
  have sign : toText (nextLong (2 ^ 63 - 1)) = '-' :: natText (2 ^ 63) := by decide
  intro same
  have digit : '-'.isDigit = true := natText_isDigit (n := k) (by rw [← same, sign]; simp)
  cases digit

/-- A number that is not negative is written in digits. -/
theorem toText_nextLong {number : Int} (start : 0 ≤ number) (below : number < 2 ^ 63 - 1) :
    toText (nextLong number) = natText (number + 1).toNat := by
  have same : nextLong number = number + 1 :=
    Int.bmod_eq_of_le (by omega) (by omega)
  rw [same, toText, if_neg (by omega)]
  congr 1
  omega

/-- What is found in the list of all files. -/
def foundIn (name : Text) (files : List Text) : List (Text × Text) :=
  foundNumbers name (getDirFile (some files)).length (getDirFile (some files))

/-- Something that was found begins in front of the last files of a list, and ends in the first. -/
def Straddles (last : List Text) (pair : Text × Text) : Prop :=
  pair.2.length < (getDirFile (some last)).length ∧
    (getDirFile (some last)).length ≤ pair.1.length + pair.2.length

instance straddlesDecidable (last : List Text) (pair : Text × Text) :
    Decidable (Straddles last pair) :=
  inferInstanceAs (Decidable (_ ∧ _))

/--
What is found in the list of files gives the next number.

No number is too great for a successor. A file with a number counts by itself, or something that was
found goes into it from the files before; then its number is 0 or not above one that was found.
-/
structure Numbered (name : Text) (files : List Text) : Prop where
  below : ∀ pair ∈ foundIn name files, readNumber name pair.1 < 2 ^ 63 - 1
  overrun : ∀ first j last, files = first ++ (name ++ '.' :: natText j) :: last →
    ∀ pair ∈ foundIn name files, Straddles ((name ++ '.' :: natText j) :: last) pair →
      j = 0 ∨ ∃ other ∈ foundIn name files, (j : Int) ≤ readNumber name other.1

/-- A file with a number counts by itself, if nothing goes into it. -/
theorem entry_mem_foundIn {first last : List Text} {j : Nat}
    (split : files = first ++ (name ++ '.' :: natText j) :: last)
    (apart : ∀ pair ∈ foundIn name files, ¬Straddles ((name ++ '.' :: natText j) :: last) pair) :
    ∃ pair ∈ foundIn name files, readNumber name pair.1 = min (j : Int) (2 ^ 63 - 1) := by
  have whole : getDirFile (some files)
      = first.flatMap (':' :: ·) ++ getDirFile (some ((name ++ '.' :: natText j) :: last)) := by
    simp [split, getDirFile]
  have ends : ∀ c ∈ (last.flatMap (':' :: ·)).head?, c.isDigit = false := by
    cases last with
    | nil => simp
    | cons next last => simp
  refine ⟨(name ++ '.' :: natText j, last.flatMap (':' :: ·)), ?_, readNumber_entry name j⟩
  rw [foundIn, whole] at apart ⊢
  exact entry_mem_foundNumbers j _ (by simp [getDirFile]) ends le_rfl apart

/-- The log of a program whose name begins with a digit. -/
def zipLog : Text := "7z_size.log".toList

/-- The last file comes behind the log, and another one is listed first. -/
def zipLogs : List Text := [zipLog ++ '.' :: natText 8, zipLog, zipLog ++ '.' :: natText 5]

end Numbering

end Dnfs
