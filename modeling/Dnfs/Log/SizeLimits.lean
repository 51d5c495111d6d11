import Dnfs.Log.LogConfigLaws
import Dnfs.Log.LogDisk

/-! Whether a size is set as it is written. -/

namespace Dnfs

section Units

/-- The units of a size. -/
inductive SizeUnit where
  | kb | mb | gb
  deriving DecidableEq, Repr

def SizeUnit.name : SizeUnit → Text
  | kb => "kb".toList
  | mb => "mb".toList
  | gb => "gb".toList

def SizeUnit.shift : SizeUnit → Nat
  | kb => 10
  | mb => 20
  | gb => 30

variable {unit : Text} {size : SizeUnit}

/-- Digits have no case. -/
theorem toLower_digit {c : Char} (digit : c.isDigit = true) : c.toLower = c := by
  simp only [Char.isDigit, Bool.and_eq_true, decide_eq_true_eq] at digit
  unfold Char.toLower
  split
  · next upper =>
    exfalso
    have most : c.val.toNat ≤ 57 := UInt32.le_iff_toNat_le.mp digit.2
    have least : 65 ≤ c.val.toNat := UInt32.le_iff_toNat_le.mp upper.1
    omega
  · rfl

/-- A unit has two letters, in any case. -/
theorem SizeUnit.length_of_name (isUnit : toLower unit = size.name) : unit.length = 2 := by
  have lengths := congrArg List.length isUnit
  rw [toLower, List.length_map] at lengths
  rw [lengths]
  cases size <;> rfl

/-- None of them is a comma or a digit. -/
theorem SizeUnit.letters_of_name (isUnit : toLower unit = size.name) {c : Char} (mem : c ∈ unit) :
    c ≠ ',' ∧ c.isDigit = false := by
  have lower : c.toLower ∈ size.name := isUnit ▸ List.mem_map_of_mem mem
  constructor
  · rintro rfl
    cases size <;> exact absurd lower (by decide)
  · rw [Bool.eq_false_iff]
    intro digit
    rw [toLower_digit digit] at lower
    have letters : size.name.all (fun d => !d.isDigit) = true := by cases size <;> rfl
    have letter := List.all_eq_true.mp letters c lower
    rw [digit] at letter
    cases letter

end Units

section Limits

/-- The parameters of a size. -/
def sizeArgs (number unit count : Text) : Text :=
  "size".toList ++ ',' :: (number ++ unit ++ ',' :: count)

/-- A configuration that cuts off by size. -/
def sizeConfig (dir number unit count : Text) : Text :=
  dir ++ '@' :: ('(' :: sizeArgs number unit count ++ [')'])

/-- Nothing is accepted, or the size and the count are those that are written. -/
def SetsExactly (size : SizeUnit) (number count : Text) : Except Thrown LogFile → Prop
  | .error _ => True
  | .ok file => file.logLimit.toNat = decimal number * 2 ^ size.shift ∧
      file.backupCount.toInt = decimal count

instance (size : SizeUnit) (number count : Text) :
    (result : Except Thrown LogFile) → Decidable (SetsExactly size number count result)
  | .error _ => isTrue trivial
  | .ok _ => inferInstanceAs (Decidable (_ ∧ _))

variable {dir number unit count : Text} {size : SizeUnit} {file : LogFile}

/-- The shift loses what does not fit into 32 bits. -/
theorem shift_exact_iff (n : Nat) (size : SizeUnit) :
    (UInt32.ofNat n <<< UInt32.ofNat size.shift).toNat = n * 2 ^ size.shift ↔
      n * 2 ^ size.shift < 2 ^ 32 := by
  have small : size.shift < 32 := by cases size <;> decide
  rw [UInt32.toNat_shiftLeft, UInt32.toNat_ofNat', UInt32.toNat_ofNat', Nat.shiftLeft_eq,
    Nat.mod_mod_of_dvd _ (by decide), Nat.mod_eq_of_lt small]
  constructor
  · intro same
    rw [← same]
    exact Nat.mod_lt _ (by decide)
  · intro fits
    have number : n < 2 ^ 32 :=
      lt_of_le_of_lt (Nat.le_mul_of_pos_right n (by positivity)) fits
    rw [Nat.mod_eq_of_lt number, Nat.mod_eq_of_lt fits]

/-- A count that was checked is set as it is written. -/
theorem toInt_ofInt_decimal (few : decimal count < 2 ^ 31) :
    (Int32.ofInt (decimal count)).toInt = decimal count := by
  rw [Int32.toInt_ofInt]
  exact Int.bmod_eq_of_le (by simp only [Int32.size]; omega) (by simp only [Int32.size]; omega)

/-- A unit sets its shift, unless the gigabytes are too many. -/
theorem setUnit_eq (file : LogFile) (n : UInt32) (size : SizeUnit) :
    file.setUnit n size.name =
      if size = .gb ∧ 3 < n then .error (.logException (.sizeTooLarge n))
      else .ok { file with rotateType := .size, logLimit := n <<< UInt32.ofNat size.shift } := by
  cases size with
  | kb => rfl
  | mb => rfl
  | gb =>
    rw [LogFile.setUnit, if_neg (by decide), if_neg (by decide), if_pos (by decide)]
    simp only [true_and]
    rfl

/-- Digits are no commas. -/
theorem comma_notMem {digits : Text} (all : digits.all Char.isDigit = true) : ',' ∉ digits := by
  intro mem
  exact absurd (List.all_eq_true.mp all ',' mem) (by decide)

/-- A unit behind digits leaves something that is no number. -/
theorem isNumber_unit (isUnit : toLower unit = size.name) (number : Text) :
    isNumber (number ++ unit) = false := by
  obtain ⟨c, rest, rfl⟩ := List.exists_cons_of_length_pos
    (by rw [SizeUnit.length_of_name isUnit]; decide)
  obtain ⟨_, noDigit⟩ := SizeUnit.letters_of_name isUnit List.mem_cons_self
  simp [isNumber, noDigit]

/-- The parameters are those between the brackets, if there is no other at sign. -/
theorem setConfig_size (number unit count : Text) (plain : '@' ∉ dir) (file : LogFile) :
    file.setConfig (sizeConfig dir number unit count) =
        file.setArgs (sizeArgs number unit count) ∧
      dirPathOf (sizeConfig dir number unit count) = dir := by
  have found : find ['@'] (sizeConfig dir number unit count) = some dir.length :=
    find_first plain _
  have behind : (sizeConfig dir number unit count).drop (dir.length + 1)
      = '(' :: sizeArgs number unit count ++ [')'] := by
    rw [sizeConfig, ← List.drop_drop, List.drop_left]
    rfl
  constructor
  · rw [LogFile.setConfig_at found, behind, if_neg (by simp), List.cons_append, List.tail_cons,
      List.dropLast_concat]
  · rw [dirPathOf, found]
    exact List.take_left

section Parameters

variable (isUnit : toLower unit = size.name) (digits : number.all Char.isDigit = true)
  (counted : count.all Char.isDigit = true)
include isUnit digits counted

/-- The pieces of a size, where an empty count is none. -/
theorem splitStr_size : splitStr (number ++ unit ++ ',' :: count) [','] =
    (number ++ unit) :: if count = [] then [] else [count] := by
  have some_ : number ++ unit ≠ [] := by
    apply List.append_ne_nil_of_right_ne_nil
    rw [← List.length_pos_iff, SizeUnit.length_of_name isUnit]
    decide
  have noComma : ',' ∉ number ++ unit := by
    rw [List.mem_append, not_or]
    exact ⟨comma_notMem digits, fun mem => (SizeUnit.letters_of_name isUnit mem).1 rfl⟩
  rw [splitStr_append, splitStr_single some_ noComma]
  split
  · next empty =>
    rw [empty]
    rfl
  · next nonempty =>
    rw [splitStr_single nonempty (comma_notMem counted)]
    rfl

/-- With another at sign, something else is looked at, and refused. -/
theorem setConfig_other (other : '@' ∈ dir) (file set : LogFile) :
    file.setConfig (sizeConfig dir number unit count) ≠ .ok set := by
  intro done
  obtain ⟨before, after, rfl, first⟩ := List.eq_append_cons_of_mem other
  -- What is left of the directory stands in front of the opening bracket.
  have shape : sizeConfig (before ++ '@' :: after) number unit count
      = before ++ '@' :: (after ++ ['@'] ++ '(' :: sizeArgs number unit count ++ [')']) := by
    simp [sizeConfig]
  have behind : ∀ rest : Text, (before ++ '@' :: rest).drop (before.length + 1) = rest := by
    intro rest
    rw [← List.drop_drop, List.drop_left]
    rfl
  have inner : (after ++ ['@'] ++ '(' :: sizeArgs number unit count ++ [')']).tail.dropLast
      = (after ++ ['@']).tail ++ "(size".toList ++ ',' :: (number ++ unit ++ ',' :: count) := by
    rw [List.append_assoc, List.tail_append_of_ne_nil (by simp), ← List.append_assoc,
      List.dropLast_concat, List.append_assoc]
    rfl
  rw [shape, LogFile.setConfig_at (find_first first _), behind, if_neg (by simp), inner] at done
  have pieces := splitStr_append ',' ((after ++ ['@']).tail ++ "(size".toList)
    (number ++ unit ++ ',' :: count)
  rw [splitStr_size isUnit digits counted] at pieces
  obtain ⟨kind, limit, last, three, isLast, isKind⟩ := LogFile.setArgs_pieces done
  rw [three] at pieces
  by_cases empty : count = []
  · -- Then the unit is where the count should be.
    rw [if_pos empty] at pieces
    have same : last = number ++ unit := by
      have lasts := congrArg List.getLast? pieces
      simpa using lasts
    rw [same, isNumber_unit isUnit] at isLast
    cases isLast
  · -- Then the bracket is in the first piece.
    rw [if_neg empty] at pieces
    have split_ : [kind] ++ [limit, last] = _ := pieces
    obtain ⟨only, _⟩ := List.append_inj' split_ rfl
    have inside : '(' ∈ (after ++ ['@']).tail ++ "(size".toList :=
      List.mem_append_right _ (by decide)
    obtain ⟨piece, isPiece, bracket⟩ := exists_piece inside (by decide : '(' ≠ ',')
    rw [← only, List.mem_singleton] at isPiece
    rw [isPiece] at bracket
    rcases isKind with rfl | rfl <;> exact absurd bracket (by decide)

/-- What the parameters of a size set, if they are accepted. -/
theorem setArgs_size (file : LogFile) :
    file.setArgs (sizeArgs number unit count) =
      if count = [] then
        .error (.logException (.threeParameters
          (sizeArgs number unit count)))
      else if 2 ^ 31 ≤ decimal count then .error (.std .outOfRange)
      else if number = [] then .error (.logException (.sizeNumber []))
      else if 2 ^ 63 ≤ decimal number then .error (.std .outOfRange)
      else LogFile.setUnit { file with backupCount := Int32.ofInt (decimal count) }
        (UInt32.ofNat (decimal number)) size.name := by
  have pieces : splitStr (sizeArgs number unit count) [','] =
      "size".toList :: (number ++ unit) :: if count = [] then [] else [count] := by
    rw [sizeArgs, splitStr_append, splitStr_size isUnit digits counted,
      splitStr_single (by decide) (by decide)]
    rfl
  -- The tests are made in the order of the code.
  by_cases empty : count = []
  · rw [if_pos empty] at pieces ⊢
    exact LogFile.setArgs_other (by simp [pieces])
  · have isCount : isNumber count = true := by simp [isNumber, empty, counted]
    rw [if_neg empty] at pieces ⊢
    rw [LogFile.setArgs_three pieces, if_neg (by rw [isCount]; decide), if_pos rfl,
      LogFile.setSize_eq _ _ (SizeUnit.length_of_name isUnit), isUnit]
    by_cases many : 2 ^ 31 ≤ decimal count
    · rw [if_pos many, if_neg (Nat.not_lt.mpr many)]
    · rw [if_neg many, if_pos (Nat.not_le.mp many)]
      by_cases none_ : number = []
      · rw [if_pos none_, none_]
        rfl
      · have isSize : isNumber number = true := by simp [isNumber, none_, digits]
        rw [if_neg none_, if_neg (by rw [isSize]; decide)]
        by_cases large : 2 ^ 63 ≤ decimal number
        · rw [if_pos large, if_neg (Nat.not_lt.mpr large)]
        · rw [if_neg large, if_pos (Nat.not_le.mp large)]

/-- The parameters of a size are accepted if nothing is missing or too large. -/
theorem setArgs_size_ok (file set : LogFile) :
    file.setArgs (sizeArgs number unit count) = .ok set ↔
      count ≠ [] ∧ decimal count < 2 ^ 31 ∧ number ≠ [] ∧ decimal number < 2 ^ 63 ∧
        ¬(size = .gb ∧ 3 < decimal number % 2 ^ 32) ∧
        set = { file with
          backupCount := Int32.ofInt (decimal count)
          rotateType := .size
          logLimit := UInt32.ofNat (decimal number) <<< UInt32.ofNat size.shift } := by
  have gigabytes : (3 < UInt32.ofNat (decimal number)) ↔ 3 < decimal number % 2 ^ 32 := by
    rw [UInt32.lt_iff_toNat_lt, UInt32.toNat_ofNat']
    rfl
  rw [setArgs_size isUnit digits counted, setUnit_eq]
  simp only [ite_error_eq_ok, gigabytes, not_le, Except.ok.injEq]
  rw [eq_comm (a := set)]

end Parameters

variable {σ : Type}

/-- Whatever is accepted is set as written. -/
theorem setsExactly_iff {size : SizeUnit} {number count : Text} {result : Except Thrown LogFile} :
    SetsExactly size number count result ↔ ∀ set, result = .ok set →
      set.logLimit.toNat = decimal number * 2 ^ size.shift ∧
        set.backupCount.toInt = decimal count := by
  cases result with
  | error thrown | ok file => simp [SetsExactly]

/--
A size is set as it is written, or refused, just if it fits into the field or something else in the
configuration is refused.
-/
theorem generateData_setsExactly_iff (os : LogOs σ) (s : σ) (naming : LogNaming) (moduleN : Text)
    (logL : LogLevel) (file : LogFile) (dir number unit count : Text) (size : SizeUnit)
    (isUnit : toLower unit = size.name) (digits : number.all Char.isDigit = true)
    (counted : count.all Char.isDigit = true) :
    SetsExactly size number count
        (file.generateData os naming (sizeConfig dir number unit count) moduleN logL s).1 ↔
      '@' ∈ dir ∨ number = [] ∨ count = [] ∨ 2 ^ 31 ≤ decimal count ∨ 2 ^ 63 ≤ decimal number ∨
        (size = .gb ∧ 3 < decimal number % 2 ^ 32) ∨ (checkLogDirectory os dir s).1 ≠ none ∨
        decimal number * 2 ^ size.shift < 2 ^ 32 := by
  rw [setsExactly_iff]
  by_cases other : '@' ∈ dir
  · -- Nothing is accepted.
    refine iff_of_true (fun set accepted => ?_) (.inl other)
    obtain ⟨parsed, done, _⟩ := LogFile.generateData_ok.mp accepted
    exact absurd done (setConfig_other isUnit digits counted other file parsed)
  · obtain ⟨parses, isDir⟩ := setConfig_size number unit count other file
    simp only [LogFile.generateData_ok, parses, isDir, setArgs_size_ok isUnit digits counted]
    constructor
    · intro sets
      by_contra fails
      simp only [not_or, not_not, not_le] at fails
      obtain ⟨_, isNumber_, isCount, few, small, units, there, large⟩ := fails
      -- All is accepted, but the size does not fit.
      have exact_ := sets _ ⟨_, ⟨isCount, few, isNumber_, small, units, rfl⟩, there, rfl⟩
      exact large ((shift_exact_iff _ _).mp exact_.1)
    · rintro condition set ⟨parsed, ⟨isCount, few, isNumber_, small, units, rfl⟩, there, rfl⟩
      have fits : decimal number * 2 ^ size.shift < 2 ^ 32 := by
        rcases condition with at_ | none_ | none_ | many | large | gigabytes | refused | fits
        · exact absurd at_ other
        · exact absurd none_ isNumber_
        · exact absurd none_ isCount
        · exact absurd few (Nat.not_lt.mpr many)
        · exact absurd small (Nat.not_lt.mpr large)
        · exact absurd gigabytes units
        · exact absurd there refused
        · exact fits
      exact ⟨(shift_exact_iff _ _).mpr fits, toInt_ofInt_decimal few⟩

/-- Two megabytes are set as they are written. -/
theorem generateData_setsExactly_two :
    SetsExactly .mb ['2'] ['7'] (LogFile.generateData LogWorld.plain.os ⟨['a'], .justOne⟩ {}
      (sizeConfig "/l".toList ['2'] "MB".toList ['7']) [] .nolog .empty).1 :=
  (generateData_setsExactly_iff LogWorld.plain.os .empty ⟨['a'], .justOne⟩ [] .nolog {}
    "/l".toList ['2'] "MB".toList ['7'] .mb (by decide) (by decide) (by decide)).mpr (by decide)

/-- One kilobyte more than four gigabytes is set as one kilobyte. -/
theorem generateData_setsExactly_fails :
    ∃ file, (LogFile.generateData LogWorld.plain.os ⟨['a'], .justOne⟩ {}
        (sizeConfig "/l".toList "4194305".toList "kb".toList ['7']) [] .nolog .empty).1 = .ok file ∧
      file.logLimit = 1024 ∧ ¬SetsExactly .kb "4194305".toList ['7'] (.ok file) :=
  ⟨_, rfl, by decide, by decide⟩

end Limits

end Dnfs
