import Dnfs.Log.LogConfig
import Mathlib.Data.List.TakeWhile

/-! What the parts of a configuration do, each in one equation. -/

namespace Dnfs

/-- A sequence is accepted if both parts are. -/
theorem bind_eq_ok {ε α β : Type} {x : Except ε α} {f : α → Except ε β} {b : β} :
    (x >>= f) = .ok b ↔ ∃ a, x = .ok a ∧ f a = .ok b := by
  cases x <;> simp [bind, Except.bind]

variable {file set : LogFile} {configStr argsStr arg digits : Text}

section Numbers

/-- A digit is neither a sign nor a space. -/
theorem takeSign_digits (number : isNumber digits = true) :
    takeSign (digits.dropWhile isSpace) = (false, digits) := by
  cases digits with
  | nil => cases number
  | cons d rest =>
    -- A digit is neither a space nor a sign.
    have digit : d.isDigit = true := by
      simp only [isNumber, List.all_cons, Bool.and_eq_true] at number
      exact number.2.1
    have noSpace : isSpace d = false := by
      rw [Bool.eq_false_iff]
      intro space
      simp only [isSpace, List.mem_cons, List.not_mem_nil, or_false, decide_eq_true_eq] at space
      rcases space with rfl | rfl | rfl | rfl | rfl | rfl <;> exact absurd digit (by decide)
    have noMinus : d ≠ '-' := by
      rintro rfl
      exact absurd digit (by decide)
    have noPlus : d ≠ '+' := by
      rintro rfl
      exact absurd digit (by decide)
    rw [List.dropWhile_cons_of_neg (by simp [noSpace])]
    unfold takeSign
    split
    · next same => exact absurd (List.cons.inj same).1 noMinus
    · next same => exact absurd (List.cons.inj same).1 noPlus
    · rfl

/-- A string of digits is read as its value, if that is small enough. -/
theorem stoBits_number (bits : Nat) (number : isNumber digits = true) :
    stoBits bits digits = if decimal digits < 2 ^ (bits - 1) then .ok (decimal digits : Int)
      else .error .outOfRange := by
  have all : ∀ d ∈ digits, d.isDigit = true := by
    simp only [isNumber, Bool.and_eq_true, List.all_eq_true] at number
    exact number.2
  have nonempty : digits ≠ [] := by
    simp only [isNumber, Bool.and_eq_true, decide_eq_true_eq] at number
    exact number.1
  rw [stoBits, takeSign_digits number]
  dsimp only
  have least : -2 ^ (bits - 1) ≤ (decimal digits : Int) :=
    le_trans (Int.neg_nonpos_of_nonneg (by positivity)) (Int.natCast_nonneg _)
  have fits : (decimal digits : Int) < 2 ^ (bits - 1) ↔ decimal digits < 2 ^ (bits - 1) := by
    exact_mod_cast Iff.rfl
  rw [List.takeWhile_eq_self_iff.mpr all, if_neg nonempty]
  simp only [Bool.false_eq_true, if_false, least, true_and, fits]

/-- A natural number is cut to 32 bits. -/
theorem ofInt_natCast (n : Nat) : UInt32.ofInt n = UInt32.ofNat n := by
  apply UInt32.toNat_inj.mp
  rw [UInt32.ofInt, UInt32.toNat_ofNat', UInt32.toNat_ofNat']
  omega

/-- `std::stoll` of digits that were checked. -/
theorem stoll_number (number : isNumber digits = true) :
    passing (stoll digits) = if decimal digits < 2 ^ 63 then .ok (decimal digits : Int)
      else .error (.std .outOfRange) := by
  rw [stoll, stoBits_number 64 number]
  split <;> rfl

/-- `std::stoi` of digits that were checked. -/
theorem stoi_number (number : isNumber digits = true) :
    passing (stoi digits) = if decimal digits < 2 ^ 31 then .ok (decimal digits : Int)
      else .error (.std .outOfRange) := by
  rw [stoi, stoBits_number 32 number]
  split <;> rfl

end Numbers

section Parts

/-- What passes a check is accepted if what follows is. -/
theorem ite_error_eq_ok {α : Type} {refused : Prop} [Decidable refused] {thrown : Thrown}
    {result : Except Thrown α} {value : α} :
    (if refused then .error thrown else result) = .ok value ↔ ¬refused ∧ result = .ok value := by
  by_cases check : refused <;> simp [check]

/-- A count that is large enough takes what is left of a string. -/
theorem substr_rest {text : Text} {pos count : Nat} (within : pos ≤ text.length)
    (enough : text.length - pos ≤ count) : substr text pos count = .ok (text.drop pos) := by
  rw [substr, if_neg (by omega), List.take_of_length_le (by rw [List.length_drop]; exact enough)]

/-- Behind the at sign, the first and the last character are left out, whatever they are. -/
theorem argsStrOf_eq {argsIndex : Nat} (found : find ['@'] configStr = some argsIndex) :
    argsStrOf configStr =
      if configStr.drop (argsIndex + 1) = [] then .error (.std .outOfRange)
      else .ok (some (configStr.drop (argsIndex + 1)).tail.dropLast) := by
  obtain ⟨within, _⟩ := find_some found
  rw [List.length_singleton] at within
  rw [argsStrOf, found]
  dsimp only
  rw [substr, List.tail_drop]
  by_cases last : configStr.drop (argsIndex + 1) = []
  · have end_ := List.drop_eq_nil_iff.mp last
    rw [if_pos (by omega), if_pos last]
    rfl
  · have more := mt List.drop_eq_nil_iff.mpr last
    rw [if_neg (by omega), if_neg last, List.dropLast_eq_take, List.length_drop]
    -- The count wraps around if there is one character only, of which nothing is left anyway.
    have same : (configStr.drop (argsIndex + 2)).take
        (sizeSub (sizeSub configStr.length argsIndex) 3)
        = (configStr.drop (argsIndex + 2)).take (configStr.length - (argsIndex + 2) - 1) := by
      have first : sizeSub configStr.length argsIndex = configStr.length - argsIndex :=
        if_pos (by omega)
      rw [first]
      by_cases one : configStr.length = argsIndex + 2
      · rw [List.drop_eq_nil_of_le (by omega), List.take_nil, List.take_nil]
      · rw [sizeSub, if_pos (by omega)]
        congr 1
    rw [same]
    rfl

namespace LogFile

/-- A size of less than two characters has no room for a unit. -/
theorem setSize_short (short : arg.length < 2) : file.setSize arg = .error (.std .outOfRange) := by
  have behind : arg.length < sizeSub arg.length 2 := by
    rw [sizeSub]
    split <;> omega
  rw [setSize, substr, if_pos behind]
  rfl

/-- A size is a number in front of the last two characters. -/
theorem setSize_eq (digits unit : Text) (two : unit.length = 2) :
    file.setSize (digits ++ unit) =
      if isNumber digits = false then .error (.logException (.sizeNumber digits))
      else if decimal digits < 2 ^ 63 then
        file.setUnit (UInt32.ofNat (decimal digits)) (toLower unit)
      else .error (.std .outOfRange) := by
  -- The last two characters are the unit.
  have place : sizeSub (digits ++ unit).length 2 = digits.length := by
    rw [sizeSub, List.length_append, two, if_pos (by omega), Nat.add_sub_cancel]
  have last : substr (digits ++ unit) digits.length (digits ++ unit).length = .ok unit := by
    rw [substr_rest (by simp) (by omega), List.drop_left]
  have first : substr (digits ++ unit) 0 digits.length = .ok digits := by
    rw [substr, if_neg (by omega), List.drop_zero, List.take_left]
  rw [setSize, place, last, first]
  simp only [passing, Except.mapError, bind, Except.bind]
  by_cases number : isNumber digits = false
  · rw [if_pos number, if_pos number]
    rfl
  · have reads := stoll_number (by simpa using number)
    simp only [passing, Except.mapError] at reads
    rw [if_neg number, if_neg number, reads]
    by_cases fits : decimal digits < 2 ^ 63
    · rw [if_pos fits, if_pos fits, ← ofInt_natCast]
    · rw [if_neg fits, if_neg fits]

/-- Only three parameters are accepted, of which empty ones do not count. -/
theorem setArgs_other (other : (splitStr argsStr [',']).length ≠ 3) :
    file.setArgs argsStr = .error (.logException (.threeParameters argsStr)) := by
  rw [setArgs]
  split
  · next three => simp [three] at other
  · rfl

/-- With three parameters, the last one is looked at first. -/
theorem setArgs_three {kind limit count : Text}
    (three : splitStr argsStr [','] = [kind, limit, count]) :
    file.setArgs argsStr =
      if isNumber count = false then .error (.logException (.savedLogs count))
      else if decimal count < 2 ^ 31 then
        if kind = "size".toList then
          setSize { file with backupCount := Int32.ofInt (decimal count) } limit
        else if kind = "time".toList then
          setTime { file with backupCount := Int32.ofInt (decimal count) } limit
        else .error (.logException (.sizeOrTime kind))
      else .error (.std .outOfRange) := by
  rw [setArgs, three]
  dsimp only
  by_cases number : isNumber count = false
  · rw [if_pos number, if_pos number]
  · rw [if_neg number, if_neg number, stoi_number (by simpa using number)]
    by_cases fits : decimal count < 2 ^ 31
    · rw [if_pos fits, if_pos fits]
      rfl
    · rw [if_neg fits, if_neg fits]
      rfl

/-- What the parameters do is all that a configuration with an at sign does. -/
theorem setConfig_at {argsIndex : Nat} (found : find ['@'] configStr = some argsIndex) :
    file.setConfig configStr =
      if configStr.drop (argsIndex + 1) = [] then .error (.std .outOfRange)
      else file.setArgs (configStr.drop (argsIndex + 1)).tail.dropLast := by
  rw [setConfig, argsStrOf_eq found]
  split <;> rfl

/-- Without an at sign, nothing is set. -/
theorem setConfig_plain (plain : find ['@'] configStr = none) :
    file.setConfig configStr = .ok file := by
  rw [setConfig, argsStrOf, plain]
  rfl

end LogFile

end Parts

section Accepting

namespace LogFile

/-- A size that is accepted is set. -/
theorem setSize_ok (done : file.setSize arg = .ok set) :
    ∃ limit, set = { file with rotateType := .size, logLimit := limit } := by
  rcases Nat.lt_or_ge arg.length 2 with short | long
  · rw [setSize_short short] at done
    cases done
  · have two : (arg.drop (arg.length - 2)).length = 2 := by
      rw [List.length_drop]
      omega
    rw [← List.take_append_drop (arg.length - 2) arg, setSize_eq _ _ two, setUnit] at done
    grind

/-- A time that is accepted is set. -/
theorem setTime_ok (done : file.setTime arg = .ok set) :
    ∃ when_, set = { file with
      rotateType := .time, when := when_, logLimit := when_.interval } := by
  rw [setTime] at done
  split at done
  · next when_ _ =>
    cases done
    exact ⟨when_, rfl⟩
  · cases done

/-- Parameters that are accepted are three, a word and two others of which one is a number. -/
theorem setArgs_pieces (done : file.setArgs argsStr = .ok set) :
    ∃ kind limit count, splitStr argsStr [','] = [kind, limit, count] ∧ isNumber count = true ∧
      (kind = "size".toList ∨ kind = "time".toList) := by
  by_cases three : (splitStr argsStr [',']).length = 3
  · obtain ⟨kind, limit, count, pieces⟩ := List.length_eq_three.mp three
    refine ⟨kind, limit, count, pieces, ?_⟩
    rw [setArgs_three pieces] at done
    grind
  · rw [setArgs_other three] at done
    cases done

/-- Parameters that are accepted set a size or a time. -/
theorem setArgs_ok (done : file.setArgs argsStr = .ok set) :
    ∃ count : Int32, 0 ≤ count.toInt ∧ ((∃ limit, set = { file with
        backupCount := count, rotateType := .size, logLimit := limit }) ∨
      ∃ when_, set = { file with
        backupCount := count, rotateType := .time, when := when_, logLimit := when_.interval })
    := by
  by_cases three : (splitStr argsStr [',']).length = 3
  · obtain ⟨kind, limit, count, pieces⟩ := List.length_eq_three.mp three
    rw [setArgs_three pieces] at done
    -- Every other branch is an error.
    split at done
    · cases done
    · split at done
      · next small =>
        have positive : 0 ≤ (Int32.ofInt (decimal count)).toInt := by
          rw [Int32.toInt_ofInt, Int.bmod_eq_of_le (by simp only [Int32.size]; omega)
            (by simp only [Int32.size]; omega)]
          omega
        refine ⟨Int32.ofInt (decimal count), positive, ?_⟩
        split at done
        · exact .inl (setSize_ok done)
        · split at done
          · exact .inr (setTime_ok done)
          · cases done
      · cases done
  · rw [setArgs_other three] at done
    cases done

end LogFile

variable {σ : Type} {os : LogOs σ} {naming : LogNaming} {moduleN : Text} {logL : LogLevel} {s : σ}

/-- A configuration is accepted along with its directory. -/
theorem LogFile.generateData_ok :
    (file.generateData os naming configStr moduleN logL s).1 = .ok set ↔
      ∃ parsed, file.setConfig configStr = .ok parsed ∧
        (checkLogDirectory os (dirPathOf configStr) s).1 = none ∧
        generateLogPath naming { parsed with
          logDirectoryPath := dirPathOf configStr
          moduleName := moduleN
          logLevel := logL } = set := by
  rw [generateData]
  cases file.setConfig configStr with
  | error thrown => simp
  | ok parsed =>
    dsimp only
    obtain ⟨_ | thrown, t⟩ := checkLogDirectory os (dirPathOf configStr) s <;> simp

/-- What is thrown comes from the parameters or, if those are accepted, from the directory. -/
theorem LogFile.generateData_error {thrown : Thrown} :
    (file.generateData os naming configStr moduleN logL s).1 = .error thrown ↔
      file.setConfig configStr = .error thrown ∨
        (∃ parsed, file.setConfig configStr = .ok parsed) ∧
          (checkLogDirectory os (dirPathOf configStr) s).1 = some thrown := by
  rw [generateData]
  cases file.setConfig configStr with
  | error other => simp
  | ok parsed =>
    dsimp only
    obtain ⟨_ | other, t⟩ := checkLogDirectory os (dirPathOf configStr) s <;> simp

end Accepting

end Dnfs
