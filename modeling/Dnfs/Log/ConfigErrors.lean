import Dnfs.Log.LogConfigLaws
import Dnfs.Log.LogDisk

/-! What comes out of a configuration that is not as it should be. -/

namespace Dnfs

section Shapes

/-- The exceptions that are the logger's own. -/
def Thrown.Own : Thrown → Prop
  | logException _ => True
  | utilException _ => True
  | _ => False

/-- Three parameters in brackets, with two commas between them. -/
def IsTriple (text : Text) : Prop :=
  ∃ a b c, ',' ∉ a ∧ ',' ∉ b ∧ ',' ∉ c ∧ text = '(' :: (a ++ ',' :: (b ++ ',' :: (c ++ [')'])))

/-- Nothing is thrown but the logger's own exceptions. -/
def OwnErrors {α : Type} (result : Except Thrown α) : Prop :=
  ∀ thrown, result = .error thrown → thrown.Own

/-- Something is accepted. -/
def Accepted {α : Type} (result : Except Thrown α) : Prop := ∃ value, result = .ok value

/-- A configuration is refused by the logger's own exceptions, or accepted with three parameters. -/
def Reported {α : Type} (configStr : Text) (result : Except Thrown α) : Prop :=
  OwnErrors result ∧ (Accepted result → ∀ argsIndex, find ['@'] configStr = some argsIndex →
    IsTriple (configStr.drop (argsIndex + 1)))

/-- The digits of a size, in front of the unit. -/
def sizeDigits (limit : Text) : Text := limit.take (limit.length - 2)

/-- The unit of a size. -/
def sizeUnitOf (limit : Text) : Text := toLower (limit.drop (limit.length - 2))

/-- The limits that can be set. -/
def ValidLimit (kind limit : Text) : Prop :=
  kind = "time".toList ∧ (RotateWhen.ofText (toUpper limit)).isSome ∨
  kind = "size".toList ∧ 2 ≤ limit.length ∧ isNumber (sizeDigits limit) = true ∧
    decimal (sizeDigits limit) < 2 ^ 63 ∧
    (sizeUnitOf limit = "kb".toList ∨ sizeUnitOf limit = "mb".toList ∨
      sizeUnitOf limit = "gb".toList ∧ decimal (sizeDigits limit) % 2 ^ 32 ≤ 3)

/-- Numbers that can be read: a count and, with a unit behind it, a size. -/
def Readable (kind limit count : Text) : Prop :=
  decimal count < 2 ^ 31 ∧ (kind = "size".toList → 2 ≤ limit.length ∧
    (isNumber (sizeDigits limit) = true → decimal (sizeDigits limit) < 2 ^ 63))

end Shapes

section Parameters

variable {file : LogFile} {argsStr kind limit count : Text}

/-- What is thrown is the logger's own if the exception is. -/
@[simp] theorem ownErrors_error {α : Type} (thrown : Thrown) :
    OwnErrors (.error thrown : Except Thrown α) ↔ thrown.Own := by
  simp [OwnErrors]

/-- Where nothing is thrown, nothing else is. -/
@[simp] theorem ownErrors_ok {α : Type} (value : α) : OwnErrors (.ok value) := nofun

/-- What throws accepts nothing. -/
@[simp] theorem accepted_error {α : Type} (thrown : Thrown) :
    ¬Accepted (.error thrown : Except Thrown α) := nofun

/-- What returns accepts. -/
@[simp] theorem accepted_ok {α : Type} (value : α) : Accepted (.ok value) := ⟨value, rfl⟩

/-- The logger's exceptions are its own. -/
@[simp] theorem own_logException (reason : LogReason) : (Thrown.logException reason).Own := trivial

/-- So are those about paths. -/
@[simp] theorem own_utilException (path : Text) : (Thrown.utilException path).Own := trivial

/-- The exceptions of the library are not. -/
@[simp] theorem own_std (exception : StdException) : ¬(Thrown.std exception).Own := id

/-- Nor are those of the file system. -/
@[simp] theorem own_filesystemError : ¬Thrown.filesystemError.Own := id

/-- A unit is refused by own exceptions only. -/
theorem setUnit_reports (file : LogFile) (n : UInt32) (unitB : Text) :
    OwnErrors (file.setUnit n unitB) ∧ (Accepted (file.setUnit n unitB) ↔
      unitB = "kb".toList ∨ unitB = "mb".toList ∨ unitB = "gb".toList ∧ n ≤ 3) := by
  rw [LogFile.setUnit]
  -- The units are tried in order, and too many gigabytes are refused though the unit is right.
  split_ifs with kb mb gb large
  · simp [kb]
  · simp [mb]
  · simp [gb, UInt32.not_le.mpr large]
  · simp [gb, UInt32.not_lt.mp large]
  · simp only [ownErrors_error, own_logException, accepted_error, kb, mb, gb, false_and, or_self,
      and_self]

/-- A size is refused by own exceptions if there is room for a unit and the number can be read. -/
theorem setSize_reports (file : LogFile) (limit : Text) :
    (OwnErrors (file.setSize limit) ↔ 2 ≤ limit.length ∧
      (isNumber (sizeDigits limit) = true → decimal (sizeDigits limit) < 2 ^ 63)) ∧
    (Accepted (file.setSize limit) ↔ ValidLimit "size".toList limit) := by
  rcases Nat.lt_or_ge limit.length 2 with short | long
  · rw [LogFile.setSize_short short]
    simp [ValidLimit, Nat.not_le.mpr short]
  · -- The last two characters are the unit, and what is before them is the number.
    have two : (limit.drop (limit.length - 2)).length = 2 := by
      rw [List.length_drop]
      omega
    have parts : sizeDigits limit ++ limit.drop (limit.length - 2) = limit :=
      List.take_append_drop _ _
    have notTime : "size".toList ≠ "time".toList := by decide
    have set : file.setSize (sizeDigits limit ++ limit.drop (limit.length - 2)) = _ :=
      LogFile.setSize_eq _ _ two
    rw [parts] at set
    rw [set, ValidLimit]
    by_cases number : isNumber (sizeDigits limit) = true
    · rw [if_neg (by rw [number]; decide)]
      by_cases small : decimal (sizeDigits limit) < 2 ^ 63
      · obtain ⟨own, accepts⟩ := setUnit_reports file
          (UInt32.ofNat (decimal (sizeDigits limit))) (sizeUnitOf limit)
        have gigabytes : UInt32.ofNat (decimal (sizeDigits limit)) ≤ 3 ↔
            decimal (sizeDigits limit) % 2 ^ 32 ≤ 3 := by
          rw [UInt32.le_iff_toNat_le, UInt32.toNat_ofNat']
          rfl
        rw [if_pos small, ← sizeUnitOf, accepts, gigabytes]
        simp only [number, small, long, own, notTime, false_and, false_or, true_and, and_self,
          implies_true]
      · rw [if_neg small]
        simp only [ownErrors_error, own_std, accepted_error, number, small, notTime, forall_const,
          false_and, and_false, or_self, and_self]
    · simp [number, long]

/-- A time is refused by own exceptions only. -/
theorem setTime_reports (file : LogFile) (limit : Text) :
    OwnErrors (file.setTime limit) ∧
      (Accepted (file.setTime limit) ↔ ValidLimit "time".toList limit) := by
  rw [LogFile.setTime, ValidLimit]
  -- A size is none of the times.
  split
  · next when_ known => simp [known]
  · next unknown => simp [unknown]

/-- Three parameters are accepted if all of them are valid. -/
theorem setArgs_reports (file : LogFile) (three : splitStr argsStr [','] = [kind, limit, count]) :
    (OwnErrors (file.setArgs argsStr) ↔
      (isNumber count = true → Readable kind limit count)) ∧
    (Accepted (file.setArgs argsStr) ↔
      isNumber count = true ∧ Readable kind limit count ∧ ValidLimit kind limit) := by
  rw [LogFile.setArgs_three three]
  by_cases number : isNumber count = true
  · rw [if_neg (by rw [number]; decide)]
    by_cases few : decimal count < 2 ^ 31
    · rw [if_pos few]
      by_cases isSize : kind = "size".toList
      · -- The limit decides, and that it can be read is needed for both.
        subst isSize
        obtain ⟨own, accepts⟩ :=
          setSize_reports { file with backupCount := Int32.ofInt (decimal count) } limit
        rw [if_pos rfl, own, accepts]
        refine ⟨⟨fun reads _ => ⟨few, fun _ => reads⟩, fun reads => (reads number).2 rfl⟩,
          fun valid => ⟨number, ⟨few, fun _ => ?_⟩, valid⟩, fun valid => valid.2.2⟩
        obtain ⟨isTime, _⟩ | ⟨_, long, _, small, _⟩ := valid
        · exact absurd isTime (by decide)
        · exact ⟨long, fun _ => small⟩
      · have readable : Readable kind limit count := ⟨few, fun size => absurd size isSize⟩
        rw [if_neg isSize]
        by_cases isTime : kind = "time".toList
        · subst isTime
          obtain ⟨own, accepts⟩ :=
            setTime_reports { file with backupCount := Int32.ofInt (decimal count) } limit
          rw [if_pos rfl, accepts]
          exact ⟨iff_of_true own fun _ => readable, fun valid => ⟨number, readable, valid⟩,
            fun valid => valid.2.2⟩
        · rw [if_neg isTime]
          simp only [ownErrors_error, own_logException, accepted_error, readable, ValidLimit,
            isTime, isSize, false_and, or_self, and_false, implies_true, and_self]
    · rw [if_neg few]
      simp only [ownErrors_error, own_std, accepted_error, number, Readable, few, forall_const,
        false_and, and_false, and_self]
  · simp [number]

end Parameters

section Directories

variable {σ : Type} {os : LogOs σ} {s : σ} {dir : Text}

/-- There is nothing under the path of a directory, and it cannot be made. -/
def CannotCreate (os : LogOs σ) (dir : Text) (s : σ) : Prop :=
  isPath dir = true ∧ (os.statMode dir s).1 = none ∧
    (os.createDirectories dir (os.statMode dir s).2).1 = true

/-- There is a directory under a path, or it can be made, and it may be written. -/
def UsableDirectory (os : LogOs σ) (dir : Text) (s : σ) : Prop :=
  isPath dir = true ∧ (creatDirectory os dir s).1 = none ∧
    (os.readOnly dir (creatDirectory os dir s).2).1 = false

/-- Making a directory throws an exception that is not the logger's own if it fails. -/
theorem creatDirectory_reports :
    (∀ thrown, (creatDirectory os dir s).1 = some thrown → thrown.Own) ↔
      ¬((os.statMode dir s).1 = none ∧
        (os.createDirectories dir (os.statMode dir s).2).1 = true) := by
  rw [creatDirectory]
  -- Only what is not there has to be made.
  generalize os.statMode dir s = stat
  obtain ⟨_ | mode, t⟩ := stat
  · dsimp only
    cases (os.createDirectories dir t).1 <;> simp
  · dsimp only
    split <;> simp

/-- A directory is refused by own exceptions, unless it cannot be made. -/
theorem checkLogDirectory_reports (os : LogOs σ) (s : σ) (dir : Text) :
    ((∀ thrown, (checkLogDirectory os dir s).1 = some thrown → thrown.Own) ↔
      ¬CannotCreate os dir s) ∧
    ((checkLogDirectory os dir s).1 = none ↔ UsableDirectory os dir s) := by
  rw [checkLogDirectory, CannotCreate, UsableDirectory]
  -- A path that is none is refused before anything is made.
  by_cases path : isPath dir = true
  · rw [if_neg (by rw [path]; decide), path]
    simp only [true_and]
    rw [← creatDirectory_reports]
    generalize creatDirectory os dir s = made
    obtain ⟨_ | thrown, t⟩ := made
    · dsimp only
      cases (os.readOnly dir t).1 <;> simp
    · simp
  · rw [if_pos (by simpa using path)]
    simp [path]

end Directories

section Reporting

variable {σ : Type} (os : LogOs σ) (s : σ)

/--
What makes all be reported: no at sign at the end, numbers that can be read, a directory that can be
made, and brackets around just three parameters.
-/
def WellReported (configStr : Text) : Prop :=
  match find ['@'] configStr with
  | none => ¬CannotCreate os configStr s
  | some argsIndex =>
    let dirPath := configStr.take argsIndex
    let rest := configStr.drop (argsIndex + 1)
    rest ≠ [] ∧ ∀ kind limit count, splitStr rest.tail.dropLast [','] = [kind, limit, count] →
      isNumber count = true →
        Readable kind limit count ∧
        (ValidLimit kind limit →
          ¬CannotCreate os dirPath s ∧ (UsableDirectory os dirPath s → IsTriple rest))

variable (naming : LogNaming) (file : LogFile) (configStr moduleN : Text) (logL : LogLevel)

/-- Parameters and directory are looked at one after the other. -/
theorem generateData_reports :
    (OwnErrors (file.generateData os naming configStr moduleN logL s).1 ↔
      OwnErrors (file.setConfig configStr) ∧
        (Accepted (file.setConfig configStr) → ¬CannotCreate os (dirPathOf configStr) s)) ∧
    (Accepted (file.generateData os naming configStr moduleN logL s).1 ↔
      Accepted (file.setConfig configStr) ∧ UsableDirectory os (dirPathOf configStr) s) := by
  obtain ⟨own, none_⟩ := checkLogDirectory_reports os s (dirPathOf configStr)
  rw [← own, ← none_]
  -- The directory is looked at only if the parameters were accepted.
  constructor
  · simp only [OwnErrors, LogFile.generateData_error]
    constructor
    · intro all
      exact ⟨fun thrown refused => all thrown (.inl refused),
        fun accepted thrown refused => all thrown (.inr ⟨accepted, refused⟩)⟩
    · rintro ⟨parameters, directory⟩ thrown (refused | ⟨accepted, refused⟩)
      · exact parameters thrown refused
      · exact directory accepted thrown refused
  · simp only [Accepted, LogFile.generateData_ok]
    constructor
    · rintro ⟨_, parsed, done, free, _⟩
      exact ⟨⟨parsed, done⟩, free⟩
    · rintro ⟨⟨parsed, done⟩, free⟩
      exact ⟨_, parsed, done, free, rfl⟩

/-- A configuration is set up in a way that is reported under the condition. -/
theorem generateData_reported_iff :
    Reported configStr (file.generateData os naming configStr moduleN logL s).1 ↔
      WellReported os s configStr := by
  obtain ⟨own, accepts⟩ := generateData_reports os s naming file configStr moduleN logL
  rw [Reported, own, accepts, WellReported, dirPathOf]
  cases found : find ['@'] configStr with
  | none =>
    rw [LogFile.setConfig_plain found]
    simp
  | some argsIndex =>
    rw [LogFile.setConfig_at found]
    dsimp only
    by_cases nothing : configStr.drop (argsIndex + 1) = []
    · simp [nothing]
    · rw [if_neg nothing]
      -- The brackets are cut off unseen, so only the number of the parameters is known.
      by_cases three :
          (splitStr (configStr.drop (argsIndex + 1)).tail.dropLast [',']).length = 3
      · obtain ⟨kind, limit, count, pieces⟩ := List.length_eq_three.mp three
        obtain ⟨ownArgs, acceptsArgs⟩ := setArgs_reports file pieces
        rw [ownArgs, acceptsArgs]
        constructor
        · rintro ⟨⟨reads, creates⟩, triple⟩
          refine ⟨nothing, fun kind' limit' count' same number => ?_⟩
          rw [pieces] at same
          cases same
          exact ⟨reads number, fun valid => ⟨creates ⟨number, reads number, valid⟩,
            fun usable => triple ⟨⟨number, reads number, valid⟩, usable⟩ argsIndex rfl⟩⟩
        · rintro ⟨_, all⟩
          have parts := all kind limit count pieces
          refine ⟨⟨fun number => (parts number).1,
            fun ⟨number, _, valid⟩ => ((parts number).2 valid).1⟩, ?_⟩
          rintro ⟨⟨number, _, valid⟩, usable⟩ _ same
          cases same
          exact ((parts number).2 valid).2 usable
      · -- Without three parameters, nothing is asked for.
        rw [LogFile.setArgs_other three]
        refine iff_of_true (by simp) ⟨nothing, fun kind limit count same => ?_⟩
        rw [same] at three
        exact absurd rfl three

/-- What a log file is got for is accepted, and what it is refused for, it is refused for anyway. -/
theorem getLogFile_reports (dicts : LogDicts) (reported : Reported configStr
      (LogFile.generateData os naming { moduleName := moduleN } configStr moduleN logL s).1) :
    Reported configStr (getLogFile os naming configStr moduleN logL dicts s).1 := by
  obtain ⟨own, triple⟩ := reported
  rw [getLogFile]
  cases args : argsStrOf configStr with
  | error thrown =>
    -- The same exception comes out of looking at the parameters.
    have refused : LogFile.setConfig { moduleName := moduleN } configStr = .error thrown := by
      rw [LogFile.setConfig, args]
      rfl
    have isOwn : thrown.Own := own thrown (LogFile.generateData_error.mpr (.inl refused))
    exact ⟨(ownErrors_error thrown).mpr isOwn, fun accepted => absurd accepted (accepted_error _)⟩
  | ok argsStr =>
    generalize LogFile.generateData os naming { moduleName := moduleN } configStr moduleN logL s
      = generated at own triple
    obtain ⟨thrown | logFile, t⟩ := generated
    · exact ⟨(ownErrors_error thrown).mpr (own thrown rfl),
        fun accepted => absurd accepted (accepted_error _)⟩
    · have isTriple := triple ⟨logFile, rfl⟩
      dsimp only
      rw [enter]
      split
      · exact ⟨ownErrors_ok _, fun _ => isTriple⟩
      · split
        · exact ⟨by simp, fun _ => isTriple⟩
        · exact ⟨ownErrors_ok _, fun _ => isTriple⟩

/--
Both functions report a bad configuration as they should, just if it does not end at the at sign,
its numbers can be read, its directory can be made, and what they would accept has its brackets.
-/
theorem logConfig_reported_iff (dicts : LogDicts) :
    Reported configStr
        (LogFile.generateData os naming { moduleName := moduleN } configStr moduleN logL s).1 ∧
      Reported configStr (getLogFile os naming configStr moduleN logL dicts s).1 ↔
    WellReported os s configStr := by
  rw [← generateData_reported_iff os s naming { moduleName := moduleN } configStr moduleN logL]
  exact ⟨fun both => both.1, fun reported =>
    ⟨reported, getLogFile_reports os s naming configStr moduleN logL dicts reported⟩⟩

/-- An at sign at the end gets an exception of the standard library out. -/
theorem logConfig_reported_fails :
    (LogFile.generateData LogWorld.plain.os ⟨['a'], .justOne⟩ {} "/l@".toList "default".toList
      .nolog .empty).1 = .error (.std .outOfRange) ∧
    (∃ file, (LogFile.generateData LogWorld.plain.os ⟨['a'], .justOne⟩ {}
      "/l@[time,,midnight,30]".toList "default".toList .nolog .empty).1 = .ok file) ∧
    ¬IsTriple "[time,,midnight,30]".toList := by
  refine ⟨rfl, ⟨_, rfl⟩, ?_⟩
  rintro ⟨a, b, c, _, _, _, same⟩
  cases same

end Reporting

end Dnfs
