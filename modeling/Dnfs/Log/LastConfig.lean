import Dnfs.Log.LogConfigLaws
import Dnfs.Log.LogDisk
import Dnfs.Log.LogOutput

/-! Whether an output depends on the configurations it had before. -/

namespace Dnfs

variable {σ : Type} {os : LogOs σ} {naming : LogNaming} {moduleN : Text} {logL : LogLevel}

section Entries

/-- What a parameter asks for: a log file, and the parameters it is known by. -/
def entryOf (naming : LogNaming) (moduleN : Text) (logL : LogLevel) (param : Text) :
    Except Thrown (LogFile × Text) := do
  let args ← argsStrOf param
  let parsed ← LogFile.setOptional { moduleName := moduleN } args
  return (LogFile.generateLogPath naming { parsed with
    logDirectoryPath := dirPathOf param, moduleName := moduleN, logLevel := logL }, args.getD [])

variable {param : Text} {dicts : LogDicts} {s : σ} {entry : LogFile × Text}

/-- What a parameter asks for is made of its directory and of what is in the brackets. -/
theorem entryOf_eq (asks : entryOf naming moduleN logL param = .ok entry) :
    ∃ args parsed, argsStrOf param = .ok args ∧
      LogFile.setConfig { moduleName := moduleN } param = .ok parsed ∧
      LogFile.setOptional { moduleName := moduleN } args = .ok parsed ∧
      entry = (LogFile.generateLogPath naming { parsed with
        logDirectoryPath := dirPathOf param, moduleName := moduleN, logLevel := logL },
        args.getD []) := by
  obtain ⟨args, split_, asks⟩ := bind_eq_ok.mp asks
  obtain ⟨parsed, parses, ⟨⟩⟩ := bind_eq_ok.mp asks
  exact ⟨args, parsed, split_, bind_eq_ok.mpr ⟨args, split_, parses⟩, parses, rfl⟩

/-- A log file whose directory may be used is entered. -/
theorem getLogFile_enter (asks : entryOf naming moduleN logL param = .ok entry)
    (free : (checkLogDirectory os (dirPathOf param) s).1 = none) :
    getLogFile os naming param moduleN logL dicts s =
      ((enter moduleN entry dicts).1, (enter moduleN entry dicts).2,
        (checkLogDirectory os (dirPathOf param) s).2) := by
  obtain ⟨args, parsed, split_, parses, _, rfl⟩ := entryOf_eq asks
  have checked : checkLogDirectory os (dirPathOf param) s
      = (none, (checkLogDirectory os (dirPathOf param) s).2) := Prod.ext free rfl
  rw [getLogFile, split_, LogFile.generateData, parses]
  dsimp only
  rw [checked]

/-- What is got for a parameter was asked for. -/
theorem getLogFile_ok {path : Text}
    (done : (getLogFile os naming param moduleN logL dicts s).1 = .ok path) :
    (∃ entry, entryOf naming moduleN logL param = .ok entry) ∧
      (checkLogDirectory os (dirPathOf param) s).1 = none := by
  rw [getLogFile] at done
  cases split_ : argsStrOf param with
  | error thrown =>
    rw [split_] at done
    cases done
  | ok args =>
    rw [split_] at done
    dsimp only at done
    -- What is accepted comes from a log file that was set up.
    generalize generated : LogFile.generateData os naming { moduleName := moduleN } param moduleN
      logL s = called at done
    obtain ⟨_ | logFile, t⟩ := called
    · cases done
    · obtain ⟨parsed, parses, free, _⟩ := LogFile.generateData_ok.mp (congrArg Prod.fst generated)
      rw [LogFile.setConfig, split_] at parses
      exact ⟨⟨_, bind_eq_ok.mpr ⟨args, split_, bind_eq_ok.mpr ⟨parsed, parses, rfl⟩⟩⟩, free⟩

/-- The path and the parameters make the log file. -/
theorem entryOf_injective {other : Text} {entry' : LogFile × Text}
    (asks : entryOf naming moduleN logL param = .ok entry)
    (asksToo : entryOf naming moduleN logL other = .ok entry')
    (path : entry.1.logFilePath = entry'.1.logFilePath) (args : entry.2 = entry'.2) :
    entry = entry' := by
  obtain ⟨inner, parsed, _, _, sets, rfl⟩ := entryOf_eq asks
  obtain ⟨inner', parsed', _, _, sets', rfl⟩ := entryOf_eq asksToo
  -- Empty parameters are refused, so nothing in the brackets means no brackets.
  have nothing : ∀ set, LogFile.setArgs { moduleName := moduleN } [] ≠ .ok set := by
    intro set
    rw [LogFile.setArgs_other (by decide)]
    exact nofun
  have same : inner = inner' := by
    cases inner with
    | none =>
      cases inner' with
      | none => rfl
      | some text =>
        obtain rfl : [] = text := args
        exact absurd sets' (nothing parsed')
    | some text =>
      cases inner' with
      | none =>
        obtain rfl : text = [] := args
        exact absurd sets (nothing parsed)
      | some text' => exact congrArg some args
  subst same
  obtain rfl : parsed = parsed' := Except.ok.inj (sets.symm.trans sets')
  have dir : dirPathOf param = dirPathOf other := List.append_cancel_right path
  rw [dir]

end Entries

section Dictionaries

/-- Two parameters ask for one path in different ways. -/
def Clash (naming : LogNaming) (moduleN : Text) (logL : LogLevel) (param other : Text) : Prop :=
  ∃ entry entry', entryOf naming moduleN logL param = .ok entry ∧
    entryOf naming moduleN logL other = .ok entry' ∧
    entry.1.logFilePath = entry'.1.logFilePath ∧ entry.2 ≠ entry'.2

/-- No two of some parameters do. -/
def NoClash (naming : LogNaming) (moduleN : Text) (logL : LogLevel) (params : List Text) : Prop :=
  ∀ param ∈ params, ∀ other ∈ params, ¬Clash naming moduleN logL param other

/-- The dictionaries hold just what was asked for. -/
structure Knows (naming : LogNaming) (moduleN : Text) (logL : LogLevel) (seen : List Text)
    (dicts : LogDicts) : Prop where
  sound : ∀ path entry, dicts.lookup path = some entry →
    ∃ param ∈ seen, entryOf naming moduleN logL param = .ok entry ∧ entry.1.logFilePath = path
  complete : ∀ param ∈ seen, ∀ entry, entryOf naming moduleN logL param = .ok entry →
    dicts.lookup entry.1.logFilePath = some entry

variable {param : Text} {seen : List Text} {dicts : LogDicts} {entry : LogFile × Text}

/-- Clashing goes both ways. -/
theorem Clash.symm {other : Text} (clash : Clash naming moduleN logL param other) :
    Clash naming moduleN logL other param := by
  obtain ⟨entry, entry', asks, asksToo, path, args⟩ := clash
  exact ⟨entry', entry, asksToo, asks, path.symm, args.symm⟩

/-- A parameter does not clash with itself. -/
theorem not_clash_self : ¬Clash naming moduleN logL param param := by
  rintro ⟨entry, entry', asks, asksToo, _, args⟩
  cases Except.ok.inj (asks.symm.trans asksToo)
  exact args rfl

/-- Fewer parameters clash less. -/
theorem NoClash.mono {params : List Text} (none_ : NoClash naming moduleN logL seen)
    (fewer : params ⊆ seen) : NoClash naming moduleN logL params :=
  fun param mem other mem' => none_ param (fewer mem) other (fewer mem')

/-- One more parameter does not clash if it does not clash with those before. -/
theorem noClash_append (none_ : NoClash naming moduleN logL seen)
    (free : ∀ other ∈ seen, ¬Clash naming moduleN logL other param) :
    NoClash naming moduleN logL (seen ++ [param]) := by
  intro first isFirst second isSecond clash
  -- Either may be the new one.
  rcases List.mem_append.mp isFirst with old | new
  · rcases List.mem_append.mp isSecond with old' | new'
    · exact none_ first old second old' clash
    · rw [List.mem_singleton.mp new'] at clash
      exact free first old clash
  · rw [List.mem_singleton.mp new] at clash
    rcases List.mem_append.mp isSecond with old' | new'
    · exact free second old' clash.symm
    · rw [List.mem_singleton.mp new'] at clash
      exact not_clash_self clash

/-- What does not clash is entered. -/
theorem Knows.enter (knows : Knows naming moduleN logL seen dicts)
    (asks : entryOf naming moduleN logL param = .ok entry)
    (free : ∀ other ∈ seen, ¬Clash naming moduleN logL other param) :
    (Dnfs.enter moduleN entry dicts).1 = .ok entry.1.logFilePath ∧
      Knows naming moduleN logL (seen ++ [param]) (Dnfs.enter moduleN entry dicts).2 := by
  -- What the new parameter asks for is the entry, and nothing else is to be shown for it.
  have asked : ∀ {dicts' : LogDicts}, dicts'.lookup entry.1.logFilePath = some entry →
      (∀ other ∈ seen, ∀ entry', entryOf naming moduleN logL other = .ok entry' →
        dicts'.lookup entry'.1.logFilePath = some entry') →
      ∀ other ∈ seen ++ [param], ∀ entry', entryOf naming moduleN logL other = .ok entry' →
        dicts'.lookup entry'.1.logFilePath = some entry' := by
    intro dicts' here old other mem entry' asksToo
    rcases List.mem_append.mp mem with isOld | isNew
    · exact old other isOld entry' asksToo
    · rw [List.mem_singleton.mp isNew] at asksToo
      cases Except.ok.inj (asks.symm.trans asksToo)
      exact here
  rw [Dnfs.enter]
  cases known : dicts.lookup entry.1.logFilePath with
  | none =>
    refine ⟨rfl, ?_, asked (AList.lookup_insert dicts) fun other mem entry' asksToo => ?_⟩
    · intro path entry' found
      by_cases same : path = entry.1.logFilePath
      · subst same
        rw [AList.lookup_insert] at found
        cases found
        exact ⟨param, by simp, asks, rfl⟩
      · rw [AList.lookup_insert_ne same] at found
        obtain ⟨other, mem, asksToo, isPath⟩ := knows.sound path entry' found
        exact ⟨other, List.mem_append_left _ mem, asksToo, isPath⟩
    · have there := knows.complete other mem entry' asksToo
      have differs : entry'.1.logFilePath ≠ entry.1.logFilePath := by
        intro same
        rw [same, known] at there
        cases there
      rw [AList.lookup_insert_ne differs, there]
  -- A path that is known was asked for in the same way.
  | some old =>
    obtain ⟨other, mem, asksToo, isPath⟩ := knows.sound _ _ known
    have args : old.2 = entry.2 := by
      by_contra differs
      exact free other mem ⟨old, entry, asksToo, asks, isPath, differs⟩
    obtain rfl := entryOf_injective asksToo asks isPath args
    dsimp only
    rw [if_neg (not_not.mpr rfl)]
    refine ⟨rfl, fun path entry' found => ?_, asked known knows.complete⟩
    obtain ⟨other', mem', asks', isPath'⟩ := knows.sound path entry' found
    exact ⟨other', List.mem_append_left _ mem', asks', isPath'⟩

/-- What clashes is refused. -/
theorem Knows.refuse (knows : Knows naming moduleN logL seen dicts)
    (asks : entryOf naming moduleN logL param = .ok entry) {other : Text} (mem : other ∈ seen)
    (clash : Clash naming moduleN logL other param) :
    ∃ thrown, (Dnfs.enter moduleN entry dicts).1 = .error thrown := by
  obtain ⟨known, entry', asksToo, asks', path, args⟩ := clash
  cases Except.ok.inj (asks.symm.trans asks')
  have there := knows.complete other mem known asksToo
  rw [path] at there
  rw [Dnfs.enter, there]
  dsimp only
  rw [if_pos args]
  exact ⟨_, rfl⟩

end Dictionaries

section Directories

/-- The states of the operating system in which directories may be looked at. -/
inductive Checked (os : LogOs σ) (s : σ) : σ → Prop where
  | refl : Checked os s s
  | check {t : σ} (dir : Text) (checked : Checked os s t) :
      Checked os s (checkLogDirectory os dir t).2

/-- Looking at directories, and making them, does not change which ones may be used. -/
def DirectoriesSteady (os : LogOs σ) (s : σ) : Prop :=
  ∀ t, Checked os s t → ∀ dir, (checkLogDirectory os dir t).1 = (checkLogDirectory os dir s).1

/-- On a disk where all directories are there, looking changes nothing. -/
theorem LogWorld.steady (world : LogWorld) (disk : LogDisk) : DirectoriesSteady world.os disk := by
  -- No directory is ever made.
  have still : ∀ t, Checked world.os disk t → t = disk := by
    intro t checked
    induction checked with
    | refl => rfl
    | check dir _ ih =>
      rw [checkLogDirectory]
      split <;> exact ih
  intro t checked dir
  rw [still t checked]

end Directories

section Params

/-- The words that turn something on. -/
def isSwitch (param : Text) : Bool :=
  param = "stderr".toList || param = "syslog".toList || param = "stdout".toList

/-- The three words are different. -/
theorem switches_differ : "stderr".toList ≠ "syslog".toList ∧ "stderr".toList ≠ "stdout".toList ∧
    "syslog".toList ≠ "stdout".toList := by decide

/-- The parameters that ask for log files. -/
def fileParams (params : List Text) : List Text := params.filter fun param => !isSwitch param

/-- A word that turns something on is not among them. -/
theorem fileParams_switch (params : List Text) {param : Text} (switch : isSwitch param = true) :
    fileParams (param :: params) = fileParams params :=
  List.filter_cons_of_neg (by simp [switch])

/-- Any other parameter is. -/
theorem fileParams_file (params : List Text) {param : Text} (file : isSwitch param = false) :
    fileParams (param :: params) = param :: fileParams params :=
  List.filter_cons_of_pos (by simp [file])

/-- The path that a parameter asks for. -/
def pathOf (naming : LogNaming) (moduleN : Text) (logL : LogLevel) (param : Text) : Text :=
  match entryOf naming moduleN logL param with
  | .ok entry => entry.1.logFilePath
  | .error _ => []

/-- An output after some parameters, if none is refused. -/
def LogOutputAttr.added (naming : LogNaming) (attr : LogOutputAttr) (params : List Text) :
    LogOutputAttr :=
  { attr with
    stderrOn := attr.stderrOn || decide ("stderr".toList ∈ params)
    stdoutOn := attr.stdoutOn || decide ("stdout".toList ∈ params)
    syslogOn := attr.syslogOn || decide ("syslog".toList ∈ params)
    logFiles := attr.logFiles ++
      (fileParams params).map (pathOf naming attr.moduleName attr.logLevel) }

variable {s t : σ} {attr : LogOutputAttr} {dicts : LogDicts} {seen params : List Text}

/-- All parameters for log files ask for something, in a directory that may be used. -/
def Askable (os : LogOs σ) (naming : LogNaming) (moduleN : Text) (logL : LogLevel) (s : σ)
    (params : List Text) : Prop :=
  ∀ param ∈ fileParams params, (∃ entry, entryOf naming moduleN logL param = .ok entry) ∧
    (checkLogDirectory os (dirPathOf param) s).1 = none

/-- A switch is turned on, and the loop goes on. -/
theorem addParams_switch (os : LogOs σ) (naming : LogNaming) (attr : LogOutputAttr)
    {param : Text} (switch : isSwitch param = true) :
    ∃ next : LogOutputAttr, (∀ (params : List Text) (dicts : LogDicts) (t : σ),
        attr.addParams os naming (param :: params) dicts t
          = next.addParams os naming params dicts t) ∧
      next.moduleName = attr.moduleName ∧ next.logLevel = attr.logLevel ∧
      next.logFiles = attr.logFiles ∧
      ∀ params, next.added naming params = attr.added naming (param :: params) := by
  have rest := fun params => fileParams_switch params switch
  obtain ⟨errLog, errOut, logOut⟩ := switches_differ
  simp only [isSwitch, Bool.or_eq_true, decide_eq_true_eq] at switch
  -- Each word turns on its own stream, and is none of the other two.
  rcases switch with (rfl | rfl) | rfl
  · refine ⟨{ attr with stderrOn := true },
      fun _ _ _ => by rw [LogOutputAttr.addParams, if_pos rfl], rfl, rfl, rfl, fun params => ?_⟩
    simp only [LogOutputAttr.added, rest, List.mem_cons, true_or, errLog.symm, errOut.symm,
      false_or, decide_true, Bool.or_true, Bool.true_or]
  · refine ⟨{ attr with syslogOn := true },
      fun _ _ _ => by rw [LogOutputAttr.addParams, if_neg errLog.symm, if_pos rfl],
      rfl, rfl, rfl, fun params => ?_⟩
    simp only [LogOutputAttr.added, rest, List.mem_cons, true_or, errLog, logOut.symm, false_or,
      decide_true, Bool.or_true, Bool.true_or]
  · refine ⟨{ attr with stdoutOn := true },
      fun _ _ _ => by
        rw [LogOutputAttr.addParams, if_neg errOut.symm, if_neg logOut.symm, if_pos rfl],
      rfl, rfl, rfl, fun params => ?_⟩
    simp only [LogOutputAttr.added, rest, List.mem_cons, true_or, errOut, logOut, false_or,
      decide_true, Bool.or_true, Bool.true_or]

/-- The path of a log file is put behind the others. -/
theorem added_path {param : Text} (file : isSwitch param = false) :
    LogOutputAttr.added naming { attr with
        logFiles := attr.logFiles ++ [pathOf naming attr.moduleName attr.logLevel param] } params
      = attr.added naming (param :: params) := by
  have rest := fileParams_file params file
  simp only [isSwitch, Bool.or_eq_false_iff, decide_eq_false_iff_not] at file
  have notErr := Ne.symm file.1.1
  have notLog := Ne.symm file.1.2
  have notOut := Ne.symm file.2
  simp only [LogOutputAttr.added, rest, List.map_cons, List.mem_cons, notErr, notLog, notOut,
    false_or, List.append_assoc, List.singleton_append]

/-- Any other parameter asks for a log file. -/
theorem addParams_file {param : Text} (file : isSwitch param = false) :
    attr.addParams os naming (param :: params) dicts t =
      match getLogFile os naming param attr.moduleName attr.logLevel dicts t with
      | (.error thrown, dicts, s) => (some thrown, attr, dicts, s)
      | (.ok path, dicts, s) =>
        LogOutputAttr.addParams os naming params { attr with logFiles := attr.logFiles ++ [path] }
          dicts s := by
  simp only [isSwitch, Bool.or_eq_false_iff, decide_eq_false_iff_not] at file
  refine (if_neg file.1.1).trans ?_
  refine (if_neg file.1.2).trans ?_
  exact if_neg file.2

variable (steady : DirectoriesSteady os s) (checked : Checked os s t)
include steady checked

/-- A loop over parameters throws nothing if they do not clash, and adds them then. -/
theorem addParams_run (knows : Knows naming attr.moduleName attr.logLevel seen dicts)
    (none_ : NoClash naming attr.moduleName attr.logLevel seen)
    (askable : Askable os naming attr.moduleName attr.logLevel s params) :
    ((attr.addParams os naming params dicts t).1 = none ↔
      NoClash naming attr.moduleName attr.logLevel (seen ++ fileParams params)) ∧
    ((attr.addParams os naming params dicts t).1 = none →
      (attr.addParams os naming params dicts t).2.1 = attr.added naming params ∧
      Knows naming attr.moduleName attr.logLevel (seen ++ fileParams params)
        (attr.addParams os naming params dicts t).2.2.1) ∧
    Checked os s (attr.addParams os naming params dicts t).2.2.2 := by
  -- Everything changes from turn to turn, but no parameter asks for less.
  induction params generalizing attr dicts t seen with
  | nil =>
    rw [LogOutputAttr.addParams, fileParams, List.filter_nil, List.append_nil]
    exact ⟨iff_of_true rfl none_, fun _ => ⟨by simp [LogOutputAttr.added, fileParams], knows⟩,
      checked⟩
  | cons param params ih =>
    cases switch : isSwitch param with
    | true =>
      obtain ⟨next, goes, module_, level, _, added⟩ :=
        addParams_switch os naming attr switch
      have rest := fileParams_switch params switch
      rw [rest, goes, ← added, ← module_, ← level]
      rw [← module_, ← level] at knows none_ askable
      exact ih checked knows none_ fun other mem => askable other (rest ▸ mem)
    | false =>
      have rest := fileParams_file params switch
      obtain ⟨⟨entry, asks⟩, usable⟩ := askable param (by rw [rest]; exact List.mem_cons_self)
      have free := (steady t checked (dirPathOf param)).trans usable
      have checkedNext := Checked.check (dirPathOf param) checked
      rw [addParams_file switch, getLogFile_enter asks free, rest]
      by_cases clash : ∃ other ∈ seen, Clash naming attr.moduleName attr.logLevel other param
      · -- The parameter is refused, and it does clash.
        obtain ⟨other, mem, clashes⟩ := clash
        obtain ⟨thrown, refused⟩ := knows.refuse asks mem clashes
        rw [refused]
        refine ⟨iff_of_false nofun fun all => ?_, nofun, checkedNext⟩
        exact all other (List.mem_append_left _ mem) param
          (List.mem_append_right _ List.mem_cons_self) clashes
      · have apart : ∀ other ∈ seen, ¬Clash naming attr.moduleName attr.logLevel other param :=
          fun other mem clashes => clash ⟨other, mem, clashes⟩
        obtain ⟨entered, knowsNext⟩ := knows.enter asks apart
        have path : entry.1.logFilePath = pathOf naming attr.moduleName attr.logLevel param := by
          rw [pathOf, asks]
        rw [entered, path, List.append_cons, ← added_path switch]
        exact ih checkedNext knowsNext (noClash_append none_ apart)
          fun other mem => askable other (by rw [rest]; exact List.mem_cons_of_mem param mem)

/-- Parameters that are accepted ask for something, in directories that may be used. -/
theorem askable_of_addParams (accepted : (attr.addParams os naming params dicts t).1 = none) :
    Askable os naming attr.moduleName attr.logLevel s params := by
  induction params generalizing attr dicts t with
  | nil => exact nofun
  | cons param params ih =>
    cases switch : isSwitch param with
    | true =>
      obtain ⟨next, goes, module_, level, _⟩ := addParams_switch os naming attr switch
      have rest := fileParams_switch params switch
      rw [goes] at accepted
      rw [Askable, rest, ← module_, ← level]
      exact ih checked accepted
    | false =>
      have rest := fileParams_file params switch
      rw [addParams_file switch] at accepted
      -- The path was got, so what the parameter asks for can be had.
      cases got : getLogFile os naming param attr.moduleName attr.logLevel dicts t with
      | mk result left =>
        rw [got] at accepted
        cases result with
        | error thrown => cases accepted
        | ok path =>
          obtain ⟨⟨entry, asks⟩, free⟩ := getLogFile_ok (congrArg Prod.fst got)
          have usable := (steady t checked (dirPathOf param)).symm.trans free
          rw [getLogFile_enter asks free] at got
          obtain ⟨_, rfl⟩ := Prod.mk.inj got
          have later := ih (checked.check (dirPathOf param)) accepted
          intro other mem
          rw [rest] at mem
          rcases List.mem_cons.mp mem with rfl | isLater
          · exact ⟨⟨entry, asks⟩, usable⟩
          · exact later other isLater

end Params

section Configurations

namespace LoggerState

/-- One configuration after the other, up to the first exception. -/
def setAll (os : LogOs σ) (moduleName : Text) (logLevel : LogLevel) :
    List Text → LoggerState → σ → Option Thrown × LoggerState × σ
  | [], logger, s => (none, logger, s)
  | config :: configs, logger, s =>
    match logger.setModuleLogOutput os moduleName [logLevel] config s with
    | (some thrown, logger, s) => (some thrown, logger, s)
    | (none, logger, s) => setAll os moduleName logLevel configs logger s

/-- The output of a module and level: its switches, its paths, and the log files under them. -/
def output (logger : LoggerState) (moduleName : Text) (logLevel : LogLevel) :
    Option (LogOutputAttr × List (Option LogFile)) :=
  (logger.moduleAttr.lookup moduleName).map fun levels =>
    (levels logLevel,
      (levels logLevel).logFiles.map fun path => (logger.dicts.lookup path).map Prod.fst)

/-- A logger in which a module is known and nothing was configured for a level of it. -/
def Fresh (logger : LoggerState) (moduleName : Text) (logLevel : LogLevel) : Prop :=
  (∃ levels, logger.moduleAttr.lookup moduleName = some levels ∧
      levels logLevel = { logLevel := logLevel, moduleName := moduleName }) ∧
    logger.dicts = ∅

end LoggerState

/-- The pieces of a configuration. -/
def paramsOf (config : Text) : List Text := splitStr config [':']

/-- The parameters of some configurations that ask for log files. -/
def filesOf (configs : List Text) : List Text :=
  configs.flatMap fun config => fileParams (paramsOf config)

/-- The files of one configuration are among those of all. -/
theorem fileParams_subset_filesOf {config : Text} {configs : List Text} (mem : config ∈ configs) :
    fileParams (paramsOf config) ⊆ filesOf configs :=
  fun _ isFile => List.mem_flatMap.mpr ⟨config, mem, isFile⟩

/-- An output after some configurations, if none is refused. -/
def LogOutputAttr.configured (naming : LogNaming) (attr : LogOutputAttr) (configs : List Text) :
    LogOutputAttr :=
  configs.foldl (fun attr config =>
    LogOutputAttr.added naming { attr with logFiles := [] } (paramsOf config)) attr

variable {logger : LoggerState} {levels : LogLevel → LogOutputAttr} {s t : σ} {seen : List Text}

/-- A configuration changes the output of the one level. -/
theorem setModuleLogOutput_eq (known : logger.moduleAttr.lookup moduleN = some levels)
    (config : Text) :
    logger.setModuleLogOutput os moduleN [logL] config t =
      let called := (levels logL).generateConfig os logger.naming config logger.dicts t
      (called.1, { logger with
        moduleAttr := logger.moduleAttr.insert moduleN (Function.update levels logL called.2.1)
        dicts := called.2.2.1 }, called.2.2.2) := by
  rw [LoggerState.setModuleLogOutput, known]
  dsimp only
  rw [LoggerState.setLevels]
  generalize (levels logL).generateConfig os logger.naming config logger.dicts t = called
  obtain ⟨_ | thrown, attr, dicts, left⟩ := called <;> rfl

/-- A configuration throws nothing if nothing in it clashes, and is put in place of the last. -/
theorem generateConfig_run (attr : LogOutputAttr) {config : Text} {dicts : LogDicts}
    (steady : DirectoriesSteady os s) (checked : Checked os s t)
    (knows : Knows naming attr.moduleName attr.logLevel seen dicts)
    (none_ : NoClash naming attr.moduleName attr.logLevel seen)
    (askable : Askable os naming attr.moduleName attr.logLevel s (paramsOf config)) :
    let called := attr.generateConfig os naming config dicts t
    (called.1 = none ↔ NoClash naming attr.moduleName attr.logLevel
      (seen ++ fileParams (paramsOf config))) ∧
    (called.1 = none → called.2.1 = attr.configured naming [config] ∧
      Knows naming attr.moduleName attr.logLevel (seen ++ fileParams (paramsOf config))
        called.2.2.1) ∧
    Checked os s called.2.2.2 := by
  let cleared : LogOutputAttr := { attr with logFiles := [] }
  have knowsCleared : Knows naming cleared.moduleName cleared.logLevel seen dicts := knows
  exact addParams_run steady checked knowsCleared none_ askable

/-- A module whose outputs know what they belong to. -/
def LoggerState.Holds (logger : LoggerState) (moduleN : Text) (logL : LogLevel)
    (attr : LogOutputAttr) : Prop :=
  ∃ levels, logger.moduleAttr.lookup moduleN = some levels ∧ levels logL = attr ∧
    attr.moduleName = moduleN ∧ attr.logLevel = logL

/-- Configurations one after the other throw nothing if nothing in them clashes. -/
theorem setAll_run {attr : LogOutputAttr} (steady : DirectoriesSteady os s)
    (checked : Checked os s t) (holds : logger.Holds moduleN logL attr)
    (knows : Knows logger.naming moduleN logL seen logger.dicts)
    (none_ : NoClash logger.naming moduleN logL seen) {configs : List Text}
    (askable : ∀ config ∈ configs, Askable os logger.naming moduleN logL s (paramsOf config)) :
    let called := logger.setAll os moduleN logL configs t
    (called.1 = none ↔ NoClash logger.naming moduleN logL (seen ++ filesOf configs)) ∧
    (called.1 = none → called.2.1.Holds moduleN logL (attr.configured logger.naming configs) ∧
      Knows logger.naming moduleN logL (seen ++ filesOf configs) called.2.1.dicts) := by
  -- After each configuration the output holds it, and knows its files.
  induction configs generalizing logger attr seen t with
  | nil =>
    rw [filesOf, List.flatMap_nil, List.append_nil]
    exact ⟨iff_of_true rfl none_, fun _ => ⟨holds, knows⟩⟩
  | cons config configs ih =>
    obtain ⟨levels, known, rfl, named, level⟩ := holds
    obtain ⟨accepts, adds, checkedNext⟩ :=
      generateConfig_run (levels logL) steady checked (by rw [named, level]; exact knows)
        (by rw [named, level]; exact none_)
        (by rw [named, level]; exact askable config List.mem_cons_self)
    rw [named, level] at accepts adds
    have files : seen ++ filesOf (config :: configs)
        = seen ++ fileParams (paramsOf config) ++ filesOf configs := by
      rw [filesOf, List.flatMap_cons, ← List.append_assoc, filesOf]
    rw [LoggerState.setAll, setModuleLogOutput_eq known, files]
    generalize (levels logL).generateConfig os logger.naming config logger.dicts t = called
      at accepts adds checkedNext
    obtain ⟨_ | thrown, attr, dicts, left⟩ := called
    · obtain ⟨rfl, knowsNext⟩ := adds rfl
      let next : LoggerState := { logger with
        moduleAttr := logger.moduleAttr.insert moduleN
          (Function.update levels logL ((levels logL).configured logger.naming [config]))
        dicts := dicts }
      have holdsNext : next.Holds moduleN logL ((levels logL).configured logger.naming [config]) :=
        ⟨_, AList.lookup_insert _, Function.update_self .., named, level⟩
      exact ih checkedNext holdsNext knowsNext (accepts.mp rfl)
        fun other mem => askable other (List.mem_cons_of_mem config mem)
    · -- The exception came from a clash, which stays one.
      refine ⟨iff_of_false nofun fun all => ?_, nofun⟩
      exact absurd (accepts.mpr (all.mono (List.subset_append_left _ _))) nofun

/-- Whether a word is turned on. -/
def LogOutputAttr.isOn (attr : LogOutputAttr) (word : Text) : Bool :=
  (attr.stderrOn && decide (word = "stderr".toList))
    || (attr.stdoutOn && decide (word = "stdout".toList))
    || (attr.syslogOn && decide (word = "syslog".toList))

/-- Three words are all there is to turn on. -/
theorem switches_eq_iff {attr other : LogOutputAttr} (level : attr.logLevel = other.logLevel)
    (named : attr.moduleName = other.moduleName) (files : attr.logFiles = other.logFiles) :
    attr = other ↔ ∀ word, isSwitch word = true → (attr.isOn word = true ↔ other.isOn word = true)
    := by
  constructor
  · rintro rfl word _
    exact Iff.rfl
  · intro same
    have err := same "stderr".toList (by decide)
    have out := same "stdout".toList (by decide)
    have log := same "syslog".toList (by decide)
    obtain ⟨_, _, err₁, out₁, log₁, _⟩ := attr
    obtain ⟨_, _, err₂, out₂, log₂, _⟩ := other
    obtain rfl : _ = _ := level
    obtain rfl : _ = _ := named
    obtain rfl : _ = _ := files
    obtain ⟨errLog, errOut, logOut⟩ := switches_differ
    -- Each word tells of one switch only.
    simp only [LogOutputAttr.isOn, errOut, errLog, logOut, errOut.symm, errLog.symm, logOut.symm,
      decide_false, decide_true, Bool.and_true, Bool.and_false, Bool.or_false, Bool.false_or,
      Bool.eq_iff_iff.symm] at err out log
    rw [err, out, log]

/-- What the parameters name is on. -/
theorem isOn_added (attr : LogOutputAttr) (params : List Text) {word : Text}
    (switch : isSwitch word = true) :
    (attr.added naming params).isOn word = true ↔ attr.isOn word = true ∨ word ∈ params := by
  obtain ⟨errLog, errOut, logOut⟩ := switches_differ
  simp only [isSwitch, Bool.or_eq_true, decide_eq_true_eq] at switch
  rcases switch with (rfl | rfl) | rfl <;>
    simp only [LogOutputAttr.isOn, LogOutputAttr.added, errOut, errLog, logOut, errOut.symm,
      errLog.symm, logOut.symm, decide_false, decide_true, Bool.and_true, Bool.and_false,
      Bool.or_false, Bool.false_or, Bool.or_eq_true, decide_eq_true_eq]

/-- What some configuration names is on. -/
theorem isOn_configured (attr : LogOutputAttr) (configs : List Text) {word : Text}
    (switch : isSwitch word = true) :
    (attr.configured naming configs).isOn word = true ↔
      attr.isOn word = true ∨ ∃ config ∈ configs, word ∈ paramsOf config := by
  induction configs generalizing attr with
  | nil => simp [LogOutputAttr.configured]
  | cons config configs ih =>
    -- The files are cleared before every configuration, the switches are not.
    have step : attr.configured naming (config :: configs)
        = (LogOutputAttr.added naming { attr with logFiles := [] } (paramsOf config)).configured
            naming configs := rfl
    have cleared : ({ attr with logFiles := [] } : LogOutputAttr).isOn word = attr.isOn word := rfl
    rw [step, ih, isOn_added _ _ switch, cleared, List.exists_mem_cons_iff, or_assoc]

/-- A configuration leaves an output where it belongs. -/
theorem configured_names (naming : LogNaming) (attr : LogOutputAttr) (configs : List Text) :
    (attr.configured naming configs).moduleName = attr.moduleName ∧
      (attr.configured naming configs).logLevel = attr.logLevel := by
  induction configs generalizing attr with
  | nil => exact ⟨rfl, rfl⟩
  | cons config configs ih => exact ih _

/-- The files are those of the last configuration. -/
theorem configured_files (naming : LogNaming) (attr : LogOutputAttr) (configs : List Text)
    (last : Text) :
    (attr.configured naming (configs ++ [last])).logFiles
      = (fileParams (paramsOf last)).map (pathOf naming attr.moduleName attr.logLevel) := by
  obtain ⟨named, level⟩ := configured_names naming attr configs
  rw [LogOutputAttr.configured, List.foldl_append]
  change [] ++ (fileParams (paramsOf last)).map (pathOf naming
    (attr.configured naming configs).moduleName (attr.configured naming configs).logLevel) = _
  rw [named, level, List.nil_append]

/-- With nothing on at first, the last configuration is all that counts if it names all that is. -/
theorem configured_eq_iff (attr : LogOutputAttr) (configs : List Text) (last : Text)
    (off : ∀ word, attr.isOn word = false) :
    attr.configured naming (configs ++ [last]) = attr.configured naming [last] ↔
      ∀ config ∈ configs, ∀ word ∈ paramsOf config, isSwitch word = true →
        word ∈ paramsOf last := by
  obtain ⟨named, level⟩ := configured_names naming attr (configs ++ [last])
  obtain ⟨namedLast, levelLast⟩ := configured_names naming attr [last]
  have files := (configured_files naming attr configs last).trans
    (configured_files naming attr [] last).symm
  -- A word is on if some configuration names it.
  have on : ∀ configs word, isSwitch word = true →
      ((attr.configured naming configs).isOn word = true ↔
        ∃ config ∈ configs, word ∈ paramsOf config) := by
    intro configs word switch
    rw [isOn_configured attr configs switch, off word]
    exact or_iff_right nofun
  rw [switches_eq_iff (level.trans levelLast.symm) (named.trans namedLast.symm) files]
  constructor
  · intro same config mem word inConfig switch
    have isOn := (on _ word switch).mpr ⟨config, List.mem_append_left [last] mem, inConfig⟩
    obtain ⟨_, isLast, inLast⟩ := (on _ word switch).mp ((same word switch).mp isOn)
    rw [List.mem_singleton.mp isLast] at inLast
    exact inLast
  · intro covers word switch
    rw [on _ word switch, on _ word switch]
    constructor
    · rintro ⟨config, mem, inConfig⟩
      refine ⟨last, List.mem_singleton_self last, ?_⟩
      rcases List.mem_append.mp mem with earlier | isLast
      · exact covers config earlier word inConfig switch
      · rw [← List.mem_singleton.mp isLast]
        exact inConfig
    · rintro ⟨config, mem, inConfig⟩
      exact ⟨config, List.mem_append_right configs mem, inConfig⟩

/-- One configuration by itself. -/
theorem setAll_single (os : LogOs σ) (s : σ) (moduleN : Text) (logL : LogLevel)
    (logger : LoggerState) (config : Text) :
    (logger.setAll os moduleN logL [config] s).1
        = (logger.setModuleLogOutput os moduleN [logL] config s).1 ∧
      (logger.setAll os moduleN logL [config] s).2.1
        = (logger.setModuleLogOutput os moduleN [logL] config s).2.1 := by
  rw [LoggerState.setAll]
  generalize logger.setModuleLogOutput os moduleN [logL] config s = called
  obtain ⟨_ | thrown, logger, left⟩ := called <;> exact ⟨rfl, rfl⟩

/-- What a fresh logger holds. -/
theorem LoggerState.Fresh.holds (fresh : logger.Fresh moduleN logL) :
    logger.Holds moduleN logL { logLevel := logL, moduleName := moduleN } := by
  obtain ⟨⟨levels, known, nothing⟩, _⟩ := fresh
  exact ⟨levels, known, nothing, rfl, rfl⟩

/-- It knows just what was asked for, which is nothing. -/
theorem LoggerState.Fresh.knows (fresh : logger.Fresh moduleN logL) :
    Knows naming moduleN logL [] logger.dicts := by
  rw [fresh.2]
  refine ⟨fun path entry found => ?_, fun param mem => absurd mem List.not_mem_nil⟩
  rw [AList.lookup_empty] at found
  cases found

/-- What is accepted alone asks for something, in directories that may be used. -/
theorem askable_of_alone (steady : DirectoriesSteady os s) (fresh : logger.Fresh moduleN logL)
    {config : Text}
    (alone : (logger.setModuleLogOutput os moduleN [logL] config s).1 = none) :
    Askable os logger.naming moduleN logL s (paramsOf config) := by
  obtain ⟨⟨levels, known, nothing⟩, _⟩ := fresh
  rw [setModuleLogOutput_eq known, nothing] at alone
  exact askable_of_addParams steady .refl alone

/-- The output of a module that holds it, with the log files under its paths. -/
theorem LoggerState.Holds.output {attr : LogOutputAttr} (holds : logger.Holds moduleN logL attr) :
    logger.output moduleN logL
      = some (attr, attr.logFiles.map fun path => (logger.dicts.lookup path).map Prod.fst) := by
  obtain ⟨levels, known, rfl, _⟩ := holds
  rw [LoggerState.output, known]
  rfl

/-- Two dictionaries agree on what both were asked for. -/
theorem Knows.agree {other : List Text} {dicts dicts' : LogDicts} {params : List Text}
    (knows : Knows naming moduleN logL seen dicts) (knows' : Knows naming moduleN logL other dicts')
    (here : params ⊆ seen) (there : params ⊆ other)
    (asks : ∀ param ∈ params, ∃ entry, entryOf naming moduleN logL param = .ok entry) :
    (params.map (pathOf naming moduleN logL)).map (fun path => (dicts.lookup path).map Prod.fst)
      = (params.map (pathOf naming moduleN logL)).map
          fun path => (dicts'.lookup path).map Prod.fst := by
  rw [List.map_map, List.map_map]
  refine List.map_congr_left fun param mem => ?_
  obtain ⟨entry, asked⟩ := asks param mem
  have path : pathOf naming moduleN logL param = entry.1.logFilePath := by rw [pathOf, asked]
  rw [Function.comp_apply, Function.comp_apply, path, knows.complete param (here mem) entry asked,
    knows'.complete param (there mem) entry asked]

/--
The last configuration wins just if no two configurations ask for one path in different ways
and no earlier one turns on what the last one does not name.
-/
theorem lastConfig_wins_iff (os : LogOs σ) (s : σ) (steady : DirectoriesSteady os s)
    (logger : LoggerState) (moduleN : Text) (logL : LogLevel) (fresh : logger.Fresh moduleN logL)
    (configs : List Text) (last : Text)
    (alone : ∀ config ∈ configs ++ [last],
      (logger.setModuleLogOutput os moduleN [logL] config s).1 = none) :
    ((logger.setAll os moduleN logL (configs ++ [last]) s).1 = none ∧
      (logger.setAll os moduleN logL (configs ++ [last]) s).2.1.output moduleN logL
        = (logger.setModuleLogOutput os moduleN [logL] last s).2.1.output moduleN logL) ↔
    NoClash logger.naming moduleN logL (filesOf (configs ++ [last])) ∧
      ∀ config ∈ configs, ∀ word ∈ paramsOf config, isSwitch word = true →
        word ∈ paramsOf last := by
  have askable : ∀ config ∈ configs ++ [last],
      Askable os logger.naming moduleN logL s (paramsOf config) :=
    fun config mem => askable_of_alone steady fresh (alone config mem)
  have isLast : last ∈ configs ++ [last] := by simp
  -- All configurations in a row, and the last one alone.
  obtain ⟨accepts, sets⟩ := setAll_run steady .refl fresh.holds fresh.knows nofun askable
  obtain ⟨_, setsLast⟩ := setAll_run steady .refl fresh.holds fresh.knows nofun
    (List.forall_mem_singleton.mpr (askable last isLast))
  obtain ⟨single, singleState⟩ := setAll_single os s moduleN logL logger last
  rw [single] at setsLast
  obtain ⟨holdsLast, knowsLast⟩ := setsLast (alone last isLast)
  rw [List.nil_append] at accepts sets knowsLast
  rw [← accepts, ← singleState]
  refine and_congr_right fun success => ?_
  obtain ⟨holds, knows⟩ := sets success
  -- Both have the files of the last configuration, and the dictionaries agree on these.
  let attr : LogOutputAttr := { logLevel := logL, moduleName := moduleN }
  have files := configured_files logger.naming attr configs last
  have filesLast := configured_files logger.naming attr [] last
  have agree := knows.agree knowsLast (fileParams_subset_filesOf isLast)
    (fileParams_subset_filesOf (List.mem_singleton_self last))
    fun param mem => (askable last isLast param mem).1
  rw [List.nil_append] at filesLast
  rw [holds.output, holdsLast.output, files, filesLast, agree, Option.some_inj, Prod.mk.injEq,
    and_iff_left rfl]
  -- So only the switches matter.
  exact configured_eq_iff attr configs last fun _ => rfl

/-- A logger with one module. -/
def LoggerState.single (moduleName : Text) : LoggerState where
  naming := ⟨"dnfs".toList, .justOne⟩
  moduleAttr := AList.singleton moduleName fun logLevel =>
    { logLevel := logLevel, moduleName := moduleName }
  dicts := ∅

/-- Two configurations with the same stream and the same file. -/
theorem lastConfig_wins_same :
    ((LoggerState.single "nfs".toList).setAll LogWorld.plain.os "nfs".toList .lInfo
      ["stdout:/l@(size,1kb,3)".toList, "/l@(size,1kb,3):stdout".toList] .empty).1 = none ∧
    ((LoggerState.single "nfs".toList).setAll LogWorld.plain.os "nfs".toList .lInfo
      ["stdout:/l@(size,1kb,3)".toList, "/l@(size,1kb,3):stdout".toList] .empty).2.1.output
        "nfs".toList .lInfo
      = ((LoggerState.single "nfs".toList).setModuleLogOutput LogWorld.plain.os "nfs".toList
          [.lInfo] "/l@(size,1kb,3):stdout".toList .empty).2.1.output "nfs".toList .lInfo := by
  refine (lastConfig_wins_iff LogWorld.plain.os .empty (LogWorld.steady _ _) (.single "nfs".toList)
    "nfs".toList .lInfo ⟨⟨_, rfl, rfl⟩, rfl⟩ ["stdout:/l@(size,1kb,3)".toList]
    "/l@(size,1kb,3):stdout".toList (by decide)).mpr ⟨?_, by decide⟩
  -- Both ask for the same file in the same way.
  have same : ∀ param ∈ filesOf (["stdout:/l@(size,1kb,3)".toList]
      ++ ["/l@(size,1kb,3):stdout".toList]), param = "/l@(size,1kb,3)".toList := by decide
  intro param mem other mem'
  rw [same param mem, same other mem']
  exact not_clash_self

/-- What an earlier configuration turned on stays on, and other settings for a path are refused. -/
theorem lastConfig_wins_fails :
    (∀ config ∈ ["stderr".toList, "stdout".toList, "/l@(time,day,3)".toList,
        "/l@(time,hour,3)".toList],
      ((LoggerState.single "nfs".toList).setModuleLogOutput LogWorld.plain.os "nfs".toList
        [.lInfo] config .empty).1 = none) ∧
    ((LoggerState.single "nfs".toList).setAll LogWorld.plain.os "nfs".toList .lInfo
      ["stderr".toList, "stdout".toList] .empty).2.1.output "nfs".toList .lInfo
      ≠ ((LoggerState.single "nfs".toList).setModuleLogOutput LogWorld.plain.os "nfs".toList
          [.lInfo] "stdout".toList .empty).2.1.output "nfs".toList .lInfo ∧
    ((LoggerState.single "nfs".toList).setAll LogWorld.plain.os "nfs".toList .lInfo
      ["/l@(time,day,3)".toList, "/l@(time,hour,3)".toList] .empty).1 ≠ none := by
  decide

end Configurations

end Dnfs
