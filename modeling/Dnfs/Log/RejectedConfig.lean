import Dnfs.Log.LastConfig

/-! What a configuration that is rejected leaves behind. -/

namespace Dnfs

variable {σ : Type} {os : LogOs σ} {naming : LogNaming} {moduleN : Text} {logL : LogLevel}
  {s t : σ} {dicts dicts' : LogDicts} {param : Text} {params : List Text} {attr : LogOutputAttr}

section Parameters

/-- Whether a parameter is accepted, by what is known and what may be used. -/
def acceptsParam (os : LogOs σ) (naming : LogNaming) (moduleN : Text) (logL : LogLevel)
    (dicts : LogDicts) (s : σ) (param : Text) : Bool :=
  isSwitch param ||
    match entryOf naming moduleN logL param with
    | .error _ => false
    | .ok entry =>
      (checkLogDirectory os (dirPathOf param) s).1.isNone &&
        (dicts.lookup entry.1.logFilePath).all fun known => known.2 = entry.2

/-- A log file that is known under its path, with the parameters asked for. -/
def AlreadyKnown (os : LogOs σ) (naming : LogNaming) (moduleN : Text) (logL : LogLevel)
    (dicts : LogDicts) (s : σ) (param : Text) : Prop :=
  ∃ entry known, entryOf naming moduleN logL param = .ok entry ∧
    (checkLogDirectory os (dirPathOf param) s).1 = none ∧
    dicts.lookup entry.1.logFilePath = some known ∧ known.2 = entry.2

/-- A dictionary keeps what it has. -/
def Grows (dicts dicts' : LogDicts) : Prop :=
  ∀ path entry, dicts.lookup path = some entry → dicts'.lookup path = some entry

/-- A dictionary keeps all it has if nothing is done. -/
theorem Grows.refl : Grows dicts dicts := fun _ _ found => found

/-- What is kept twice is kept. -/
theorem Grows.trans {dicts'' : LogDicts} (first : Grows dicts dicts')
    (second : Grows dicts' dicts'') : Grows dicts dicts'' :=
  fun path entry found => second path entry (first path entry found)

/-- Entering a path that is unknown keeps all others. -/
theorem Grows.insert {path : Text} {entry : LogFile × Text} (unknown : dicts.lookup path = none) :
    Grows dicts (dicts.insert path entry) := by
  intro other found there
  have differs : other ≠ path := by
    -- The path entered was unknown, and this one is known.
    rintro rfl
    rw [unknown] at there
    cases there
  rw [AList.lookup_insert_ne differs, there]

/-- What is known stays known as the dictionary grows. -/
theorem AlreadyKnown.mono (known : AlreadyKnown os naming moduleN logL dicts s param)
    (grows : Grows dicts dicts') : AlreadyKnown os naming moduleN logL dicts' s param := by
  obtain ⟨entry, there, asks, usable, found, args⟩ := known
  exact ⟨entry, there, asks, usable, grows _ _ found, args⟩

/-- What is known with the same parameters is accepted. -/
theorem AlreadyKnown.acceptsParam (known : AlreadyKnown os naming moduleN logL dicts s param) :
    acceptsParam os naming moduleN logL dicts s param = true := by
  obtain ⟨entry, there, asks, usable, found, args⟩ := known
  simp [Dnfs.acceptsParam, asks, usable, found, args]

/-- What is known has a path that is known. -/
theorem AlreadyKnown.pathOf (known : AlreadyKnown os naming moduleN logL dicts s param) :
    (dicts.lookup (pathOf naming moduleN logL param)).isSome := by
  obtain ⟨entry, there, asks, _, found, _⟩ := known
  rw [Dnfs.pathOf, asks]
  exact Option.isSome_of_mem found

/-- What asks for nothing is refused at once. -/
theorem getLogFile_refuse {thrown : Thrown}
    (refuses : entryOf naming moduleN logL param = .error thrown) :
    getLogFile os naming param moduleN logL dicts t = (.error thrown, dicts, t) := by
  rw [entryOf] at refuses
  rw [getLogFile]
  -- Neither way to fail comes as far as the directory.
  cases split_ : argsStrOf param with
  | error thrown' =>
    rw [split_] at refuses
    cases refuses
    rfl
  | ok args =>
    rw [split_] at refuses
    change (LogFile.setOptional { moduleName := moduleN } args >>= _) = _ at refuses
    cases parses : LogFile.setOptional { moduleName := moduleN } args with
    | ok parsed =>
      rw [parses] at refuses
      cases refuses
    | error thrown' =>
      rw [parses] at refuses
      cases refuses
      have stops : LogFile.setConfig { moduleName := moduleN } param = .error thrown := by
        rw [LogFile.setConfig, split_]
        exact parses
      dsimp only
      rw [LogFile.generateData, stops]

/-- A directory that may not be used is refused after it was looked at. -/
theorem getLogFile_unusable {thrown : Thrown} {entry : LogFile × Text}
    (asks : entryOf naming moduleN logL param = .ok entry)
    (refused : (checkLogDirectory os (dirPathOf param) t).1 = some thrown) :
    getLogFile os naming param moduleN logL dicts t
      = (.error thrown, dicts, (checkLogDirectory os (dirPathOf param) t).2) := by
  obtain ⟨args, parsed, split_, parses, _, rfl⟩ := entryOf_eq asks
  have checked : checkLogDirectory os (dirPathOf param) t
      = (some thrown, (checkLogDirectory os (dirPathOf param) t).2) := Prod.ext refused rfl
  rw [getLogFile, split_, LogFile.generateData, parses]
  dsimp only
  rw [checked]

/-- What comes of asking for a log file, judged by the state at the start. -/
inductive Asked (os : LogOs σ) (naming : LogNaming) (moduleN : Text) (logL : LogLevel)
    (dicts : LogDicts) (s : σ) (param : Text) : Except Thrown Text × LogDicts × σ → Prop where
  | refused {thrown : Thrown} {t : σ} (checked : Checked os s t)
      (not_ : acceptsParam os naming moduleN logL dicts s param = false) :
      Asked os naming moduleN logL dicts s param (.error thrown, dicts, t)
  | known {t : σ} (checked : Checked os s t)
      (there : AlreadyKnown os naming moduleN logL dicts s param) :
      Asked os naming moduleN logL dicts s param (.ok (pathOf naming moduleN logL param), dicts, t)
  | entered {t : σ} {entry : LogFile × Text} (checked : Checked os s t)
      (accepted : acceptsParam os naming moduleN logL dicts s param = true)
      (unknown : dicts.lookup (pathOf naming moduleN logL param) = none)
      (there : AlreadyKnown os naming moduleN logL
        (dicts.insert (pathOf naming moduleN logL param) entry) s param) :
      Asked os naming moduleN logL dicts s param
        (.ok (pathOf naming moduleN logL param),
          dicts.insert (pathOf naming moduleN logL param) entry, t)

/-- Asking for a log file has one of the three outcomes. -/
theorem getLogFile_asked (naming : LogNaming) (moduleN : Text) (logL : LogLevel) (dicts : LogDicts)
    (steady : DirectoriesSteady os s) (checked : Checked os s t) (file : isSwitch param = false) :
    Asked os naming moduleN logL dicts s param
      (getLogFile os naming param moduleN logL dicts t) := by
  have checkedNext := Checked.check (dirPathOf param) checked
  have usable := steady t checked (dirPathOf param)
  -- One case for each exit of the source.
  cases asks : entryOf naming moduleN logL param with
  | error thrown =>
    rw [getLogFile_refuse asks]
    exact .refused checked (by simp [acceptsParam, file, asks])
  | ok entry =>
    cases used : (checkLogDirectory os (dirPathOf param) s).1 with
    | some thrown =>
      rw [getLogFile_unusable asks (usable.trans used)]
      exact .refused checkedNext (by simp [acceptsParam, file, asks, used])
    | none =>
      have path : pathOf naming moduleN logL param = entry.1.logFilePath := by rw [pathOf, asks]
      rw [getLogFile_enter asks (usable.trans used), enter]
      -- Only now does it matter what is known under the path.
      cases found : dicts.lookup entry.1.logFilePath with
      | none =>
        have outcome := Asked.entered checkedNext
          (by simp [acceptsParam, asks, used, found]) (path ▸ found)
          ⟨entry, entry, asks, used, by rw [path]; exact AList.lookup_insert dicts, rfl⟩
        rw [path] at outcome
        exact outcome
      | some known =>
        by_cases same : known.2 = entry.2
        · have outcome := Asked.known checkedNext
            (⟨entry, known, asks, used, found, same⟩ : AlreadyKnown os naming moduleN logL dicts s
              param)
          rw [path] at outcome
          dsimp only
          rw [if_neg (not_not.mpr same)]
          exact outcome
        · dsimp only
          rw [if_pos same]
          exact .refused checkedNext (by simp [acceptsParam, file, asks, used, found, same])

end Parameters

section Loop

/-- An output whose log files are all known. -/
def LogOutputAttr.Linked (dicts : LogDicts) (attr : LogOutputAttr) : Prop :=
  ∀ path ∈ attr.logFiles, (dicts.lookup path).isSome

/-- What a loop over parameters keeps, however it ends. -/
structure AddsOnly (os : LogOs σ) (s : σ) (attr : LogOutputAttr) (dicts : LogDicts)
    (called : OutputCalled σ) : Prop where
  files : attr.logFiles ⊆ called.2.1.logFiles
  grows : Grows dicts called.2.2.1
  linked : attr.Linked dicts → called.2.1.Linked called.2.2.1
  checked : Checked os s called.2.2.2

/-- Outputs stay linked as the dictionary grows. -/
theorem Grows.linked (grows : Grows dicts dicts') (linked : attr.Linked dicts) :
    attr.Linked dicts' := by
  intro path mem
  obtain ⟨entry, found⟩ := Option.isSome_iff_exists.mp (linked path mem)
  exact Option.isSome_of_mem (grows path entry found)

/-- A loop that goes on with one path more keeps what the whole loop has to keep. -/
theorem AddsOnly.cons {path : Text} {called : OutputCalled σ} (grows : Grows dicts dicts')
    (known : (dicts'.lookup path).isSome)
    (rest : AddsOnly os s { attr with logFiles := attr.logFiles ++ [path] } dicts' called) :
    AddsOnly os s attr dicts called := by
  refine ⟨fun other mem => rest.files (List.mem_append_left _ mem), grows.trans rest.grows,
    fun linked => rest.linked ?_, rest.checked⟩
  intro other mem
  -- The one new path is known by now.
  rcases List.mem_append.mp mem with old | new
  · exact grows.linked linked other old
  · rw [List.mem_singleton.mp new]
    exact known

/-- The parameters before the first one that is not accepted. -/
def acceptedPart (os : LogOs σ) (naming : LogNaming) (attr : LogOutputAttr) (dicts : LogDicts)
    (s : σ) (params : List Text) : List Text :=
  params.takeWhile (acceptsParam os naming attr.moduleName attr.logLevel dicts s)

/-- A loop took the accepted part and entered nothing, or it entered a path of that part. -/
def TookAccepted (os : LogOs σ) (naming : LogNaming) (attr : LogOutputAttr) (dicts : LogDicts)
    (s : σ) (params : List Text) (called : OutputCalled σ) : Prop :=
  let part := acceptedPart os naming attr dicts s params
  (called.2.1 = attr.added naming part ∧ called.2.2.1 = dicts ∧
      (called.1 = none ↔ part = params)) ∨
    ∃ path, dicts.lookup path = none ∧ path ∈ called.2.1.logFiles ∧
      path ∈ (attr.added naming part).logFiles

/-- A parameter that is accepted belongs to the accepted part. -/
theorem acceptedPart_cons
    (accepted : acceptsParam os naming attr.moduleName attr.logLevel dicts s param = true) :
    acceptedPart os naming attr dicts s (param :: params)
      = param :: acceptedPart os naming attr dicts s params :=
  List.takeWhile_cons_of_pos accepted

/-- A parameter that is accepted and known is left to the rest of the loop. -/
theorem TookAccepted.cons {next : LogOutputAttr} {called : OutputCalled σ}
    (rest : TookAccepted os naming next dicts s params called)
    (accepted : acceptsParam os naming attr.moduleName attr.logLevel dicts s param = true)
    (module_ : next.moduleName = attr.moduleName) (level : next.logLevel = attr.logLevel)
    (adds : ∀ part, next.added naming part = attr.added naming (param :: part)) :
    TookAccepted os naming attr dicts s (param :: params) called := by
  have part : acceptedPart os naming next dicts s params
      = acceptedPart os naming attr dicts s params := by
    rw [acceptedPart, module_, level, acceptedPart]
  rw [TookAccepted, part, adds] at rest
  rw [TookAccepted, acceptedPart_cons accepted]
  simpa only [List.cons.injEq, true_and] using rest

variable (steady : DirectoriesSteady os s) (checked : Checked os s t)
include steady checked

/-- Every loop over parameters adds only. -/
theorem addParams_addsOnly :
    AddsOnly os s attr dicts (attr.addParams os naming params dicts t) := by
  -- The loop goes on with another output, dictionary and state.
  induction params generalizing attr dicts t with
  | nil => exact ⟨fun _ mem => mem, .refl, fun linked => linked, checked⟩
  | cons param params ih =>
    cases switch : isSwitch param with
    | true =>
      -- A stream is turned on, which no file depends on.
      obtain ⟨next, goes, _, _, files, _⟩ := addParams_switch os naming attr switch
      have kept : AddsOnly os s next dicts (next.addParams os naming params dicts t) := ih checked
      obtain ⟨more, grows, linked, checkedNext⟩ := kept
      rw [goes]
      rw [LogOutputAttr.Linked, files] at linked
      exact ⟨files ▸ more, grows, linked, checkedNext⟩
    | false =>
      have asked :=
        getLogFile_asked naming attr.moduleName attr.logLevel dicts steady checked switch
      rw [addParams_file switch]
      generalize getLogFile os naming param attr.moduleName attr.logLevel dicts t = called at asked
      cases asked with
      | refused checkedNext _ =>
        exact ⟨fun _ mem => mem, .refl, fun linked => linked, checkedNext⟩
      | known checkedNext there => exact .cons .refl there.pathOf (ih checkedNext)
      | entered checkedNext _ unknown there =>
        exact .cons (.insert unknown) there.pathOf (ih checkedNext)

/-- A loop that throws nothing takes all parameters, and knows them then. -/
theorem addParams_done (done : (attr.addParams os naming params dicts t).1 = none) :
    (attr.addParams os naming params dicts t).2.1 = attr.added naming params ∧
      ∀ param ∈ fileParams params, AlreadyKnown os naming attr.moduleName attr.logLevel
        (attr.addParams os naming params dicts t).2.2.1 s param := by
  induction params generalizing attr dicts t with
  | nil => exact ⟨by simp [LogOutputAttr.added, fileParams, LogOutputAttr.addParams], nofun⟩
  | cons param params ih =>
    cases switch : isSwitch param with
    | true =>
      obtain ⟨next, goes, module_, level, _, added⟩ :=
        addParams_switch os naming attr switch
      rw [goes] at done ⊢
      rw [fileParams_switch params switch, ← module_, ← level, ← added]
      exact ih checked done
    | false =>
      have asked :=
        getLogFile_asked naming attr.moduleName attr.logLevel dicts steady checked switch
      -- The parameter is known when the rest is looked at, and stays so.
      have next : ∀ {dicts' : LogDicts} {t' : σ}, Checked os s t' →
          AlreadyKnown os naming attr.moduleName attr.logLevel dicts' s param →
          let called := LogOutputAttr.addParams os naming params { attr with
            logFiles := attr.logFiles ++ [pathOf naming attr.moduleName attr.logLevel param] }
            dicts' t'
          called.1 = none → called.2.1 = attr.added naming (param :: params) ∧
            ∀ param' ∈ fileParams (param :: params), AlreadyKnown os naming attr.moduleName
              attr.logLevel called.2.2.1 s param' := by
        intro dicts' t' checkedNext there called done
        obtain ⟨adds, knows⟩ := ih checkedNext done
        refine ⟨adds.trans (added_path switch), fun param' mem => ?_⟩
        rw [fileParams_file params switch] at mem
        rcases List.mem_cons.mp mem with rfl | later
        · exact there.mono (addParams_addsOnly steady checkedNext).grows
        · exact knows param' later
      rw [addParams_file switch] at done ⊢
      generalize getLogFile os naming param attr.moduleName attr.logLevel dicts t = called
        at asked done
      cases asked with
      -- A refusal throws, so the loop was not done.
      | refused => cases done
      | known checkedNext there | entered checkedNext _ _ there => exact next checkedNext there done

/-- Every loop over parameters does so. -/
theorem addParams_accepted :
    TookAccepted os naming attr dicts s params (attr.addParams os naming params dicts t) := by
  induction params generalizing attr t with
  | nil =>
    refine .inl ⟨?_, rfl, iff_of_true rfl rfl⟩
    simp [LogOutputAttr.addParams, LogOutputAttr.added, acceptedPart, fileParams]
  | cons param params ih =>
    cases switch : isSwitch param with
    | true =>
      obtain ⟨next, goes, module_, level, _, adds⟩ := addParams_switch os naming attr switch
      rw [goes]
      exact (ih checked).cons (by simp [acceptsParam, switch]) module_ level adds
    | false =>
      have asked :=
        getLogFile_asked naming attr.moduleName attr.logLevel dicts steady checked switch
      rw [addParams_file switch]
      generalize getLogFile os naming param attr.moduleName attr.logLevel dicts t = called at asked
      cases asked with
      -- The loop ends here, and so does the accepted part.
      | refused checkedNext not_ =>
        have part : acceptedPart os naming attr dicts s (param :: params) = [] :=
          List.takeWhile_cons_of_neg (by simp [not_])
        rw [TookAccepted, part]
        refine .inl ⟨?_, rfl, iff_of_false (Option.some_ne_none _) (List.cons_ne_nil _ _).symm⟩
        simp [LogOutputAttr.added, fileParams]
      | known checkedNext there =>
        exact (ih checkedNext).cons there.acceptsParam rfl rfl fun _ => added_path switch
      | entered checkedNext accepted unknown there =>
        -- What is entered is added at once, and nothing takes it away again.
        refine .inr ⟨pathOf naming attr.moduleName attr.logLevel param, unknown, ?_, ?_⟩
        · exact (addParams_addsOnly steady checkedNext).files (by simp)
        · rw [acceptedPart_cons accepted, ← added_path switch]
          simp [LogOutputAttr.added]

end Loop

section Outputs

variable {config : Text}

/-- An output without its log files. -/
def LogOutputAttr.cleared (attr : LogOutputAttr) : LogOutputAttr := { attr with logFiles := [] }

/-- An output is already as the accepted part of a configuration makes it. -/
def Settled (os : LogOs σ) (naming : LogNaming) (dicts : LogDicts) (s : σ) (config : Text)
    (attr : LogOutputAttr) : Prop :=
  attr.cleared.added naming (acceptedPart os naming attr dicts s (paramsOf config)) = attr

instance (os : LogOs σ) (naming : LogNaming) (dicts : LogDicts) (s : σ) (config : Text)
    (attr : LogOutputAttr) : Decidable (Settled os naming dicts s config attr) :=
  inferInstanceAs (Decidable (_ = _))

/-- A configuration is a loop over its parameters, with the files cleared before. -/
theorem generateConfig_eq (attr : LogOutputAttr) :
    attr.generateConfig os naming config dicts t
      = attr.cleared.addParams os naming (paramsOf config) dicts t := rfl

/-- An output without log files is linked to any dictionary. -/
theorem LogOutputAttr.cleared_linked (attr : LogOutputAttr) (dicts : LogDicts) :
    attr.cleared.Linked dicts := nofun

/-- To add what was added already changes nothing. -/
theorem added_cleared_added (attr : LogOutputAttr) (params : List Text) :
    (attr.cleared.added naming params).cleared.added naming params
      = attr.cleared.added naming params := by
  simp [LogOutputAttr.added, LogOutputAttr.cleared]

variable (steady : DirectoriesSteady os s) (checked : Checked os s t)
include steady checked

/-- An output stays as it is just if it is settled, and nothing is entered then. -/
theorem generateConfig_eq_iff (naming : LogNaming) (config : Text) (linked : attr.Linked dicts) :
    let called := attr.generateConfig os naming config dicts t
    (called.2.1 = attr ↔ Settled os naming dicts s config attr) ∧
      (called.2.1 = attr → called.2.2.1 = dicts ∧
        (called.1 = none ↔
          acceptedPart os naming attr dicts s (paramsOf config) = paramsOf config)) := by
  have took : TookAccepted os naming attr.cleared dicts s (paramsOf config)
      (attr.generateConfig os naming config dicts t) := addParams_accepted steady checked
  rcases took with ⟨adds, same, done⟩ | ⟨path, unknown, inCalled, inPart⟩
  · exact ⟨by rw [adds]; exact Iff.rfl, fun _ => ⟨same, done⟩⟩
  · -- A path that was entered just now is in no output of before.
    have outside : ∀ {other : LogOutputAttr}, path ∈ other.logFiles → other ≠ attr := by
      rintro other mem rfl
      have known := linked path mem
      rw [unknown] at known
      cases known
    exact ⟨iff_of_false (outside inCalled) (outside inPart), fun eq => absurd eq (outside inCalled)⟩

/-- A configuration that throws nothing leaves all its parameters known. -/
theorem generateConfig_done (done : (attr.generateConfig os naming config dicts t).1 = none) :
    (attr.generateConfig os naming config dicts t).2.1 = attr.cleared.added naming (paramsOf config)
      ∧ ∀ param ∈ fileParams (paramsOf config), AlreadyKnown os naming attr.moduleName attr.logLevel
        (attr.generateConfig os naming config dicts t).2.2.1 s param := by
  rw [generateConfig_eq] at done ⊢
  exact addParams_done steady checked done

/-- What was configured once stays, if the same configuration comes again. -/
theorem generateConfig_again (made : attr.cleared.added naming (paramsOf config) = attr)
    (knows : ∀ param ∈ fileParams (paramsOf config),
      AlreadyKnown os naming attr.moduleName attr.logLevel dicts s param) :
    (attr.generateConfig os naming config dicts t).2.1 = attr := by
  -- All parameters are accepted, and their paths are known.
  have part : acceptedPart os naming attr dicts s (paramsOf config) = paramsOf config := by
    refine List.takeWhile_eq_self_iff.mpr fun param mem => ?_
    cases switch : isSwitch param with
    | true => simp [acceptsParam, switch]
    | false => exact (knows param (List.mem_filter.mpr ⟨mem, by simp [switch]⟩)).acceptsParam
  have linked : attr.Linked dicts := by
    intro path mem
    rw [← made] at mem
    obtain ⟨param, asked, rfl⟩ := List.mem_map.mp mem
    exact (knows param asked).pathOf
  refine (generateConfig_eq_iff steady checked naming config linked).1.mpr ?_
  rw [Settled, part, made]

end Outputs

section Loggers

variable {config : Text} {pair : Text × LogLevel} {pairs : List (Text × LogLevel)}
  {logger next : LoggerState}

namespace LoggerState

/-- The output of a module and level, without the log files under its paths. -/
def attrAt (logger : LoggerState) (pair : Text × LogLevel) : Option LogOutputAttr :=
  (logger.moduleAttr.lookup pair.1).map fun levels => levels pair.2

/-- All outputs have log files that are known. -/
def Linked (logger : LoggerState) : Prop :=
  ∀ pair attr, logger.attrAt pair = some attr → attr.Linked logger.dicts

/-- Configure one level of one module. -/
def setPair (os : LogOs σ) (config : Text) (pair : Text × LogLevel) (logger : LoggerState)
    (s : σ) : Option Thrown × LoggerState × σ :=
  match logger.moduleAttr.lookup pair.1 with
  | none => (none, logger, s)
  | some levels =>
    let called := (levels pair.2).generateConfig os logger.naming config logger.dicts s
    (called.1, { logger with
      moduleAttr := logger.moduleAttr.insert pair.1 (Function.update levels pair.2 called.2.1)
      dicts := called.2.2.1 }, called.2.2.2)

/-- Configure some levels of some modules, up to the first exception. -/
def setPairs (os : LogOs σ) (config : Text) :
    List (Text × LogLevel) → LoggerState → σ → Option Thrown × LoggerState × σ
  | [], logger, s => (none, logger, s)
  | pair :: pairs, logger, s =>
    match logger.setPair os config pair s with
    | (some thrown, logger, s) => (some thrown, logger, s)
    | (none, logger, s) => setPairs os config pairs logger s

/--
The outputs are settled one after the other, as far as the configuration is accepted for those
before.
-/
def Unharmed (os : LogOs σ) (s : σ) (config : Text) (logger : LoggerState) :
    List (Text × LogLevel) → Prop
  | [] => True
  | pair :: pairs =>
    match logger.attrAt pair with
    | none => Unharmed os s config logger pairs
    | some attr => Settled os logger.naming logger.dicts s config attr ∧
        (acceptedPart os logger.naming attr logger.dicts s (paramsOf config) = paramsOf config →
          Unharmed os s config logger pairs)

/-- Two loggers have the same outputs and know the same log files. -/
structure Alike (logger next : LoggerState) : Prop where
  naming : next.naming = logger.naming
  attr : ∀ pair, next.attrAt pair = logger.attrAt pair
  dicts : next.dicts = logger.dicts

end LoggerState

/-- Nothing is configured for a module that does not exist. -/
theorem setPair_missing (missing : logger.attrAt pair = none) :
    logger.setPair os config pair t = (none, logger, t) := by
  have unknown : logger.moduleAttr.lookup pair.1 = none := Option.map_eq_none_iff.mp missing
  rw [LoggerState.setPair, unknown]

/-- A configuration changes one output, and enters its log files. -/
theorem setPair_there (os : LogOs σ) (config : Text) (t : σ)
    (there : logger.attrAt pair = some attr) :
    let called := attr.generateConfig os logger.naming config logger.dicts t
    ∃ after, logger.setPair os config pair t = (called.1, after, called.2.2.2) ∧
      after.naming = logger.naming ∧ after.dicts = called.2.2.1 ∧
      after.attrAt pair = some called.2.1 ∧
      ∀ other, other ≠ pair → after.attrAt other = logger.attrAt other := by
  intro called
  obtain ⟨levels, known, rfl⟩ := Option.map_eq_some_iff.mp there
  refine ⟨{ logger with
    moduleAttr := logger.moduleAttr.insert pair.1 (Function.update levels pair.2 called.2.1)
    dicts := called.2.2.1 }, by rw [LoggerState.setPair, known], rfl, rfl, ?_, ?_⟩
  · rw [LoggerState.attrAt, AList.lookup_insert, Option.map_some, Function.update_self]
  · intro other differs
    rw [LoggerState.attrAt, LoggerState.attrAt]
    -- Another level of the same module is in the same entry.
    by_cases same : other.1 = pair.1
    · have level : other.2 ≠ pair.2 := fun level => differs (Prod.ext same level)
      rw [same, AList.lookup_insert, known, Option.map_some, Option.map_some,
        Function.update_of_ne level]
    · rw [AList.lookup_insert_ne same]

/-- What configuring keeps, however it ends. -/
structure LoggerState.Kept (os : LogOs σ) (s : σ) (logger : LoggerState)
    (called : LoggerState × σ) : Prop where
  naming : called.1.naming = logger.naming
  grows : Grows logger.dicts called.1.dicts
  linked : logger.Linked → called.1.Linked
  checked : Checked os s called.2

/-- What two calls keep is kept over both. -/
theorem LoggerState.Kept.trans {t : σ} {called : LoggerState × σ}
    (first : logger.Kept os s (next, t)) (second : next.Kept os s called) :
    logger.Kept os s called :=
  ⟨second.naming.trans first.naming, first.grows.trans second.grows,
    fun linked => second.linked (first.linked linked), second.checked⟩

/-- A module and level were configured in full. -/
structure LoggerState.Made (os : LogOs σ) (s : σ) (config : Text) (pair : Text × LogLevel)
    (attr : LogOutputAttr) (logger : LoggerState) : Prop where
  there : logger.attrAt pair = some attr
  made : attr.cleared.added logger.naming (paramsOf config) = attr
  knows : ∀ param ∈ fileParams (paramsOf config),
    AlreadyKnown os logger.naming attr.moduleName attr.logLevel logger.dicts s param

variable (steady : DirectoriesSteady os s) (checked : Checked os s t)
include steady checked

/-- Configuring one output keeps the names, what is known and the links. -/
theorem setPair_kept : logger.Kept os s (logger.setPair os config pair t).2 := by
  cases there : logger.attrAt pair with
  | none =>
    rw [setPair_missing there]
    exact ⟨rfl, .refl, fun linked => linked, checked⟩
  | some attr =>
    obtain ⟨after, sets, naming, dicts, here, others⟩ := setPair_there os config t there
    have adds : AddsOnly os s attr.cleared logger.dicts
        (attr.generateConfig os logger.naming config logger.dicts t) :=
      addParams_addsOnly steady checked
    rw [sets]
    refine ⟨naming, by rw [dicts]; exact adds.grows, fun linked other attr' at' => ?_,
      adds.checked⟩
    rw [dicts]
    -- The output itself was cleared first, and the others are as before.
    by_cases same : other = pair
    · subst same
      cases here.symm.trans at'
      exact adds.linked (attr.cleared_linked logger.dicts)
    · exact adds.grows.linked (linked other attr' ((others other same).symm.trans at'))

/-- Configuring keeps over a whole run what it keeps in a step. -/
theorem setPairs_kept : logger.Kept os s (logger.setPairs os config pairs t).2 := by
  induction pairs generalizing logger t with
  | nil => exact ⟨rfl, .refl, fun linked => linked, checked⟩
  | cons pair pairs ih =>
    have kept : logger.Kept os s (logger.setPair os config pair t).2 := setPair_kept steady checked
    rw [LoggerState.setPairs]
    generalize logger.setPair os config pair t = called at kept
    obtain ⟨_ | thrown, next, t'⟩ := called
    · exact kept.trans (ih kept.checked)
    · -- The loop ended with this exception.
      exact kept

/-- What is configured without an exception is configured in full. -/
theorem made_of_setPair (config : Text) (there : logger.attrAt pair = some attr)
    (done : (logger.setPair os config pair t).1 = none) :
    (logger.setPair os config pair t).2.1.Made os s config pair
      (attr.generateConfig os logger.naming config logger.dicts t).2.1 := by
  obtain ⟨after, sets, naming, dicts, here, _⟩ := setPair_there os config t there
  rw [sets] at done ⊢
  obtain ⟨adds, knows⟩ := generateConfig_done steady checked done
  refine ⟨here, ?_, ?_⟩
  · rw [naming, adds, added_cleared_added]
  · rw [naming, dicts, adds]
    exact knows

/-- What was configured in full stays. -/
theorem LoggerState.Made.setPair (made : logger.Made os s config pair attr)
    (other : Text × LogLevel) :
    (logger.setPair os config other t).2.1.Made os s config pair attr := by
  have kept : logger.Kept os s (logger.setPair os config other t).2 := setPair_kept steady checked
  refine ⟨?_, by rw [kept.naming]; exact made.made, fun param mem => ?_⟩
  · -- Its own turn configures it again, the others are about other outputs.
    by_cases same : other = pair
    · subst same
      obtain ⟨after, sets, _, _, here, _⟩ := setPair_there os config t made.there
      rw [sets, here, generateConfig_again steady checked made.made made.knows]
    · cases there : logger.attrAt other with
      | none => rw [setPair_missing there, made.there]
      | some attr' =>
        obtain ⟨after, sets, _, _, _, others⟩ := setPair_there os config t there
        rw [sets, others pair (Ne.symm same), made.there]
  · rw [kept.naming]
    exact (made.knows param mem).mono kept.grows

/-- What was configured in full stays over a whole loop. -/
theorem LoggerState.Made.setPairs (made : logger.Made os s config pair attr) :
    (logger.setPairs os config pairs t).2.1.attrAt pair = some attr := by
  -- Every turn leaves it as it is, also the one that throws.
  induction pairs generalizing logger t with
  | nil => exact made.there
  | cons other pairs ih =>
    have kept : logger.Kept os s (logger.setPair os config other t).2 := setPair_kept steady checked
    have stays := made.setPair steady checked other
    rw [LoggerState.setPairs]
    generalize logger.setPair os config other t = called at kept stays
    obtain ⟨_ | thrown, next, t'⟩ := called
    · exact ih kept.checked stays
    · exact stays.there

/-- The outputs stay as they are just if they are settled. -/
theorem setPairs_same_iff (linked : logger.Linked) (alike : logger.Alike next) :
    (∀ pair, (next.setPairs os config pairs t).2.1.attrAt pair = logger.attrAt pair) ↔
      logger.Unharmed os s config pairs := by
  -- The loggers stay alike as long as every output is settled.
  induction pairs generalizing next t with
  | nil => exact iff_of_true alike.attr trivial
  | cons pair pairs ih =>
    rw [LoggerState.Unharmed]
    cases there : logger.attrAt pair with
    | none =>
      rw [LoggerState.setPairs, setPair_missing ((alike.attr pair).trans there)]
      exact ih checked alike
    | some attr =>
      obtain ⟨after, sets, naming, dicts, here, others⟩ := setPair_there os config t
        ((alike.attr pair).trans there)
      have kept : next.Kept os s (next.setPair os config pair t).2 := setPair_kept steady checked
      have full := made_of_setPair steady checked config ((alike.attr pair).trans there)
      rw [alike.naming, alike.dicts] at sets dicts here full
      obtain ⟨stays, whole⟩ :=
        generateConfig_eq_iff steady checked logger.naming config (linked pair attr there)
      rw [LoggerState.setPairs]
      dsimp only
      rw [← stays]
      rw [sets] at full kept ⊢
      generalize attr.generateConfig os logger.naming config logger.dicts t = called
        at full kept dicts here whole
      by_cases same : called.2.1 = attr
      · -- The output is the same, so the loop goes on as at the start.
        obtain ⟨nothing, accepted⟩ := whole same
        have alikeNext : logger.Alike after := by
          refine ⟨naming.trans alike.naming, fun other => ?_, dicts.trans nothing⟩
          by_cases isPair : other = pair
          · rw [isPair, here, same, there]
          · rw [others other isPair, alike.attr other]
        obtain ⟨_ | thrown, attr', dicts', t'⟩ := called
        · rw [and_iff_right same, ← accepted, imp_iff_right rfl]
          exact ih kept.checked alikeNext
        · rw [and_iff_right same, ← accepted]
          exact iff_of_true alikeNext.attr nofun
      · -- The output is another one, and it stays so.
        refine iff_of_false (fun all => same ?_) fun both => same both.1
        have now := all pair
        obtain ⟨_ | thrown, attr', dicts', t'⟩ := called
        · rw [there] at now
          exact Option.some.inj (((full rfl).setPairs steady kept.checked).symm.trans now)
        · exact Option.some.inj (here.symm.trans (now.trans there))

end Loggers

section Calls

/-- A call of `set_log_output` or `set_module_log_output`. -/
inductive OutputCall where
  | setLogOutput (logLevelList : List LogLevel) (logFileConfig : Text)
  | setModuleLogOutput (moduleName : Text) (logLevelList : List LogLevel) (logFileConfig : Text)

namespace OutputCall

/-- Make the call. -/
def run (os : LogOs σ) : OutputCall → LoggerState → σ → Option Thrown × LoggerState × σ
  | .setLogOutput levels config, logger, s => logger.setLogOutput os levels config s
  | .setModuleLogOutput moduleName levels config, logger, s =>
    logger.setModuleLogOutput os moduleName levels config s

/-- The configuration of a call. -/
def config : OutputCall → Text
  | .setLogOutput _ config => config
  | .setModuleLogOutput _ _ config => config

/-- What a call configures, in its order. -/
def pairs (logger : LoggerState) : OutputCall → List (Text × LogLevel)
  | .setLogOutput levels _ =>
    (logger.moduleAttr.keys.insertionSort (· ≤ ·)).flatMap fun name => levels.map (name, ·)
  | .setModuleLogOutput moduleName levels _ => levels.map (moduleName, ·)

/-- Some calls, whose exceptions are caught. -/
def runAll (os : LogOs σ) : List OutputCall → LoggerState → σ → LoggerState × σ
  | [], logger, s => (logger, s)
  | call :: calls, logger, s =>
    let called := call.run os logger s
    runAll os calls called.2.1 called.2.2

end OutputCall

variable {config : Text} {logger : LoggerState}

/-- A loop over two lists goes on with the second unless the first throws. -/
theorem setPairs_append (first second : List (Text × LogLevel)) :
    logger.setPairs os config (first ++ second) t =
      match logger.setPairs os config first t with
      | (some thrown, logger, t) => (some thrown, logger, t)
      | (none, logger, t) => logger.setPairs os config second t := by
  induction first generalizing logger t with
  | nil => rfl
  | cons pair first ih =>
    rw [List.cons_append, LoggerState.setPairs, LoggerState.setPairs]
    obtain ⟨_ | thrown, next, t'⟩ := logger.setPair os config pair t
    · exact ih
    · rfl

/-- The loop over levels is the loop over one module's outputs. -/
theorem setLevels_eq {moduleN : Text} {levels : LogLevel → LogOutputAttr}
    (logLevels : List LogLevel) (known : logger.moduleAttr.lookup moduleN = some levels) :
    LoggerState.setLevels os moduleN config levels logLevels logger t
      = logger.setPairs os config (logLevels.map (moduleN, ·)) t := by
  induction logLevels generalizing logger levels t with
  | nil => rfl
  | cons logLevel logLevels ih =>
    rw [LoggerState.setLevels, List.map_cons, LoggerState.setPairs, LoggerState.setPair, known]
    dsimp only
    obtain ⟨_ | thrown, attr, dicts, t'⟩ :=
      (levels logLevel).generateConfig os logger.naming config logger.dicts t
    · exact ih (AList.lookup_insert _)
    · rfl

/-- A module that does not exist has no outputs to configure. -/
theorem setPairs_missing {moduleN : Text} (logLevels : List LogLevel)
    (missing : logger.moduleAttr.lookup moduleN = none) :
    logger.setPairs os config (logLevels.map (moduleN, ·)) t = (none, logger, t) := by
  have unknown : ∀ logLevel, logger.attrAt (moduleN, logLevel) = none := by
    intro logLevel
    rw [LoggerState.attrAt, missing, Option.map_none]
  induction logLevels with
  | nil => rfl
  | cons logLevel logLevels ih =>
    rw [List.map_cons, LoggerState.setPairs, setPair_missing (unknown logLevel)]
    exact ih

/-- The loop over modules is the loop over all their outputs. -/
theorem setModules_eq (logLevels : List LogLevel) (names : List Text) :
    LoggerState.setModules os logLevels config names logger t
      = logger.setPairs os config (names.flatMap fun name => logLevels.map (name, ·)) t := by
  induction names generalizing logger t with
  | nil => rfl
  | cons name names ih =>
    rw [LoggerState.setModules, List.flatMap_cons, setPairs_append]
    -- A module that was removed is left out by both.
    cases known : logger.moduleAttr.lookup name with
    | none =>
      rw [setPairs_missing logLevels known]
      exact ih
    | some levels =>
      dsimp only
      rw [setLevels_eq logLevels known]
      obtain ⟨_ | thrown, next, t'⟩ :=
        logger.setPairs os config (logLevels.map (name, ·)) t
      · exact ih
      · rfl

/-- A call is one loop over modules and levels, but for the exception of a missing module. -/
theorem OutputCall.run_eq (call : OutputCall) :
    (call.run os logger t).2 = (logger.setPairs os call.config (call.pairs logger) t).2 := by
  cases call with
  | setLogOutput levels config => exact congrArg Prod.snd (setModules_eq levels _)
  | setModuleLogOutput moduleName levels config =>
    rw [run, LoggerState.setModuleLogOutput, pairs]
    cases known : logger.moduleAttr.lookup moduleName with
    | none => rw [setPairs_missing levels known]
    | some outputs => exact congrArg Prod.snd (setLevels_eq levels known)

/-- A call keeps what the loop over its outputs keeps. -/
theorem OutputCall.run_kept (steady : DirectoriesSteady os s) (checked : Checked os s t)
    (call : OutputCall) : logger.Kept os s (call.run os logger t).2 := by
  rw [call.run_eq]
  exact setPairs_kept steady checked

/-- However it was configured, a logger knows the log files of its outputs. -/
theorem OutputCall.runAll_linked (steady : DirectoriesSteady os s) (linked : logger.Linked)
    (calls : List OutputCall) : (runAll os calls logger s).1.Linked := by
  -- Calls start from any state that looking at directories leads to.
  have kept : ∀ {logger : LoggerState} {t : σ}, Checked os s t →
      logger.Kept os s (runAll os calls logger t) := by
    induction calls with
    | nil => exact fun checked => ⟨rfl, .refl, fun linked => linked, checked⟩
    | cons call calls ih =>
      intro logger t checked
      have first : logger.Kept os s (call.run os logger t).2 := call.run_kept steady checked
      exact first.trans (ih first.checked)
  exact (kept .refl).linked linked

/-- An output and its log files are the same just if the output is. -/
theorem output_eq_iff {after : LoggerState} (linked : logger.Linked)
    (grows : Grows logger.dicts after.dicts) (moduleN : Text) (logL : LogLevel) :
    after.output moduleN logL = logger.output moduleN logL ↔
      after.attrAt (moduleN, logL) = logger.attrAt (moduleN, logL) := by
  -- An output comes with the log files under its paths.
  have parts : ∀ logger : LoggerState, logger.output moduleN logL
      = (logger.attrAt (moduleN, logL)).map fun attr =>
        (attr, attr.logFiles.map fun path => (logger.dicts.lookup path).map Prod.fst) := by
    intro logger
    rw [LoggerState.output, LoggerState.attrAt, Option.map_map]
    rfl
  rw [parts, parts]
  constructor
  · intro same
    have first := congrArg (Option.map Prod.fst) same
    simpa [Option.map_map, Function.comp_def] using first
  · intro same
    rw [same]
    refine Option.map_congr fun attr at' => ?_
    -- The log files of the output are known, and are kept.
    refine Prod.ext rfl (List.map_congr_left fun path mem => ?_)
    obtain ⟨entry, found⟩ := Option.isSome_iff_exists.mp (linked _ attr at' path mem)
    rw [found, grows path entry found]

/--
A configuration that is rejected leaves all outputs as they are just if those it comes to are
already as its accepted part makes them.
-/
theorem rejected_unchanged_iff (os : LogOs σ) (s : σ) (steady : DirectoriesSteady os s)
    (logger : LoggerState) (linked : logger.Linked) (call : OutputCall) :
    (call.run os logger s).1 ≠ none →
      ((∀ moduleN logL,
          (call.run os logger s).2.1.output moduleN logL = logger.output moduleN logL) ↔
        logger.Unharmed os s call.config (call.pairs logger)) := by
  intro _
  -- Nothing is used of the exception, so accepted calls are covered as well.
  have kept : logger.Kept os s (call.run os logger s).2 := call.run_kept steady .refl
  have alike : logger.Alike logger := ⟨rfl, fun _ => rfl, rfl⟩
  rw [← setPairs_same_iff steady .refl linked alike, ← call.run_eq]
  constructor
  · exact fun outputs pair => (output_eq_iff linked kept.grows pair.1 pair.2).mp (outputs _ _)
  · exact fun attrs moduleN logL => (output_eq_iff linked kept.grows moduleN logL).mpr (attrs _)

/-- A logger that was not configured knows the log files of its outputs, as there are none. -/
theorem LoggerState.single_linked (moduleName : Text) : (LoggerState.single moduleName).Linked := by
  intro pair attr at'
  obtain ⟨levels, known, rfl⟩ := Option.map_eq_some_iff.mp at'
  have only := List.mem_singleton.mp (AList.mem_lookup_iff.mp known)
  cases eq_of_heq (Sigma.mk.inj only).2
  exact nofun

/-- A logger with two levels that go to a stream and to a file which is cut off. -/
def demoLogger : LoggerState :=
  (OutputCall.runAll LogWorld.plain.os [.setModuleLogOutput "nfs".toList [.lInfo, .lWarn]
    "stdout:/l@(size,1kb,3)".toList] (.single "nfs".toList) .empty).1

/-- A configuration that is rejected at its end only, and is there up to that, changes nothing. -/
theorem rejected_unchanged_again :
    let call := OutputCall.setLogOutput [.lInfo, .lWarn] "stdout:/l@(size,1kb,3):logs".toList
    (call.run LogWorld.plain.os demoLogger .empty).1 ≠ none ∧
    (demoLogger.output "nfs".toList .lInfo).map (·.2.length) = some 1 ∧
      ∀ moduleN logL, (call.run LogWorld.plain.os demoLogger .empty).2.1.output moduleN logL
        = demoLogger.output moduleN logL := by
  have steady := LogWorld.steady .plain .empty
  refine ⟨by decide, by decide, (rejected_unchanged_iff LogWorld.plain.os .empty steady demoLogger
    (OutputCall.runAll_linked steady (LoggerState.single_linked _) _)
    (.setLogOutput [.lInfo, .lWarn] "stdout:/l@(size,1kb,3):logs".toList) (by decide)).mpr ?_⟩
  exact ⟨by decide +kernel, fun whole => absurd whole (by decide +kernel)⟩

/-- Files are cleared and streams turned on before a configuration is rejected. -/
theorem rejected_unchanged_fails :
    let logger := ((LoggerState.single "nfs".toList).setModuleLogOutput LogWorld.plain.os
      "nfs".toList [.lInfo] "/l@(size,1kb,3)".toList .empty).2.1
    ((logger.setModuleLogOutput LogWorld.plain.os "nfs".toList [.lInfo] "logs".toList .empty).1
        ≠ none ∧
      (logger.setModuleLogOutput LogWorld.plain.os "nfs".toList [.lInfo] "logs".toList
        .empty).2.1.output "nfs".toList .lInfo ≠ logger.output "nfs".toList .lInfo) ∧
    (logger.setLogOutput LogWorld.plain.os [.lInfo, .lWarn] "stdout:logs".toList .empty).1 ≠ none ∧
      (logger.setLogOutput LogWorld.plain.os [.lInfo, .lWarn] "stdout:logs".toList
        .empty).2.1.output "nfs".toList .lInfo ≠ logger.output "nfs".toList .lInfo := by
  decide

end Calls

end Dnfs
