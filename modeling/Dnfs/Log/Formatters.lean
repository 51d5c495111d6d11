import Dnfs.Log.LogAttr
import Dnfs.Run.Sequences

/-! Whether the fields that are selected are those of the format. -/

namespace Dnfs

section Selecting

/-- The fields that are selected are those whose keywords are in the format. -/
def LoggerAttr.Fits (attr : LoggerAttr) : Prop :=
  ∀ field : LogFormat, attr.logFormatterSelect field = true ↔ field.keyword <:+: attr.formatter

/-- Some keyword is in a format. -/
def HasField (formatStr : Text) : Prop := ∃ field ∈ LogFormat.all, field.keyword <:+: formatStr

instance (formatStr : Text) : Decidable (HasField formatStr) :=
  inferInstanceAs (Decidable (∃ field ∈ LogFormat.all, _))

/-- A piece is found just if it is in the text. -/
theorem isSome_find {piece text : Text} : (find piece text).isSome = true ↔ piece <:+: text := by
  rw [← Option.ne_none_iff_isSome, ne_eq, find_eq_none_iff, not_not]

/-- The attributes of the constructor fit. -/
theorem LoggerAttr.fits_new : ({} : LoggerAttr).Fits := by
  intro field
  cases field <;> decide

/-- A format with a field is taken, and the selection fits it. -/
theorem LoggerAttr.initLogFormatter_taken (attr : LoggerAttr) (has : HasField attr.formatter) :
    ∃ select, attr.initLogFormatter = (none, { attr with logFormatterSelect := select }) ∧
      LoggerAttr.Fits { attr with logFormatterSelect := select } := by
  obtain ⟨field, isField, inFormat⟩ := has
  refine ⟨_, ?_, fun field => isSome_find⟩
  rw [initLogFormatter]
  exact if_pos (List.any_eq_true.mpr ⟨field, isField, isSome_find.mpr inFormat⟩)

/-- A format without a field is replaced by one with a field that is not selected. -/
theorem LoggerAttr.initLogFormatter_refused (attr : LoggerAttr)
    (without : ¬HasField attr.formatter) :
    ∃ thrown refused, attr.initLogFormatter = (some thrown, refused) ∧ ¬refused.Fits := by
  have nothing : LogFormat.all.any (fun field => (find field.keyword attr.formatter).isSome)
      = false := by
    rw [← Bool.not_eq_true, List.any_eq_true]
    rintro ⟨field, isField, found⟩
    exact without ⟨field, isField, isSome_find.mp found⟩
  refine ⟨_, _, by rw [initLogFormatter, nothing]; rfl, fun fits => ?_⟩
  have selected := (fits .logMessage).mpr (List.infix_refl _)
  exact without ⟨.logMessage, by decide, isSome_find.mp selected⟩

end Selecting

section Adopting

variable {logger : Logger}

/-- Changing the name of the module changes nothing but outputs and log files. -/
theorem LoggerAttr.setModuleNames_eq (naming : LogNaming) (moduleN : Text) (levels : List LogLevel)
    (attr : LoggerAttr) (dicts : LogDicts) :
    ∃ outputs dicts', attr.setModuleNames naming moduleN levels dicts
      = ({ attr with logLevelOutput := outputs }, dicts') := by
  induction levels generalizing attr dicts with
  | nil => exact ⟨_, _, rfl⟩
  | cons level levels ih => exact ih _ _

/-- Attributes that are adopted have the format and the selection they had. -/
theorem Logger.adopt_eq (moduleName : Text) (attr : LoggerAttr) (logger : Logger) :
    ∃ adopted dicts, logger.adopt moduleName attr = { logger with
        moduleAttr := logger.moduleAttr.insert moduleName adopted, dicts } ∧
      adopted.formatter = attr.formatter ∧
      adopted.logFormatterSelect = attr.logFormatterSelect := by
  obtain ⟨outputs, dicts, sets⟩ := LoggerAttr.setModuleNames_eq logger.naming moduleName
    outputLevels { attr with moduleName := moduleName } logger.dicts
  refine ⟨{ attr with moduleName := moduleName, logLevelOutput := outputs }, dicts, ?_, rfl, rfl⟩
  rw [adopt, LoggerAttr.setModuleName, sets]

/-- A module that is not there yet gets the format and the selection of the default. -/
theorem Logger.initModule_eq {moduleName : Text}
    (new : logger.moduleAttr.lookup moduleName = none) :
    ∃ attr, logger.initModule moduleName
        = { logger with moduleAttr := logger.moduleAttr.insert moduleName attr } ∧
      attr.formatter = logger.defaultAttr.formatter ∧
      attr.logFormatterSelect = logger.defaultAttr.logFormatterSelect := by
  rw [initModule, new]
  exact ⟨_, rfl, rfl, rfl⟩

/-- A copy is adopted, but nothing can be copied to itself. -/
theorem Logger.copyModuleAttrFrom_eq {target src : Text} {attr : LoggerAttr}
    (isSrc : logger.moduleAttr.lookup src = some attr)
    (isTarget : (logger.moduleAttr.lookup target).isSome = true) :
    logger.copyModuleAttrFrom target src
      = if target = src then none else some (none, logger.adopt target attr) := by
  obtain ⟨old, isOld⟩ := Option.isSome_iff_exists.mp isTarget
  rw [copyModuleAttrFrom, isSrc, isOld]
  rfl

/-- The default gets the format and the selection of a module. -/
theorem Logger.setDefaultAttrFrom_eq {moduleName : Text} {attr : LoggerAttr}
    (known : logger.moduleAttr.lookup moduleName = some attr) :
    ∃ default_ dicts, logger.setDefaultAttrFrom moduleName
        = (none, { logger with defaultAttr := default_, dicts }) ∧
      default_.formatter = attr.formatter ∧
      default_.logFormatterSelect = attr.logFormatterSelect := by
  obtain ⟨outputs, dicts, sets⟩ := LoggerAttr.setModuleNames_eq logger.naming "default".toList
    outputLevels { attr with moduleName := "default".toList } logger.dicts
  rw [setDefaultAttrFrom, known]
  dsimp only
  rw [LoggerAttr.setModuleName, sets]
  exact ⟨_, dicts, rfl, rfl, rfl⟩

/-- Some modules have attributes of a kind, and the others have what they had before. -/
def SetsAll (names : List Text) (before after : AList fun _ : Text => LoggerAttr)
    (kind : LoggerAttr → Prop) : Prop :=
  ∀ name, (name ∈ names → ∃ attr, after.lookup name = some attr ∧ kind attr) ∧
    (name ∉ names → after.lookup name = before.lookup name)

/-- One module is set after another, and may be set again later. -/
theorem SetsAll.cons {first : Text} {others : List Text} {attr : LoggerAttr}
    {before after : AList fun _ : Text => LoggerAttr} {kind : LoggerAttr → Prop} (set : kind attr)
    (later : SetsAll others (before.insert first attr) after kind) :
    SetsAll (first :: others) before after kind := by
  refine fun name => ⟨fun mem => ?_, fun notMem => ?_⟩
  · by_cases isOther : name ∈ others
    · exact (later name).1 isOther
    · obtain rfl : name = first := (List.mem_cons.mp mem).resolve_right isOther
      exact ⟨attr, ((later name).2 isOther).trans (AList.lookup_insert _), set⟩
  · rw [List.mem_cons, not_or] at notMem
    rw [(later name).2 notMem.2, AList.lookup_insert_ne notMem.1]

/-- After the default attributes were adopted by some modules, these have its format. -/
theorem Logger.adoptAll_spec (moduleNames : List Text) (logger : Logger) :
    let after := moduleNames.foldl (fun logger name => logger.adopt name logger.defaultAttr) logger
    after.defaultAttr = logger.defaultAttr ∧
      SetsAll moduleNames logger.moduleAttr after.moduleAttr fun attr =>
        attr.formatter = logger.defaultAttr.formatter ∧
        attr.logFormatterSelect = logger.defaultAttr.logFormatterSelect := by
  induction moduleNames generalizing logger with
  | nil => exact ⟨rfl, fun name => ⟨nofun, fun _ => rfl⟩⟩
  | cons first others ih =>
    -- To adopt does not change the default.
    obtain ⟨adopted, dicts, adopts, kind⟩ := logger.adopt_eq first logger.defaultAttr
    obtain ⟨default_, later⟩ := ih (logger.adopt first logger.defaultAttr)
    rw [adopts] at default_ later
    rw [List.foldl_cons, adopts]
    exact ⟨default_, .cons kind later⟩

/-- The modules in order are those that are there. -/
theorem Logger.mem_names {name : Text} : name ∈ logger.names ↔ name ∈ logger.moduleAttr.keys := by
  rw [names, List.mem_insertionSort]

/-- Attributes are found for the modules that have some. -/
theorem Logger.isSome_lookup {name : Text} :
    (logger.moduleAttr.lookup name).isSome = true ↔ name ∈ logger.moduleAttr.keys := by
  rw [AList.lookup_isSome]
  rfl

/-- What is found after a loop over all modules is of one of them. -/
theorem SetsAll.found {after : AList fun _ : Text => LoggerAttr} {kind : LoggerAttr → Prop}
    (all : SetsAll logger.names logger.moduleAttr after kind) {name : Text} {attr : LoggerAttr}
    (found : after.lookup name = some attr) : name ∈ logger.moduleAttr.keys ∧ kind attr := by
  by_cases mem : name ∈ logger.names
  · obtain ⟨_, isSet, set⟩ := (all name).1 mem
    cases isSet.symm.trans found
    exact ⟨Logger.mem_names.mp mem, set⟩
  · rw [(all name).2 mem] at found
    have known := Logger.isSome_lookup.mp (Option.isSome_of_eq_some found)
    exact absurd (Logger.mem_names.mpr known) mem

end Adopting

section Setting

variable {logger : Logger} {formatStr name : Text} {attr : LoggerAttr}

/-- A format with a field is set, and the selection fits it. -/
theorem Logger.setFormat_taken (has : HasField formatStr)
    (known : logger.moduleAttr.lookup name = some attr) :
    ∃ set, logger.setFormat formatStr name
        = (none, { logger with moduleAttr := logger.moduleAttr.insert name set }) ∧
      set.formatter = formatStr ∧ set.Fits := by
  obtain ⟨select, takes, fits⟩ :=
    LoggerAttr.initLogFormatter_taken { attr with formatter := formatStr } has
  refine ⟨_, ?_, rfl, fits⟩
  rw [setFormat, known]
  dsimp only
  rw [takes]

/-- A format without a field leaves a selection that does not fit. -/
theorem Logger.setFormat_refused (without : ¬HasField formatStr)
    (known : logger.moduleAttr.lookup name = some attr) :
    ∃ thrown refused, logger.setFormat formatStr name
        = (some thrown, { logger with moduleAttr := logger.moduleAttr.insert name refused }) ∧
      ¬refused.Fits := by
  obtain ⟨thrown, refused, throws, misfit⟩ :=
    LoggerAttr.initLogFormatter_refused { attr with formatter := formatStr } without
  refine ⟨thrown, refused, ?_, misfit⟩
  rw [setFormat, known]
  dsimp only
  rw [throws]

/-- After a format with a field was set for some modules, these have it. -/
theorem Logger.setFormats_taken {moduleNames : List Text}
    (has : moduleNames ≠ [] → HasField formatStr)
    (known : ∀ name ∈ moduleNames, (logger.moduleAttr.lookup name).isSome = true) :
    ∃ after, logger.setFormats formatStr moduleNames = (none, after) ∧
      after.defaultAttr = logger.defaultAttr ∧
      SetsAll moduleNames logger.moduleAttr after.moduleAttr fun attr =>
        attr.formatter = formatStr ∧ attr.Fits := by
  induction moduleNames generalizing logger with
  | nil => exact ⟨logger, rfl, rfl, fun name => ⟨nofun, fun _ => rfl⟩⟩
  | cons first others ih =>
    obtain ⟨attr, isKnown⟩ := Option.isSome_iff_exists.mp (known first List.mem_cons_self)
    have some_ := has (List.cons_ne_nil _ _)
    obtain ⟨set, sets, kind⟩ := setFormat_taken some_ isKnown
    -- A module that was set is still known.
    let next : Logger := { logger with moduleAttr := logger.moduleAttr.insert first set }
    have stillKnown : ∀ name ∈ others, (next.moduleAttr.lookup name).isSome = true := by
      intro name mem
      by_cases same : name = first
      · rw [same, AList.lookup_insert]
        rfl
      · rw [AList.lookup_insert_ne same]
        exact known name (List.mem_cons_of_mem first mem)
    obtain ⟨after, runs, default_, later⟩ := ih (fun _ => some_) stillKnown
    refine ⟨after, ?_, default_, .cons kind later⟩
    rw [setFormats, sets]
    exact runs

end Setting

section Calls

/-- A call that sets or copies attributes. -/
inductive AttrCall where
  | initModule (moduleName : Text)
  | setFormatter (formatStr : Text)
  | setModuleFormatter (moduleName formatStr : Text)
  | copyModuleAttrFrom (targetModuleName srcModuleName : Text)
  | setDefaultAttrFrom (moduleName : Text)
  | setAllModuleAttrDefault

/-- The logger, the last format for all modules, and the modules that were set by name since. -/
structure FormatRun where
  logger : Logger
  last : Option Text
  changed : List Text

/-- A logger that was just made. -/
def FormatRun.new (naming : LogNaming) : FormatRun :=
  ⟨{ naming, moduleAttr := ∅, dicts := ∅ }, none, []⟩

/-- A call, after which the program goes on also if it threw. -/
def attrStep (call : AttrCall) (run : FormatRun) : Option FormatRun :=
  match call with
  | .initModule name =>
    some { run with
      logger := run.logger.initModule name
      changed := if (run.logger.moduleAttr.lookup name).isSome then run.changed
        else name :: run.changed }
  | .setFormatter formatStr =>
    match run.logger.setFormatter formatStr with
    | (some _, logger) => some { run with logger }
    | (none, logger) => some ⟨logger, some formatStr, []⟩
  | .setModuleFormatter name formatStr =>
    some { run with
      logger := (run.logger.setModuleFormatter name formatStr).2
      changed := if (run.logger.moduleAttr.lookup name).isSome then name :: run.changed
        else run.changed }
  | .copyModuleAttrFrom target src => do
    let (thrown, logger) ← run.logger.copyModuleAttrFrom target src
    return { run with
      logger, changed := if thrown.isSome then run.changed else target :: run.changed }
  | .setDefaultAttrFrom name => some { run with logger := (run.logger.setDefaultAttrFrom name).2 }
  | .setAllModuleAttrDefault => some { run with logger := run.logger.setAllModuleAttrDefault }

/-- The selection fits, and modules not set by name have the last format for all of them. -/
def Formatted (run : FormatRun) : Prop :=
  ∀ name attr, run.logger.moduleAttr.lookup name = some attr → attr.Fits ∧
    ∀ formatStr, run.last = some formatStr → name ∉ run.changed → attr.formatter = formatStr

/-- Formats have a field, no module is copied to itself, and the default has the last format. -/
def KeepsFormat (run : FormatRun) : AttrCall → Prop
  | .initModule _ | .setDefaultAttrFrom _ => True
  | .setFormatter formatStr => run.logger.moduleAttr.keys ≠ [] → HasField formatStr
  | .setModuleFormatter name formatStr =>
    (run.logger.moduleAttr.lookup name).isSome = true → HasField formatStr
  | .copyModuleAttrFrom target src =>
    (run.logger.moduleAttr.lookup target).isSome = true → target ≠ src
  | .setAllModuleAttrDefault => ∀ formatStr, run.last = some formatStr →
    ∀ name ∈ run.logger.moduleAttr.keys, name ∉ run.changed →
      run.logger.defaultAttr.formatter = formatStr

/-- The invariant: also the default attributes fit. -/
def FormatInv (run : FormatRun) : Prop := run.logger.defaultAttr.Fits ∧ Formatted run

variable {run : FormatRun}

/-- Whether a selection fits depends on the format alone. -/
theorem LoggerAttr.Fits.congr {attr other : LoggerAttr} (fits : attr.Fits)
    (format : other.formatter = attr.formatter)
    (select : other.logFormatterSelect = attr.logFormatterSelect) : other.Fits := by
  intro field
  rw [select, format]
  exact fits field

/-- Setting a module by name keeps the invariant, if what is set fits. -/
theorem Formatted.insert (formatted : Formatted run) {name : Text} {attr : LoggerAttr}
    (fits : attr.Fits) (defaultAttr : LoggerAttr) (dicts : LogDicts) :
    Formatted { run with
      logger := { run.logger with
        defaultAttr, moduleAttr := run.logger.moduleAttr.insert name attr, dicts }
      changed := name :: run.changed } := by
  intro other attr' found
  by_cases same : other = name
  · subst same
    rw [AList.lookup_insert] at found
    cases found
    exact ⟨fits, fun _ _ notChanged => absurd List.mem_cons_self notChanged⟩
  · rw [AList.lookup_insert_ne same] at found
    obtain ⟨fits', hasLast⟩ := formatted other attr' found
    exact ⟨fits', fun formatStr isLast notChanged =>
      hasLast formatStr isLast fun mem => notChanged (List.mem_cons_of_mem name mem)⟩

/-- A call that keeps the format keeps the invariant. -/
theorem FormatInv.attrStep (inv : FormatInv run) {call : AttrCall} (keeps : KeepsFormat run call) :
    ∃ next, Dnfs.attrStep call run = some next ∧ FormatInv next := by
  obtain ⟨default_, formatted⟩ := inv
  cases call with
  | initModule name =>
    refine ⟨_, rfl, ?_⟩
    cases known : run.logger.moduleAttr.lookup name with
    | some attr =>
      rw [Logger.initModule, known]
      exact ⟨default_, formatted⟩
    | none =>
      obtain ⟨attr, inits, format, select⟩ := Logger.initModule_eq known
      rw [inits]
      exact ⟨default_, formatted.insert (default_.congr format select) _ _⟩
  | setFormatter formatStr =>
    have known : ∀ name ∈ run.logger.names,
        (run.logger.moduleAttr.lookup name).isSome = true := fun name mem =>
      Logger.isSome_lookup.mpr (Logger.mem_names.mp mem)
    -- Without modules nothing is set, and any format will do.
    have has : run.logger.names ≠ [] → HasField formatStr := by
      intro some_
      refine keeps fun none_ => some_ ?_
      rw [Logger.names, none_]
      rfl
    obtain ⟨after, sets, same, later⟩ := Logger.setFormats_taken has known
    refine ⟨⟨after, some formatStr, []⟩, ?_, ?_, fun name attr found => ?_⟩
    · rw [Dnfs.attrStep, Logger.setFormatter, sets]
    · rw [same]
      exact default_
    · obtain ⟨_, format, fits⟩ := later.found found
      exact ⟨fits, fun _ isLast _ => format.trans (Option.some.inj isLast)⟩
  | setModuleFormatter name formatStr =>
    refine ⟨_, rfl, ?_⟩
    rw [Logger.setModuleFormatter]
    cases known : run.logger.moduleAttr.lookup name with
    | none =>
      rw [Logger.setFormat, known]
      exact ⟨default_, formatted⟩
    | some attr =>
      have has : HasField formatStr := keeps (by rw [known]; rfl)
      obtain ⟨set, sets, _, fits⟩ := Logger.setFormat_taken has known
      rw [sets]
      exact ⟨default_, formatted.insert fits _ _⟩
  | copyModuleAttrFrom target src =>
    cases known : run.logger.moduleAttr.lookup src with
    | none =>
      refine ⟨run, ?_, default_, formatted⟩
      rw [Dnfs.attrStep, Logger.copyModuleAttrFrom, known]
      rfl
    | some attr =>
      cases there : run.logger.moduleAttr.lookup target with
      | none =>
        refine ⟨run, ?_, default_, formatted⟩
        rw [Dnfs.attrStep, Logger.copyModuleAttrFrom, known, there]
        rfl
      | some old =>
        -- What is copied fits already, and the target counts as set by name.
        have isTarget := Option.isSome_of_eq_some there
        obtain ⟨adopted, dicts, adopts, format, select⟩ := run.logger.adopt_eq target attr
        have fits := (formatted src attr known).1.congr format select
        refine ⟨{ run with
          logger := { run.logger with
            moduleAttr := run.logger.moduleAttr.insert target adopted, dicts }
          changed := target :: run.changed }, ?_, default_, formatted.insert fits _ dicts⟩
        rw [Dnfs.attrStep, Logger.copyModuleAttrFrom_eq known isTarget, if_neg (keeps isTarget),
          adopts]
        rfl
  | setDefaultAttrFrom name =>
    refine ⟨_, rfl, ?_⟩
    cases known : run.logger.moduleAttr.lookup name with
    | none =>
      rw [Logger.setDefaultAttrFrom, known]
      exact ⟨default_, formatted⟩
    | some attr =>
      obtain ⟨_, dicts, sets, format, select⟩ := Logger.setDefaultAttrFrom_eq known
      rw [sets]
      exact ⟨(formatted name attr known).1.congr format select, formatted⟩
  | setAllModuleAttrDefault =>
    refine ⟨_, rfl, ?_⟩
    obtain ⟨same, later⟩ := Logger.adoptAll_spec run.logger.names run.logger
    refine ⟨?_, fun name attr found => ?_⟩
    · rw [Logger.setAllModuleAttrDefault, same]
      exact default_
    · obtain ⟨mem, format, select⟩ := later.found found
      refine ⟨default_.congr format select, fun formatStr isLast notChanged => ?_⟩
      rw [format, keeps formatStr isLast name mem notChanged]

/-- A call that does not keep the format leaves a module that is not as it should be. -/
theorem keepsFormat_of_formatted {next : FormatRun} {call : AttrCall}
    (takes : Dnfs.attrStep call run = some next) (after : Formatted next) :
    KeepsFormat run call := by
  cases call with
  | initModule => trivial
  | setDefaultAttrFrom => trivial
  | setFormatter formatStr =>
    intro some_
    by_contra without
    -- The first module is left with a selection that does not fit.
    cases names : run.logger.names with
    | nil =>
      obtain ⟨name, mem⟩ := List.exists_mem_of_ne_nil _ some_
      have listed := Logger.mem_names.mpr mem
      rw [names] at listed
      cases listed
    | cons first others =>
      have known := Logger.isSome_lookup.mpr
        (Logger.mem_names.mp (names ▸ List.mem_cons_self : first ∈ run.logger.names))
      obtain ⟨attr, isKnown⟩ := Option.isSome_iff_exists.mp known
      obtain ⟨thrown, refused, throws, misfit⟩ := Logger.setFormat_refused without isKnown
      rw [Dnfs.attrStep, Logger.setFormatter, names, Logger.setFormats, throws] at takes
      cases takes
      exact misfit (after first refused (AList.lookup_insert _)).1
  | setModuleFormatter name formatStr =>
    intro known
    by_contra without
    obtain ⟨attr, isKnown⟩ := Option.isSome_iff_exists.mp known
    obtain ⟨thrown, refused, throws, misfit⟩ := Logger.setFormat_refused without isKnown
    rw [Dnfs.attrStep, Logger.setModuleFormatter, throws] at takes
    cases takes
    exact misfit (after name refused (AList.lookup_insert _)).1
  | copyModuleAttrFrom target src =>
    -- A module that is copied to itself is deleted before it is read.
    rintro known rfl
    obtain ⟨attr, isKnown⟩ := Option.isSome_iff_exists.mp known
    rw [Dnfs.attrStep, Logger.copyModuleAttrFrom_eq isKnown known, if_pos rfl] at takes
    cases takes
  | setAllModuleAttrDefault =>
    intro formatStr isLast name mem notChanged
    obtain ⟨_, later⟩ := Logger.adoptAll_spec run.logger.names run.logger
    obtain ⟨set, isSet, format, _⟩ := (later name).1 (Logger.mem_names.mpr mem)
    cases takes
    rw [← format]
    exact (after name set isSet).2 formatStr isLast notChanged

/--
Fields and formats stay together just if all formats have a field, no module is copied to itself,
and the default is set for all modules only while it has the last format that was set for them.
-/
theorem logger_formatted_iff (naming : LogNaming) (calls : List AttrCall) :
    AtEveryPoint attrStep Formatted (.new naming) calls ↔
      AtEveryStep attrStep KeepsFormat (.new naming) calls := by
  have start : FormatInv (.new naming) := ⟨LoggerAttr.fits_new, nofun⟩
  refine atEveryPoint_iff (fun _ inv => inv.2) ?_ ?_ start
  · exact fun run call inv keeps => inv.attrStep keeps
  · exact fun run call next _ takes after => keepsFormat_of_formatted takes after

/-- After a format without a field, the message is in the format of a module but not selected. -/
theorem logger_formatted_fails :
    ∃ run attr, [AttrCall.initModule "nfs".toList, .setFormatter "plain".toList].foldlM
        (fun run call => attrStep call run) (.new ⟨"dnfs".toList, .justOne⟩) = some run ∧
      run.logger.moduleAttr.lookup "nfs".toList = some attr ∧
      attr.formatter = "%(message)".toList ∧ attr.logFormatterSelect .logMessage = false :=
  ⟨_, _, rfl, rfl, by decide, by decide⟩

end Calls

end Dnfs
