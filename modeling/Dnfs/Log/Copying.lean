import Dnfs.Log.Formatters

/-! What copying the attributes of a module does to the files that others write to. -/

namespace Dnfs

section Renaming

variable {naming : LogNaming} {moduleN : Text}

/-- A log file with its parameters, after the module was changed. -/
def renamed (naming : LogNaming) (moduleN : Text) (entry : LogFile × Text) : LogFile × Text :=
  (entry.1.setModuleName naming moduleN, entry.2)

/-- To change the module again changes nothing. -/
theorem renamed_comp_renamed :
    renamed naming moduleN ∘ renamed naming moduleN = renamed naming moduleN := rfl

/-- Two dictionaries that differ in the module of some log files. -/
def Renames (naming : LogNaming) (moduleN : Text) (paths : List Text) (dicts dicts' : LogDicts) :
    Prop :=
  ∀ key, dicts'.lookup key =
    if key ∈ paths then (dicts.lookup key).map (renamed naming moduleN) else dicts.lookup key

/-- Only what is kept for the path is renamed. -/
theorem renames_renameFile (dicts : LogDicts) (path : Text) :
    Renames naming moduleN [path] dicts (renameFile naming moduleN dicts path) := by
  intro key
  rw [renameFile]
  by_cases same : key = path
  · subst same
    rw [if_pos List.mem_cons_self]
    cases known : dicts.lookup key with
    | none => exact known
    | some entry => exact AList.lookup_insert _
  · rw [if_neg (mt List.mem_singleton.mp same)]
    cases dicts.lookup path with
    | none => rfl
    | some entry => exact AList.lookup_insert_ne same

/-- What is changed once and again is changed once. -/
theorem Renames.append {first second : List Text} {dicts mid after : LogDicts}
    (one : Renames naming moduleN first dicts mid)
    (two : Renames naming moduleN second mid after) :
    Renames naming moduleN (first ++ second) dicts after := by
  intro key
  rw [two, one]
  by_cases here : key ∈ first
  · simp only [here, List.mem_append, true_or, if_true, Option.map_map, renamed_comp_renamed,
      ite_self]
  · simp only [here, List.mem_append, false_or, if_false]

/-- A log file is changed by a loop if it is in the list, however often. -/
theorem renames_foldl_renameFile (paths : List Text) (dicts : LogDicts) :
    Renames naming moduleN paths dicts (paths.foldl (renameFile naming moduleN) dicts) := by
  induction paths generalizing dicts with
  | nil => exact fun key => rfl
  | cons path paths ih => exact (renames_renameFile dicts path).append (ih _)

/-- The log files of the outputs of some levels. -/
def LoggerAttr.filesOf (attr : LoggerAttr) (levels : List LogLevel) : List Text :=
  levels.flatMap fun level => (attr.logLevelOutput level).logFiles

/-- The loop over the levels changes all their files, and nothing else of the outputs. -/
theorem LoggerAttr.setModuleNames_spec (naming : LogNaming) (moduleN : Text)
    (levels : List LogLevel) (attr : LoggerAttr) (dicts : LogDicts) :
    let after := attr.setModuleNames naming moduleN levels dicts
    (∀ level, ∃ name, after.1.logLevelOutput level
      = { attr.logLevelOutput level with moduleName := name }) ∧
    Renames naming moduleN (attr.filesOf levels) dicts after.2 := by
  induction levels generalizing attr dicts with
  | nil => exact ⟨fun level => ⟨_, rfl⟩, fun key => rfl⟩
  | cons first others ih =>
    let next : LoggerAttr := { attr with
      logLevelOutput := Function.update attr.logLevelOutput first
        { attr.logLevelOutput first with moduleName := moduleN } }
    -- The files of all levels are still the same.
    have outputs : ∀ level, ∃ name, next.logLevelOutput level
        = { attr.logLevelOutput level with moduleName := name } := by
      intro level
      by_cases same : level = first
      · subst same
        exact ⟨moduleN, Function.update_self ..⟩
      · exact ⟨_, Function.update_of_ne same _ _⟩
    have files : next.filesOf others = attr.filesOf others := by
      refine List.flatMap_congr fun level _ => ?_
      obtain ⟨name, same⟩ := outputs level
      rw [same]
    obtain ⟨later, changed⟩ := ih next
      ((attr.logLevelOutput first).logFiles.foldl (renameFile naming moduleN) dicts)
    rw [files] at changed
    refine ⟨fun level => ?_, (renames_foldl_renameFile _ dicts).append changed⟩
    obtain ⟨name, isNext⟩ := outputs level
    obtain ⟨name', isAfter⟩ := later level
    rw [isNext] at isAfter
    exact ⟨name', isAfter⟩

end Renaming

section Copying

/-- The path that a log file writes to. -/
def writesTo (dicts : LogDicts) (key : Text) : Option Text :=
  (dicts.lookup key).map fun entry => entry.1.logFilePath

/-- The paths that the output of a module and level writes to. -/
def Logger.outputPaths (logger : Logger) (name : Text) (level : LogLevel) :
    Option (List (Option Text)) :=
  (logger.moduleAttr.lookup name).map fun attr =>
    (attr.logLevelOutput level).logFiles.map (writesTo logger.dicts)

/-- Every log file is filed under the path it writes to. -/
def Filed (dicts : LogDicts) : Prop :=
  ∀ key entry, dicts.lookup key = some entry → entry.1.logFilePath = key

/-- The log files of the outputs have the same paths with another module. -/
def SamePaths (naming : LogNaming) (moduleN : Text) (attr : LoggerAttr) (dicts : LogDicts) : Prop :=
  ∀ key ∈ attr.filesOf outputLevels, ∀ entry ∈ dicts.lookup key,
    (entry.1.setModuleName naming moduleN).logFilePath = entry.1.logFilePath

instance (naming : LogNaming) (moduleN : Text) (attr : LoggerAttr) (dicts : LogDicts) :
    Decidable (SamePaths naming moduleN attr dicts) :=
  inferInstanceAs (Decidable (∀ key ∈ attr.filesOf outputLevels, _))

/-- Two outputs have the same switches. -/
def LogOutputAttr.SameSwitches (attr other : LogOutputAttr) : Prop :=
  attr.stderrOn = other.stderrOn ∧ attr.stdoutOn = other.stdoutOn ∧ attr.syslogOn = other.syslogOn

/-- Only the target is changed, and it has what the source has. -/
structure CopiesOnly (target : Text) (source : LoggerAttr) (before after : Logger) : Prop where
  others : ∀ name, name ≠ target →
    after.moduleAttr.lookup name = before.moduleAttr.lookup name
  paths : ∀ name, name ≠ target → ∀ level ∈ outputLevels,
    after.outputPaths name level = before.outputPaths name level
  copied : ∃ attr, after.moduleAttr.lookup target = some attr ∧
    attr.formatter = source.formatter ∧ attr.dateFormat = source.dateFormat ∧
    attr.logLevel = source.logLevel ∧ ∀ level ∈ outputLevels,
      (attr.logLevelOutput level).SameSwitches (source.logLevelOutput level)
  filed : Filed after.dicts

variable {naming : LogNaming} {moduleN : Text} {attr : LoggerAttr} {dicts dicts' : LogDicts}

/-- Whether all log files write to the same paths after some of them were changed. -/
theorem writesTo_eq_iff
    (changed : Renames naming moduleN (attr.filesOf outputLevels) dicts dicts') :
    (∀ key ∈ attr.filesOf outputLevels, writesTo dicts' key = writesTo dicts key) ↔
      SamePaths naming moduleN attr dicts := by
  refine forall₂_congr fun key mem => ?_
  rw [writesTo, writesTo, changed, if_pos mem]
  cases dicts.lookup key with
  | none => exact iff_of_true rfl fun entry isEntry => absurd isEntry (Option.not_mem_none entry)
  | some entry =>
    rw [Option.map_some, Option.map_some, Option.map_some, Option.some_inj]
    constructor
    · rintro same _ ⟨⟩
      exact same
    · exact fun same => same entry rfl

/-- Then all others do so anyway. -/
theorem SamePaths.writesTo (same : SamePaths naming moduleN attr dicts)
    (changed : Renames naming moduleN (attr.filesOf outputLevels) dicts dicts') :
    Dnfs.writesTo dicts' = Dnfs.writesTo dicts := by
  funext key
  by_cases mem : key ∈ attr.filesOf outputLevels
  · exact (writesTo_eq_iff changed).mpr same key mem
  · rw [Dnfs.writesTo, Dnfs.writesTo, changed, if_neg mem]

/-- The paths of an output are the same if its files write to the same paths. -/
theorem Logger.outputPaths_congr {before after : Logger} {name : Text}
    (attrs : after.moduleAttr.lookup name = before.moduleAttr.lookup name)
    (paths : Dnfs.writesTo after.dicts = Dnfs.writesTo before.dicts) (level : LogLevel) :
    after.outputPaths name level = before.outputPaths name level := by
  rw [outputPaths, outputPaths, attrs, paths]

/-- If the paths of all outputs of a module are the same, its files write to the same paths. -/
theorem Logger.writesTo_of_outputPaths {before after : Logger} {name : Text}
    (known : before.moduleAttr.lookup name = some attr)
    (attrs : after.moduleAttr.lookup name = before.moduleAttr.lookup name)
    (paths : ∀ level ∈ outputLevels,
      after.outputPaths name level = before.outputPaths name level) :
    ∀ key ∈ attr.filesOf outputLevels, writesTo after.dicts key = writesTo before.dicts key := by
  intro key mem
  obtain ⟨level, isLevel, isFile⟩ := List.mem_flatMap.mp mem
  have same := paths level isLevel
  rw [outputPaths, outputPaths, attrs, known] at same
  exact List.map_inj_left.mp (Option.some.inj same) key isFile

/-- A dictionary stays filed if no path changes. -/
theorem Filed.of_samePaths (filed : Filed dicts) (same : SamePaths naming moduleN attr dicts)
    (changed : Renames naming moduleN (attr.filesOf outputLevels) dicts dicts') : Filed dicts' := by
  intro key entry found
  have path := congrFun (same.writesTo changed) key
  rw [writesTo, writesTo, found, Option.map_some] at path
  obtain ⟨old, known, isPath⟩ := Option.map_eq_some_iff.mp path.symm
  rw [← isPath, filed key old known]

/-- What is adopted is the same but for the module, of which the log files are told. -/
theorem Logger.adopt_spec (target : Text) (attr : LoggerAttr) (logger : Logger) :
    ∃ outputs dicts, logger.adopt target attr = { logger with
        moduleAttr := logger.moduleAttr.insert target
          { attr with moduleName := target, logLevelOutput := outputs }
        dicts } ∧
      (∀ level, (outputs level).SameSwitches (attr.logLevelOutput level)) ∧
      Renames logger.naming target (attr.filesOf outputLevels) logger.dicts dicts := by
  let copy : LoggerAttr := { attr with moduleName := target }
  obtain ⟨outputs, dicts, sets⟩ :=
    copy.setModuleNames_eq logger.naming target outputLevels logger.dicts
  obtain ⟨same, renames⟩ :=
    copy.setModuleNames_spec logger.naming target outputLevels logger.dicts
  rw [sets] at same renames
  refine ⟨outputs, dicts, ?_, fun level => ?_, renames⟩
  · rw [adopt, LoggerAttr.setModuleName, sets]
  · obtain ⟨name, isSame⟩ := same level
    rw [show outputs level = _ from isSame]
    exact ⟨rfl, rfl, rfl⟩

/--
Copying changes nothing but the target, and setting the default no output, just if the target is not
the source and no log file of the source gets another path by the other module.
-/
theorem copyModuleAttr_only_iff (logger : Logger) (target src : Text) (attr : LoggerAttr)
    (isSrc : logger.moduleAttr.lookup src = some attr)
    (isTarget : (logger.moduleAttr.lookup target).isSome = true) (filed : Filed logger.dicts) :
    ((∃ after, logger.copyModuleAttrFrom target src = some (none, after) ∧
        CopiesOnly target attr logger after) ↔
      target ≠ src ∧ SamePaths logger.naming target attr logger.dicts) ∧
    ((∀ name, ∀ level ∈ outputLevels,
        (logger.setDefaultAttrFrom src).2.outputPaths name level
          = logger.outputPaths name level) ↔
      SamePaths logger.naming "default".toList attr logger.dicts) := by
  constructor
  · by_cases same : target = src
    · -- The attributes are deleted before they are read.
      refine iff_of_false ?_ fun both => both.1 same
      rintro ⟨after, copies, _⟩
      rw [Logger.copyModuleAttrFrom_eq isSrc isTarget, if_pos same] at copies
      cases copies
    · obtain ⟨outputs, dicts, adopts, switches, renames⟩ := logger.adopt_spec target attr
      have others : ∀ name, name ≠ target →
          (logger.adopt target attr).moduleAttr.lookup name = logger.moduleAttr.lookup name := by
        intro name differs
        rw [adopts, AList.lookup_insert_ne differs]
      rw [Logger.copyModuleAttrFrom_eq isSrc isTarget, if_neg same, and_iff_right same]
      constructor
      · rintro ⟨after, isAfter, only⟩
        cases isAfter
        -- The source still has its files, so that their paths are seen.
        have source := Ne.symm same
        have written := Logger.writesTo_of_outputPaths isSrc (others src source)
          (only.paths src source)
        rw [adopts] at written
        exact (writesTo_eq_iff renames).mp written
      · intro samePaths
        have written := samePaths.writesTo renames
        refine ⟨_, rfl, others, fun name differs level _ => ?_, ?_, ?_⟩
        · exact Logger.outputPaths_congr (others name differs) (by rw [adopts]; exact written) level
        · rw [adopts]
          exact ⟨_, AList.lookup_insert _, rfl, rfl, rfl, fun level _ => switches level⟩
        · rw [adopts]
          exact filed.of_samePaths samePaths renames
  · let copy : LoggerAttr := { attr with moduleName := "default".toList }
    have renames : Renames logger.naming "default".toList (attr.filesOf outputLevels) logger.dicts
        (copy.setModuleName logger.naming "default".toList logger.dicts).2 :=
      (copy.setModuleNames_spec logger.naming "default".toList outputLevels logger.dicts).2
    have sets : (logger.setDefaultAttrFrom src).2.moduleAttr = logger.moduleAttr ∧
        (logger.setDefaultAttrFrom src).2.dicts
          = (copy.setModuleName logger.naming "default".toList logger.dicts).2 := by
      rw [Logger.setDefaultAttrFrom, isSrc]
      exact ⟨rfl, rfl⟩
    have attrs : ∀ name, (logger.setDefaultAttrFrom src).2.moduleAttr.lookup name
        = logger.moduleAttr.lookup name := fun name => by rw [sets.1]
    constructor
    · intro paths
      have written := Logger.writesTo_of_outputPaths isSrc (attrs src) (paths src)
      rw [sets.2] at written
      exact (writesTo_eq_iff renames).mp written
    · intro samePaths name level _
      exact Logger.outputPaths_congr (attrs name)
        (by rw [sets.2]; exact samePaths.writesTo renames) level

/-- A logger with two modules, of which the first one has a log file. -/
def Logger.pair (logGenerate : LogGenerate) (path : Text) : Logger where
  naming := ⟨"dnfs".toList, logGenerate⟩
  moduleAttr := (AList.singleton "b".toList { moduleName := "b".toList }).insert "a".toList {
    moduleName := "a".toList
    logLevelOutput := fun level => if level = .lInfo then { logFiles := [path] } else {} }
  dicts := AList.singleton path
    ({ logDirectoryPath := "/l".toList, moduleName := "a".toList, logFilePath := path }, [])

/-- The files of the two loggers are kept under their paths. -/
theorem Logger.pair_filed (logGenerate : LogGenerate) (path : Text) :
    Filed (Logger.pair logGenerate path).dicts := by
  intro key entry found
  cases List.mem_singleton.mp (AList.mem_lookup_iff.mp found)
  rfl

/-- With one file for all modules, copying changes only the target. -/
theorem copyModuleAttr_only_justOne :
    ∃ after attr,
      (Logger.pair .justOne "/l/dnfs.log".toList).moduleAttr.lookup "a".toList = some attr ∧
      (Logger.pair .justOne "/l/dnfs.log".toList).copyModuleAttrFrom "b".toList "a".toList
        = some (none, after) ∧
      CopiesOnly "b".toList attr (Logger.pair .justOne "/l/dnfs.log".toList) after := by
  obtain ⟨after, copies, only⟩ :=
    (copyModuleAttr_only_iff (Logger.pair .justOne "/l/dnfs.log".toList) "b".toList "a".toList
      _ rfl rfl (Logger.pair_filed _ _)).1.mpr ⟨by decide, by decide⟩
  exact ⟨after, _, rfl, copies, only⟩

/-- With a file for each module, the source writes to the file of the target afterwards. -/
theorem copyModuleAttr_only_fails :
    ∃ after,
      (Logger.pair .module "/l/dnfs_a.log".toList).copyModuleAttrFrom "b".toList "a".toList
        = some (none, after) ∧
      (Logger.pair .module "/l/dnfs_a.log".toList).outputPaths "a".toList .lInfo
        = some [some "/l/dnfs_a.log".toList] ∧
      after.outputPaths "a".toList .lInfo = some [some "/l/dnfs_b.log".toList] ∧
      (Logger.pair .module "/l/dnfs_a.log".toList).copyModuleAttrFrom "a".toList "a".toList
        = none ∧
      ((Logger.pair .module "/l/dnfs_a.log".toList).setDefaultAttrFrom "a".toList).2.outputPaths
        "a".toList .lInfo = some [some "/l/dnfs_default.log".toList] :=
  ⟨_, rfl, by decide, by decide, rfl, by decide⟩

end Copying

end Dnfs
