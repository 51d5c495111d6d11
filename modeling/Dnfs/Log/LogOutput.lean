import Dnfs.Log.LogConfig
import Mathlib.Data.Char
import Mathlib.Data.List.Lex
import Mathlib.Data.List.Sort

/-! Where the messages of a module and level go, and how that is configured. -/

namespace Dnfs

variable {σ : Type} (os : LogOs σ)

/-- A `LogOutputAttr`. -/
structure LogOutputAttr where
  logLevel : LogLevel := .nolog
  moduleName : Text := "default".toList
  stderrOn : Bool := false
  stdoutOn : Bool := false
  syslogOn : Bool := false
  /-- The log files, by the paths under which they are known. -/
  logFiles : List Text := []
  deriving DecidableEq, Repr

/-- What an output is left as, with the dictionaries, and what is thrown. -/
abbrev OutputCalled (σ : Type) := Option Thrown × LogOutputAttr × LogDicts × σ

namespace LogOutputAttr

/-- The loop of `LogOutputAttr::generate_config` over the pieces of a configuration. -/
def addParams (naming : LogNaming) : List Text → LogOutputAttr → LogDicts → σ → OutputCalled σ
  | [], attr, dicts, s => (none, attr, dicts, s)
  | param :: params, attr, dicts, s =>
    if param = "stderr".toList then addParams naming params { attr with stderrOn := true } dicts s
    else if param = "syslog".toList then
      addParams naming params { attr with syslogOn := true } dicts s
    else if param = "stdout".toList then
      addParams naming params { attr with stdoutOn := true } dicts s
    else
      match getLogFile os naming param attr.moduleName attr.logLevel dicts s with
      | (.error thrown, dicts, s) => (some thrown, attr, dicts, s)
      | (.ok path, dicts, s) =>
        addParams naming params { attr with logFiles := attr.logFiles ++ [path] } dicts s

/-- `LogOutputAttr::generate_config`, which clears the files but not the switches. -/
def generateConfig (naming : LogNaming) (attr : LogOutputAttr) (logOutAttrStr : Text)
    (dicts : LogDicts) (s : σ) : OutputCalled σ :=
  addParams os naming (splitStr logOutAttrStr [':']) { attr with logFiles := [] } dicts s

end LogOutputAttr

/-- The modules of a `Logger` with their outputs by level, and the files of all of them. -/
structure LoggerState where
  naming : LogNaming
  moduleAttr : AList fun _ : Text => LogLevel → LogOutputAttr
  dicts : LogDicts

namespace LoggerState

/-- Configure the outputs of some levels, up to the first exception. -/
def setLevels (moduleName logFileConfig : Text) (levels : LogLevel → LogOutputAttr) :
    List LogLevel → LoggerState → σ → Option Thrown × LoggerState × σ
  | [], logger, s => (none, logger, s)
  | logLevel :: logLevels, logger, s =>
    match (levels logLevel).generateConfig os logger.naming logFileConfig logger.dicts s with
    | (thrown, attr, dicts, s) =>
      let levels := Function.update levels logLevel attr
      let logger := { logger with
        moduleAttr := logger.moduleAttr.insert moduleName levels
        dicts := dicts }
      match thrown with
      | some thrown => (some thrown, logger, s)
      | none => setLevels moduleName logFileConfig levels logLevels logger s

/--
`Logger::set_module_log_output`

The messages that wait in the buffers are output before, with the old configuration.
-/
def setModuleLogOutput (moduleName : Text) (logLevelList : List LogLevel) (logFileConfig : Text)
    (logger : LoggerState) (s : σ) : Option Thrown × LoggerState × σ :=
  match logger.moduleAttr.lookup moduleName with
  | none => (some (.logException (.moduleMissing moduleName)), logger, s)
  | some levels => setLevels os moduleName logFileConfig levels logLevelList logger s

/-- Configure the outputs of some levels of some modules, up to the first exception. -/
def setModules (logLevelList : List LogLevel) (logFileConfig : Text) :
    List Text → LoggerState → σ → Option Thrown × LoggerState × σ
  | [], logger, s => (none, logger, s)
  | moduleName :: moduleNames, logger, s =>
    match logger.moduleAttr.lookup moduleName with
    | none => setModules logLevelList logFileConfig moduleNames logger s
    | some levels =>
      match setLevels os moduleName logFileConfig levels logLevelList logger s with
      | (some thrown, logger, s) => (some thrown, logger, s)
      | (none, logger, s) => setModules logLevelList logFileConfig moduleNames logger s

/--
`Logger::set_log_output`, over the modules in the order of `std::map`

The messages that wait in the buffers are output before, with the old configuration.
-/
def setLogOutput (logLevelList : List LogLevel) (logFileConfig : Text) (logger : LoggerState)
    (s : σ) : Option Thrown × LoggerState × σ :=
  setModules os logLevelList logFileConfig (logger.moduleAttr.keys.insertionSort (· ≤ ·)) logger s

end LoggerState

end Dnfs
