import Dnfs.Log.LogOutput

/-! The attributes of modules, and how they are set and copied. -/

namespace Dnfs

section Formats

/-- `log_format_t` -/
inductive LogFormat where
  | pgName | hostName | levelName | pathName | fileName | mdName | funcName | lineNo | whenCreated
  | relateCreated | ascTime | threadId | threadName | processId | logMessage
  deriving DecidableEq, Repr

/-- All fields, in their order. -/
def LogFormat.all : List LogFormat :=
  [.pgName, .hostName, .levelName, .pathName, .fileName, .mdName, .funcName, .lineNo, .whenCreated,
    .relateCreated, .ascTime, .threadId, .threadName, .processId, .logMessage]

/-- `log_formatter_dict` -/
def LogFormat.keyword : LogFormat → Text
  | pgName => "%(program_name)".toList
  | hostName => "%(hostname)".toList
  | levelName => "%(levelname)".toList
  | pathName => "%(pathname)".toList
  | fileName => "%(filename)".toList
  | mdName => "%(modulename)".toList
  | funcName => "%(funcName)".toList
  | lineNo => "%(lineno)".toList
  | whenCreated => "%(created)".toList
  | relateCreated => "%(relativeCreated)".toList
  | ascTime => "%(asctime)".toList
  | threadId => "%(thread)".toList
  | threadName => "%(threadName)".toList
  | processId => "%(process)".toList
  | logMessage => "%(message)".toList

/-- Why setting attributes throws, with what is put into the text. -/
inductive AttrReason where
  | defaultMissing (moduleName : Text)
  | sourceMissing (moduleName : Text)
  | targetMissing (moduleName : Text)
  | formatMissing (moduleName : Text)
  /-- There is no field in a format, which is replaced before it is put into the text. -/
  | formatFields (formatter : Text)
  deriving DecidableEq, Repr

end Formats

/-- A `LoggerAttr`. -/
structure LoggerAttr where
  moduleName : Text := "default".toList
  formatter : Text := "%(message)".toList
  logLevelOutput : LogLevel → LogOutputAttr := fun _ => {}
  logLevel : LogLevel := .lInfo
  dateFormat : Text := []
  debugOn : Bool := false
  logFormatterSelect : LogFormat → Bool := fun field => decide (field = .logMessage)

section Attributes

/-- `LoggerAttr::init_log_formatter` -/
def LoggerAttr.initLogFormatter (attr : LoggerAttr) : Option AttrReason × LoggerAttr :=
  let select := fun field : LogFormat => (find field.keyword attr.formatter).isSome
  if LogFormat.all.any select then (none, { attr with logFormatterSelect := select })
  else
    let attr := { attr with logFormatterSelect := select, formatter := "%(message)".toList }
    (some (.formatFields attr.formatter), attr)

/-- `LogFile::set_module_name` -/
def LogFile.setModuleName (naming : LogNaming) (useModuleName : Text) (file : LogFile) : LogFile :=
  generateLogPath naming { file with moduleName := useModuleName }

/-- Change the module of a log file that all who have it share. -/
def renameFile (naming : LogNaming) (moduleN : Text) (dicts : LogDicts) (path : Text) : LogDicts :=
  match dicts.lookup path with
  | none => dicts
  | some (file, args) => dicts.insert path (file.setModuleName naming moduleN, args)

/-- `LogOutputAttr::set_module_name` -/
def LogOutputAttr.setModuleName (naming : LogNaming) (moduleN : Text) (attr : LogOutputAttr)
    (dicts : LogDicts) : LogOutputAttr × LogDicts :=
  ({ attr with moduleName := moduleN }, attr.logFiles.foldl (renameFile naming moduleN) dicts)

/-- The levels that have an output, up to `LEVEL_COUNT`. -/
def outputLevels : List LogLevel :=
  [.nolog, .exitError, .lError, .lWarn, .lBacktrace, .lInfo, .dError, .dWarn, .dBacktrace, .dInfo]

/-- `all_log_level` -/
def allLogLevel : List LogLevel :=
  [.exitError, .lError, .lWarn, .lBacktrace, .lInfo, .dError, .dWarn, .dBacktrace, .dInfo]

/-- The loop of `LoggerAttr::set_module_name` over some levels. -/
def LoggerAttr.setModuleNames (naming : LogNaming) (moduleN : Text) :
    List LogLevel → LoggerAttr → LogDicts → LoggerAttr × LogDicts
  | [], attr, dicts => (attr, dicts)
  | level :: levels, attr, dicts =>
    let (output, dicts) := (attr.logLevelOutput level).setModuleName naming moduleN dicts
    setModuleNames naming moduleN levels
      { attr with logLevelOutput := Function.update attr.logLevelOutput level output } dicts

/-- `LoggerAttr::set_module_name` -/
def LoggerAttr.setModuleName (naming : LogNaming) (moduleN : Text) (attr : LoggerAttr)
    (dicts : LogDicts) : LoggerAttr × LogDicts :=
  attr.setModuleNames naming moduleN outputLevels dicts

end Attributes

/-- The attributes of all modules, and the log files that their outputs share. -/
structure Logger where
  naming : LogNaming
  defaultAttr : LoggerAttr := {}
  moduleAttr : AList fun _ : Text => LoggerAttr
  dicts : LogDicts

namespace Logger

/-- The modules in the order of `std::map`. -/
def names (logger : Logger) : List Text :=
  logger.moduleAttr.keys.insertionSort (· ≤ ·)

/-- Set the attributes of a module that were copied for it, with its name. -/
def adopt (moduleName : Text) (attr : LoggerAttr) (logger : Logger) : Logger :=
  let (attr, dicts) := LoggerAttr.setModuleName logger.naming moduleName
    { attr with moduleName := moduleName } logger.dicts
  { logger with moduleAttr := logger.moduleAttr.insert moduleName attr, dicts }

/-- `Logger::init_module` -/
def initModule (moduleName : Text) (logger : Logger) : Logger :=
  if (logger.moduleAttr.lookup moduleName).isSome then logger
  else
    let attr := logger.defaultAttr
    { logger with
      moduleAttr := logger.moduleAttr.insert moduleName { attr with
        moduleName := moduleName
        logLevelOutput := fun level =>
          if level ∈ allLogLevel then
            { attr.logLevelOutput level with logLevel := level, moduleName := moduleName }
          else attr.logLevelOutput level } }

/-- `Logger::set_default_attr_from` -/
def setDefaultAttrFrom (moduleName : Text) (logger : Logger) : Option AttrReason × Logger :=
  match logger.moduleAttr.lookup moduleName with
  | none => (some (.defaultMissing moduleName), logger)
  | some attr =>
    let (attr, dicts) := LoggerAttr.setModuleName logger.naming "default".toList
      { attr with moduleName := "default".toList } logger.dicts
    (none, { logger with defaultAttr := attr, dicts })

/-- `Logger::copy_module_attr_from`. A module cannot be read after it was deleted to make room. -/
def copyModuleAttrFrom (targetModuleName srcModuleName : Text) (logger : Logger) :
    Option (Option AttrReason × Logger) :=
  match logger.moduleAttr.lookup srcModuleName with
  | none => some (some (.sourceMissing srcModuleName), logger)
  | some attr =>
    if (logger.moduleAttr.lookup targetModuleName).isNone then
      some (some (.targetMissing targetModuleName), logger)
    else if targetModuleName = srcModuleName then none
    else some (none, logger.adopt targetModuleName attr)

/-- Set the format of a module. -/
def setFormat (formatStr moduleName : Text) (logger : Logger) : Option AttrReason × Logger :=
  match logger.moduleAttr.lookup moduleName with
  | none => (some (.formatMissing moduleName), logger)
  | some attr =>
    let (thrown, attr) := LoggerAttr.initLogFormatter { attr with formatter := formatStr }
    (thrown, { logger with moduleAttr := logger.moduleAttr.insert moduleName attr })

/-- The loop of `Logger::set_formatter` over some modules, up to the first exception. -/
def setFormats (formatStr : Text) : List Text → Logger → Option AttrReason × Logger
  | [], logger => (none, logger)
  | moduleName :: moduleNames, logger =>
    match logger.setFormat formatStr moduleName with
    | (some thrown, logger) => (some thrown, logger)
    | (none, logger) => setFormats formatStr moduleNames logger

/-- `Logger::set_formatter` -/
def setFormatter (formatStr : Text) (logger : Logger) : Option AttrReason × Logger :=
  logger.setFormats formatStr logger.names

/-- `Logger::set_module_formatter` -/
def setModuleFormatter (moduleName formatStr : Text) (logger : Logger) :
    Option AttrReason × Logger :=
  logger.setFormat formatStr moduleName

/-- `Logger::set_all_module_attr_default` -/
def setAllModuleAttrDefault (logger : Logger) : Logger :=
  logger.names.foldl (fun logger moduleName => logger.adopt moduleName logger.defaultAttr) logger

end Logger

end Dnfs
