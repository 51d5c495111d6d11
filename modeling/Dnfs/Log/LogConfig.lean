import Dnfs.Log.LogFile
import Mathlib.Data.List.AList

/-! How a log file is set up from a string such as `/tmp/logs@(time,midnight,30)`. -/

namespace Dnfs

section Arguments

/-- What the standard library throws goes through. -/
def passing {α : Type} (result : Except StdException α) : Except Thrown α :=
  result.mapError Thrown.std

/-- The directory, which is in front of the first at sign. -/
def dirPathOf (configStr : Text) : Text :=
  match find ['@'] configStr with
  | none => configStr
  | some argsIndex => configStr.take argsIndex

/-- What is behind the at sign, without the first and the last character of it. -/
def argsStrOf (configStr : Text) : Except Thrown (Option Text) :=
  match find ['@'] configStr with
  | none => .ok none
  | some argsIndex =>
    (passing (substr configStr (argsIndex + 2)
      (sizeSub (sizeSub configStr.length argsIndex) 3))).map some

/-- Seconds after which a file is to be cut off. -/
def RotateWhen.interval : RotateWhen → UInt32
  | never => 0
  | second => 1
  | minute => 60
  | hour => 3600
  | day => 86400
  | midnight => 86400
  | week => 604800

/-- The names that a configuration may use. -/
def RotateWhen.ofText (arg : Text) : Option RotateWhen :=
  if arg = "NEVER".toList then some .never
  else if arg = "SECOND".toList then some .second
  else if arg = "MINUTE".toList then some .minute
  else if arg = "HOUR".toList then some .hour
  else if arg = "DAY".toList then some .day
  else if arg = "MIDNIGHT".toList then some .midnight
  else if arg = "WEEK".toList then some .week
  else none

namespace LogFile

variable (file : LogFile)

/-- Shift a number by its unit, which is checked in one case only. -/
def setUnit (sizeLimit : UInt32) (unitB : Text) : Except Thrown LogFile :=
  if unitB = "kb".toList then
    .ok { file with rotateType := .size, logLimit := sizeLimit <<< 10 }
  else if unitB = "mb".toList then
    .ok { file with rotateType := .size, logLimit := sizeLimit <<< 20 }
  else if unitB = "gb".toList then
    if 3 < sizeLimit then .error (.logException (.sizeTooLarge sizeLimit))
    else .ok { file with rotateType := .size, logLimit := sizeLimit <<< 30 }
  else .error (.logException (.sizeUnit unitB))

/-- Cut off by size: a number and a unit of two letters. -/
def setSize (arg : Text) : Except Thrown LogFile := do
  let unitB ← passing (substr arg (sizeSub arg.length 2) arg.length)
  let sizeStr ← passing (substr arg 0 (sizeSub arg.length 2))
  if isNumber sizeStr = false then throw (.logException (.sizeNumber sizeStr))
  else
    -- The number is cut to the 32 bits of the field before the unit is looked at.
    let size ← passing (stoll sizeStr)
    file.setUnit (UInt32.ofInt size) (toLower unitB)

/-- Cut off by time. -/
def setTime (arg : Text) : Except Thrown LogFile :=
  match RotateWhen.ofText (toUpper arg) with
  | some when_ => .ok { file with rotateType := .time, when := when_, logLimit := when_.interval }
  | none => .error (.logException (.timeUnit (toUpper arg)))

/-- The three parameters in the brackets. -/
def setArgs (argsStr : Text) : Except Thrown LogFile :=
  match splitStr argsStr [','] with
  | [kind, limit, count] =>
    if isNumber count = false then .error (.logException (.savedLogs count))
    else do
      let backupCount ← passing (stoi count)
      let file := { file with backupCount := Int32.ofInt backupCount }
      if kind = "size".toList then file.setSize limit
      else if kind = "time".toList then file.setTime limit
      else throw (.logException (.sizeOrTime kind))
  | _ => .error (.logException (.threeParameters argsStr))

/-- Parameters are optional. -/
def setOptional : Option Text → Except Thrown LogFile
  | none => .ok file
  | some argsStr => file.setArgs argsStr

/-- The part of `LogFile::generate_data` that looks at the parameters. -/
def setConfig (configStr : Text) : Except Thrown LogFile :=
  argsStrOf configStr >>= file.setOptional

end LogFile

end Arguments

section Directories

variable {σ : Type} (os : LogOs σ)

/-- The bit of a mode that directories have, and sockets and block devices too. -/
def sIfdir : UInt32 := 0o40000

/-- `creat_directory` -/
def creatDirectory (judgeDir : Text) (s : σ) : Option Thrown × σ :=
  let (mode, s) := os.statMode judgeDir s
  match mode with
  | none =>
    let (failed, s) := os.createDirectories judgeDir s
    (if failed then some .filesystemError else none, s)
  | some mode => (if mode &&& sIfdir = 0 then some (.utilException judgeDir) else none, s)

/-- The part of `LogFile::generate_data` that looks at the directory. -/
def checkLogDirectory (dirPath : Text) (s : σ) : Option Thrown × σ :=
  if isPath dirPath = false then (some (.logException (.directoryName dirPath)), s)
  else
    match creatDirectory os dirPath s with
    | (some thrown, s) => (some thrown, s)
    | (none, s) =>
      let (readOnly, s) := os.readOnly dirPath s
      (if readOnly then some (.logException (.directoryPermission dirPath)) else none, s)

/-- `LogFile::generate_data` -/
def LogFile.generateData (naming : LogNaming) (file : LogFile) (configStr moduleN : Text)
    (logL : LogLevel) (s : σ) : Except Thrown LogFile × σ :=
  match file.setConfig configStr with
  | .error thrown => (.error thrown, s)
  | .ok file =>
    let dirPath := dirPathOf configStr
    match checkLogDirectory os dirPath s with
    | (some thrown, s) => (.error thrown, s)
    | (none, s) =>
      let file := { file with
        logDirectoryPath := dirPath
        moduleName := moduleN
        logLevel := logL }
      (.ok (file.generateLogPath naming), s)

/--
`path_log_file_dict` and `path_rotate_attr_dict`, which always have the same keys: a log file under
its path, with the parameters it was set up with.
-/
abbrev LogDicts := AList fun _ : Text => LogFile × Text

/-- A path that is known is used again, if it is known by the same parameters. -/
def enter (moduleN : Text) (entry : LogFile × Text) (dicts : LogDicts) :
    Except Thrown Text × LogDicts :=
  let logFilePath := entry.1.logFilePath
  match dicts.lookup logFilePath with
  | none => (.ok logFilePath, dicts.insert logFilePath entry)
  | some known =>
    if known.2 ≠ entry.2 then
      (.error (.logException (.cuttingConflict moduleN logFilePath)), dicts)
    else (.ok logFilePath, dicts)

/-- `LogFile::get_log_file`, where a log file is known by its path. -/
def getLogFile (naming : LogNaming) (configStr moduleN : Text) (logL : LogLevel)
    (dicts : LogDicts) (s : σ) : Except Thrown Text × LogDicts × σ :=
  match argsStrOf configStr with
  | .error thrown => (.error thrown, dicts, s)
  | .ok args =>
    match LogFile.generateData os naming { moduleName := moduleN } configStr moduleN logL s with
    | (.error thrown, s) => (.error thrown, dicts, s)
    | (.ok logFile, s) =>
      let (result, dicts) := enter moduleN (logFile, args.getD []) dicts
      (result, dicts, s)

end Directories

end Dnfs
