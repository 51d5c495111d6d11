import Dnfs.Log.FileNumber

/-! A log file that is cut off by time or by size, over an arbitrary operating system. -/

namespace Dnfs

section Settings

/-- `log_level_t`, without the `L_ALL` behind the levels that have an output, their count. -/
inductive LogLevel where
  | nolog | exitError | lError | lWarn | lBacktrace | lInfo | dError | dWarn | dBacktrace | dInfo
  deriving DecidableEq, Repr

/-- The first name of a level in `log_level_info_dict`. -/
def LogLevel.name : LogLevel → Text
  | nolog => "NOLOG".toList
  | exitError => "EXIT_ERROR".toList
  | lError => "LOG_ERROR".toList
  | lWarn => "LOG_WARN".toList
  | lBacktrace => "LOG_BACKTRACE".toList
  | lInfo => "LOG_INFO".toList
  | dError => "DEBUG_ERROR".toList
  | dWarn => "DEBUG_WARN".toList
  | dBacktrace => "DEBUG_BACKTRACE".toList
  | dInfo => "DEBUG_INFO".toList

/-- `log_generate_t`, which says what the name of a log file is made of. -/
inductive LogGenerate where
  | justOne | module | logLevel | moduleLogLevel
  deriving DecidableEq, Repr

/-- `rotate_type_t` -/
inductive RotateType where
  | not | time | size
  deriving DecidableEq, Repr

/-- `rotate_when_t` -/
inductive RotateWhen where
  | never | second | minute | hour | day | midnight | week
  deriving DecidableEq, Repr

/-- The suffix that files cut off by time get, as `strftime` understands it. -/
def timeFormat : RotateWhen → Text
  | .never => []
  | .second => "%Y-%m-%d_%H:%M:%S".toList
  | .minute => "%Y-%m-%d_%H:%M".toList
  | .hour => "%Y-%m-%d_%H".toList
  | .day | .midnight | .week => "%Y-%m-%d".toList

/-- What the names of all log files are made of. -/
structure LogNaming where
  programName : Text
  logGenerate : LogGenerate
  deriving DecidableEq, Repr

end Settings

section System

/-- What `fstat` tells about a file, which is zero where it fails. -/
structure LogStat where
  size : Int
  ctime : Int
  deriving DecidableEq, Repr

/-- What is printed to the error stream instead of throwing. -/
inductive LogNotice where
  | deleteFailed (moduleName path : Text)
  | writeFailed (path moduleName level : Text)
  deriving DecidableEq, Repr

/-- The functions of the operating system that log files use. -/
structure LogOs (σ : Type) where
  time : σ → Int × σ
  fstat (handler : Int) : σ → LogStat × σ
  /-- `access` finds no file. -/
  missing (path : Text) : σ → Bool × σ
  /-- `access` finds that a file may not be written. -/
  readOnly (path : Text) : σ → Bool × σ
  /-- `open` with `O_CREAT`, at the beginning of the file. -/
  openCreate (path : Text) : σ → Int × σ
  /-- `open` with `O_APPEND`. -/
  openAppend (path : Text) : σ → Int × σ
  close (handler : Int) : σ → σ
  write (handler : Int) (text : Text) : σ → Int × σ
  rename (source target : Text) : σ → σ
  /-- Whether `remove` fails. -/
  remove (path : Text) : σ → Bool × σ
  /-- The names of the regular files that `readdir` gives, unless the directory cannot be opened. -/
  readdir (dir : Text) : σ → Option (List Text) × σ
  /-- The mode of what is found under a path. -/
  statMode (path : Text) : σ → Option UInt32 × σ
  /-- Whether `create_directories` fails. -/
  createDirectories (path : Text) : σ → Bool × σ
  notice (text : LogNotice) : σ → σ
  /-- `localtime` and `mktime` of the same day at midnight. -/
  midnight (time : Int) : Int
  /-- A local time in some format. -/
  format (time : Int) (form : Text) : Text
  /-- What the number of a file is, if its name has operators of regular expressions. -/
  operators (name files : Text) : Except Thrown Text

/-- What opening does to the descriptors that are open. -/
def Opened (before after : List Int) (handler : Int) : Prop :=
  handler = -1 ∧ after = before ∨ -1 < handler ∧ handler ∉ before ∧ after = handler :: before

/-- The descriptors that were opened and not closed, as the operating system keeps them. -/
structure LogOs.Handles {σ : Type} (os : LogOs σ) where
  held : σ → List Int
  time : ∀ s, held (os.time s).2 = held s
  fstat : ∀ handler s, held (os.fstat handler s).2 = held s
  missing : ∀ path s, held (os.missing path s).2 = held s
  readOnly : ∀ path s, held (os.readOnly path s).2 = held s
  openCreate : ∀ path s, Opened (held s) (held (os.openCreate path s).2) (os.openCreate path s).1
  openAppend : ∀ path s, Opened (held s) (held (os.openAppend path s).2) (os.openAppend path s).1
  close : ∀ handler s, held (os.close handler s) = (held s).erase handler
  write : ∀ handler text s, held (os.write handler text s).2 = held s
  rename : ∀ source target s, held (os.rename source target s) = held s
  remove : ∀ path s, held (os.remove path s).2 = held s
  /-- The directory is closed again when it was read. -/
  readdir : ∀ dir s, held (os.readdir dir s).2 = held s
  notice : ∀ text s, held (os.notice text s) = held s

end System

/-- A `LogFile`. -/
structure LogFile where
  /-- The interval or the size, in one field of 32 bits. -/
  logLimit : UInt32 := 0
  rotateType : RotateType := .not
  when : RotateWhen := .never
  backupCount : Int32 := 0
  logDirectoryPath : Text := []
  logFiles : Int32 := 0
  useFileBuildTime : Int := 0
  fileHandler : Int := -1
  fileName : Text := []
  logFilePath : Text := []
  filePathList : List Text := []
  moduleName : Text := "default".toList
  logLevel : LogLevel := .nolog
  /-- Whether the error of writing was printed. -/
  errorFlag : Bool := false
  deriving DecidableEq, Repr

/-- What a member function leaves: what it throws, the log file and the operating system. -/
abbrev LogCalled (σ : Type) := Option Thrown × LogFile × σ

variable {σ : Type}

/-- Go on, unless something was thrown. -/
def LogCalled.andThen (called : LogCalled σ) (next : LogFile → σ → LogCalled σ) : LogCalled σ :=
  match called with
  | (some thrown, file, s) => (some thrown, file, s)
  | (none, file, s) => next file s

namespace LogFile

section Paths

def generateLogPath (naming : LogNaming) (file : LogFile) : LogFile :=
  let part := match naming.logGenerate with
    | .justOne => []
    | .module => '_' :: file.moduleName
    | .logLevel => '_' :: file.logLevel.name
    | .moduleLogLevel => '_' :: file.moduleName ++ '_' :: file.logLevel.name
  let cut := match file.rotateType with
    | .not => []
    | .time => "_time".toList
    | .size => "_size".toList
  let fileName := naming.programName ++ part ++ cut ++ ".log".toList
  { file with fileName := fileName, logFilePath := file.logDirectoryPath ++ '/' :: fileName }

end Paths

section Output

variable (os : LogOs σ)
variable (file : LogFile) (nowTime : Int) (s : σ)

/-- `LogFile::judge_and_create_log_file` -/
def judgeAndCreateLogFile : LogCalled σ :=
  if file.logFilePath = [] then
    (some (.logException (.noPath file.moduleName file.logLevel.name)), file, s)
  else
    let (missing, s) := os.missing file.logFilePath s
    if missing then
      let (handler, s) := os.openCreate file.logFilePath s
      let file := { file with fileHandler := handler }
      if handler = -1 then
        (some (.logException
          (.createFailed file.logFilePath file.moduleName file.logLevel.name)), file, s)
      else
        let (now, s) := os.time s
        (none, { file with useFileBuildTime := now }, s)
    else
      let (readOnly, s) := os.readOnly file.logFilePath s
      if readOnly then
        (some (.logException
          (.filePermission file.logFilePath file.logLevel.name file.moduleName)), file, s)
      else
        let (handler, s) := os.openAppend file.logFilePath s
        let file := { file with fileHandler := handler }
        if handler = -1 then
          -- The path is cleared before it is put into the text.
          (some (.logException (.openFailed [] file.logLevel.name file.moduleName)),
            { file with logFilePath := [] }, s)
        else
          let (stat, s) := os.fstat handler s
          (none, { file with useFileBuildTime := stat.ctime }, s)

/-- `LogFile::get_mid_night` -/
def getMidNight : Int := os.midnight nowTime

/-- The name that the file is to get when it is cut off. -/
def mvFileName : Except Thrown Text × σ :=
  match file.rotateType with
  | .time => (.ok (file.fileName ++ '.' :: os.format nowTime (timeFormat file.when)), s)
  | _ =>
    let (files, s) := os.readdir file.logDirectoryPath s
    match getFileNumber os.operators files file.fileName with
    | .error thrown => (.error thrown, s)
    | .ok number => (.ok (file.fileName ++ '.' :: number), s)

/-- Take a new path into the list, and remove the oldest file if there are too many. -/
def keepPath (rotatePath : Text) (s : σ) : LogFile × σ :=
  let file := { file with
    filePathList := file.filePathList ++ [rotatePath]
    logFiles := file.logFiles + 1 }
  if (0 : Int32) < file.backupCount ∧ file.backupCount < file.logFiles then
    let oldest := file.filePathList.headD []
    let (failed, s) := os.remove oldest s
    let s := if failed then os.notice (.deleteFailed file.moduleName oldest) s else s
    ({ file with
      filePathList := file.filePathList.tail
      logFiles := file.logFiles - 1 }, s)
  else (file, s)

/-- `LogFile::rotate_log_file` -/
def rotateLogFile : LogCalled σ :=
  let s := if file.fileHandler = -1 then s else os.close file.fileHandler s
  match file.mvFileName os nowTime s with
  | (.error thrown, s) => (some thrown, file, s)
  | (.ok mvFileName, s) =>
    let rotatePath := file.logDirectoryPath ++ '/' :: mvFileName
    let s := os.rename file.logFilePath rotatePath s
    (none, file.keepPath os rotatePath s)

/-- `LogFile::not_rotate` -/
def notRotate : LogCalled σ := file.judgeAndCreateLogFile os s

/-- Whether the file is to be cut off now. -/
def timeIsUp : Prop :=
  file.useFileBuildTime ≠ 0 ∧ file.logLimit.toNat < nowTime - file.useFileBuildTime ∧
    (file.when ≠ .midnight ∨ getMidNight os nowTime = nowTime)

instance (file : LogFile) (nowTime : Int) : Decidable (file.timeIsUp os nowTime) :=
  inferInstanceAs (Decidable (_ ∧ _ ∧ (_ ∨ _)))

/-- `LogFile::rotate_by_time` -/
def rotateByTime : LogCalled σ :=
  let (nowTime, s) := os.time s
  let called := if file.timeIsUp os nowTime then file.rotateLogFile os nowTime s
    else (none, file, s)
  called.andThen (judgeAndCreateLogFile os)

/-- `LogFile::rotate_by_size` -/
def rotateBySize : LogCalled σ :=
  let (stat, s) := os.fstat file.fileHandler s
  let (nowTime, s) := os.time s
  let called := if file.logLimit.toNat < stat.size then file.rotateLogFile os nowTime s
    else (none, file, s)
  called.andThen (judgeAndCreateLogFile os)

/-- Write a message, and print an error once if that fails. -/
def writeMessage (message : Text) (file : LogFile) (s : σ) : LogCalled σ :=
  let (result, s) := os.write file.fileHandler message s
  if result = -1 ∧ file.errorFlag = false then
    (none, { file with errorFlag := true },
      os.notice (.writeFailed file.logFilePath file.moduleName file.logLevel.name) s)
  else (none, file, s)

/-- `LogFile::out_message` -/
def outMessage (message : Text) (s : σ) : LogCalled σ :=
  let called := match file.rotateType with
    | .not => file.notRotate os s
    | .time => file.rotateByTime os s
    | .size => file.rotateBySize os s
  called.andThen (writeMessage os message)

/-- The destructor. -/
def destroy : σ :=
  if -1 < file.fileHandler then os.close file.fileHandler s else s

/-- The test of a call: whether the file is to be cut off, at which time, and what is left. -/
def tested : Bool × Int × σ :=
  match file.rotateType with
  | .not => (false, 0, s)
  | .time =>
    let (nowTime, s) := os.time s
    (decide (file.timeIsUp os nowTime), nowTime, s)
  | .size =>
    let (stat, s) := os.fstat file.fileHandler s
    let (nowTime, s) := os.time s
    (decide (file.logLimit.toNat < stat.size), nowTime, s)

/-- Cut the file off, if the test says so. -/
def rotateIf (test : Bool × Int × σ) : LogCalled σ :=
  if test.1 then file.rotateLogFile os test.2.1 test.2.2 else (none, file, test.2.2)

/-- Every call tests, cuts off, opens and writes, in all modes. -/
theorem outMessage_eq (message : Text) (s : σ) :
    file.outMessage os message s =
      ((file.rotateIf os (file.tested os s)).andThen (judgeAndCreateLogFile os)).andThen
        (writeMessage os message) := by
  cases mode : file.rotateType with
  | not => simp [outMessage, tested, rotateIf, mode, notRotate, LogCalled.andThen]
  | time => simp [outMessage, tested, rotateIf, mode, rotateByTime]
  | size => simp [outMessage, tested, rotateIf, mode, rotateBySize]

end Output

end LogFile

end Dnfs
