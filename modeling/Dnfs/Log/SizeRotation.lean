import Dnfs.Log.FileNumberLaws
import Dnfs.Log.LogConfigLaws
import Dnfs.Log.LogDiskLaws
import Dnfs.Run.Archive
import Dnfs.Run.Sequences
import Mathlib.Data.List.DropRight

/-! Which files are kept of a log that is cut off by size. -/

namespace Dnfs

variable {world : LogWorld} {file : LogFile} {disk : LogDisk}

section Cutting

open LogFile

/-- A log file that is to be cut off by size, as the configuration sets it up. -/
structure LogFile.Sized (file : LogFile) : Prop where
  mode : file.rotateType = .size
  path : file.logFilePath = file.logDirectoryPath ++ '/' :: file.fileName
  backups : 0 ≤ file.backupCount.toInt

/-- A configuration that cuts off by size makes such a log file, of which nothing is open yet. -/
theorem LogFile.sized_of_generateData {σ : Type} {os : LogOs σ} {naming : LogNaming}
    {configStr moduleN : Text} {logL : LogLevel} {s : σ}
    (config : (generateData os naming { moduleName := moduleN } configStr moduleN logL s).1
      = .ok file) (mode : file.rotateType = .size) :
    file.Sized ∧ file.fileHandler = -1 ∧ file.logFiles = 0 ∧ file.filePathList = [] := by
  obtain ⟨parsed, done, _, rfl⟩ := generateData_ok.mp config
  have isSize : parsed.rotateType = .size := mode
  cases found : find ['@'] configStr with
  | none =>
    rw [setConfig_plain found] at done
    cases done
    cases isSize
  | some argsIndex =>
    rw [setConfig_at found] at done
    split at done
    · cases done
    · obtain ⟨count, positive, ⟨limit, rfl⟩ | ⟨when_, rfl⟩⟩ := setArgs_ok done
      · exact ⟨⟨rfl, rfl, positive⟩, rfl, rfl, rfl⟩
      · cases isSize

/-- The file that the last message went to is over the limit. -/
def LogFile.CutsOff (file : LogFile) (disk : LogDisk) : Prop :=
  file.logLimit.toNat < (disk.fstat file.fileHandler).size

instance : Decidable (file.CutsOff disk) := inferInstanceAs (Decidable (_ < _))

/-- The path of a file that was cut off. -/
def LogFile.rotatePath (file : LogFile) (number : Text) : Text :=
  file.logDirectoryPath ++ '/' :: (file.fileName ++ '.' :: number)

/-- The number that a file gets which is cut off now. -/
def LogFile.number (world : LogWorld) (file : LogFile) (disk : LogDisk) : Option Text :=
  (getFileNumber world.operators (world.readdir (file.closed disk) file.logDirectoryPath)
    file.fileName).toOption

/-- A file is never rotated onto the active one. -/
theorem LogFile.Sized.rotatePath_ne (sized : file.Sized) (number : Text) :
    file.rotatePath number ≠ file.logFilePath := by
  intro same
  have lengths := congrArg List.length same
  simp only [sized.path, rotatePath, List.length_append, List.length_cons] at lengths
  omega

/-- The active file has a path. -/
theorem LogFile.Sized.path_ne (sized : file.Sized) : file.logFilePath ≠ [] := by
  rw [sized.path]
  exact List.append_ne_nil_of_right_ne_nil _ (List.cons_ne_nil _ _)

/-- A call cuts the file off if that is over the limit, and then delivers the message. -/
theorem LogFile.Sized.outMessage (sized : file.Sized) (message : Text) (disk : LogDisk) :
    file.outMessage world.os message disk =
      ((if file.CutsOff disk then file.rotateLogFile world.os disk.now disk
        else (none, file, disk)).andThen (judgeAndCreateLogFile world.os)).andThen
          (writeMessage world.os message) := by
  have tests : file.tested world.os disk = (decide (file.CutsOff disk), disk.now, disk) := by
    rw [tested, sized.mode]
    rfl
  rw [outMessage_eq, tests, rotateIf]
  simp only [decide_eq_true_eq]

/-- What gives a value has not failed. -/
theorem eq_ok_of_toOption {ε α : Type} {result : Except ε α} {value : α}
    (some_ : result.toOption = some value) : result = .ok value := by
  cases result <;> cases some_
  rfl

/-- What is cut off gets its number and is put into the list. -/
theorem LogFile.Sized.rotateLogFile (sized : file.Sized) (nowTime : Int) {number : Text} {n : Nat}
    (numbered : file.number world disk = some number)
    (there : disk.names.lookup file.logFilePath = some n) :
    ∃ fds, file.rotateLogFile world.os nowTime disk =
      (none, file.keepPath world.os (file.rotatePath number) { disk with
        names := (disk.names.erase file.logFilePath).insert (file.rotatePath number) n
        fds }) := by
  have found : getFileNumber world.os.operators
      (world.os.readdir file.logDirectoryPath (file.closed disk)).1 file.fileName = .ok number :=
    eq_ok_of_toOption numbered
  have named : (file.mvFileName world.os nowTime (file.closed disk)).1
      = .ok (file.fileName ++ '.' :: number) := by
    rw [mvFileName, sized.mode]
    dsimp only
    rw [found]
  obtain ⟨fds, closes⟩ := file.closed_eq disk
  refine ⟨fds, ?_⟩
  rw [LogFile.rotateLogFile_disk named, closes, LogDisk.rename]
  dsimp only
  rw [there]
  rfl

end Cutting

section Keeping

/-- How many files are kept of those that were cut off. -/
def retainedCount (backups : Int) (rotations : Nat) : Nat :=
  if backups = 0 then rotations else min backups.toNat rotations

/-- The files that are kept of those that were cut off, which are the last ones. -/
def retained (backups : Int) {α : Type} (rotated : List α) : List α :=
  rotated.rtake (retainedCount backups rotated.length)

/-- One more file is counted, short of the greatest number. -/
theorem toInt_add_one {count : Int32} (small : count ≠ 2147483647) :
    (count + 1).toInt = count.toInt + 1 := by
  have below : count.toInt ≠ 2147483647 := fun same => small (Int32.toInt_inj.mp same)
  have upper := count.toInt_lt
  have lower := count.le_toInt
  have one : (1 : Int32).toInt = 1 := rfl
  rw [Int32.toInt_add, one, Int.bmod_eq_of_le (by omega) (by omega)]

/-- A new path is taken into the window, which moves on once it is as long as it may be. -/
theorem Window.keepPath {start : AList fun _ : Text => Nat} {first rotations : Nat} {path : Text}
    (window : Window start disk.names file.logFilePath file.filePathList first)
    (backups : 0 ≤ file.backupCount.toInt)
    (kept : file.filePathList.length = retainedCount file.backupCount.toInt rotations)
    (count : file.logFiles.toInt = file.filePathList.length) (small : file.logFiles ≠ 2147483647)
    (free : disk.names.lookup path = none) (differs : path ≠ file.logFilePath) (fds) :
    ∃ list count names first', file.keepPath world.os path { disk with
        names := (disk.names.erase file.logFilePath).insert path
          (first + file.filePathList.length), fds }
        = ({ file with filePathList := list, logFiles := count }, { disk with names, fds }) ∧
      Window start names file.logFilePath list first' ∧ names.lookup file.logFilePath = none ∧
      first' + list.length = first + file.filePathList.length + 1 ∧
      list.length = retainedCount file.backupCount.toInt (rotations + 1) ∧
      count.toInt = list.length := by
  have pushed := window.push free differs
  have next := toInt_add_one small
  have gone : ((disk.names.erase file.logFilePath).insert path
      (first + file.filePathList.length)).lookup file.logFilePath = none := by
    rw [AList.lookup_insert_ne differs.symm, AList.lookup_erase]
  rw [retainedCount] at kept
  rw [LogFile.keepPath_disk]
  by_cases many : (0 : Int32) < file.backupCount ∧ file.backupCount < file.logFiles + 1
  · -- The window is as long as it may be, and its first file is removed.
    rw [if_pos many]
    obtain ⟨positive, exceeded⟩ := many
    rw [Int32.lt_iff_toInt_lt, next] at exceeded
    rw [Int32.lt_iff_toInt_lt, show (0 : Int32).toInt = 0 from rfl] at positive
    rw [if_neg (by omega)] at kept
    cases list : file.filePathList with
    | nil =>
      rw [list, List.length_nil] at kept count
      omega
    | cons oldest rest =>
      rw [list, List.length_cons] at kept count
      rw [list] at pushed gone
      have length : (rest ++ [path]).length = rest.length + 1 := by simp
      refine ⟨rest ++ [path], _, _, first + 1, rfl, pushed.pop, lookup_erase_none gone _, ?_, ?_,
        ?_⟩
      · rw [length, List.length_cons]
        omega
      · rw [length, retainedCount, if_neg (by omega)]
        omega
      · rw [length, Int32.add_sub_cancel, count]
  · have length : (file.filePathList ++ [path]).length = file.filePathList.length + 1 := by simp
    rw [if_neg many]
    rw [Int32.lt_iff_toInt_lt, Int32.lt_iff_toInt_lt, next,
      show (0 : Int32).toInt = 0 from rfl] at many
    refine ⟨_, _, _, first, rfl, pushed, gone, by rw [length]; omega, ?_, by rw [length]; omega⟩
    rw [length, retainedCount]
    split at kept
    · next all =>
      rw [if_pos all]
      omega
    · next some_ =>
      rw [if_neg some_]
      omega

end Keeping

end Dnfs
