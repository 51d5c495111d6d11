import Dnfs.Log.LogDisk

/-! What one message does to the files of a disk. -/

namespace Dnfs

variable {world : LogWorld} {file : LogFile} {disk : LogDisk}

section Writing

/-- Text at the end of a file is appended. -/
theorem LogInode.write_end (now : Int) (text : Text) (inode : LogInode) :
    inode.write now text inode.data.length =
      { inode with ctime := now, data := inode.data ++ text, times := inode.times ++ [now] } := by
  have whole : inode.data.takeD inode.data.length '\x00' = inode.data := by
    rw [List.takeD_eq_take _ le_rfl, List.take_length]
  rw [LogInode.write, whole, List.drop_eq_nil_of_le (by omega), List.append_nil]

namespace LogDisk

/-- The files after a message was appended to one of them. -/
def appended (disk : LogDisk) (n : Nat) (message : Text) : List LogInode :=
  disk.inodes.modify n fun inode =>
    { inode with
      ctime := disk.now, data := inode.data ++ message, times := inode.times ++ [disk.now] }

/-- The files after a message was put into a new one. -/
def added (disk : LogDisk) (message : Text) : List LogInode :=
  disk.inodes ++ [⟨disk.now, disk.now, message, [disk.now]⟩]

end LogDisk

end Writing

section Opening

open LogFile

/-- A descriptor is a free number. -/
theorem LogDisk.lowestFree_ne (used : List Int) : LogDisk.lowestFree used ≠ -1 := by
  have valid := (LogDisk.lowestFree_spec used).1
  omega

/-- A message makes the log file, if it is missing. -/
theorem LogFile.deliver_missing (world : LogWorld) (file : LogFile) (disk : LogDisk)
    (message : Text) (named : file.logFilePath ≠ [])
    (missing : disk.names.lookup file.logFilePath = none) :
    ∃ handler fds offsets, fds.lookup handler = some disk.inodes.length ∧
      (file.judgeAndCreateLogFile world.os disk).andThen (writeMessage world.os message) =
        (none, { file with fileHandler := handler, useFileBuildTime := disk.now },
          { disk with
            inodes := disk.added message
            names := disk.names.insert file.logFilePath disk.inodes.length
            fds, offsets }) := by
  have valid := LogDisk.lowestFree_ne disk.fds.keys
  have counted : (message.length : Int) ≠ -1 := by omega
  have opens : file.judgeAndCreateLogFile world.os disk =
      (none, { file with
          fileHandler := LogDisk.lowestFree disk.fds.keys
          useFileBuildTime := disk.now },
        (disk.openCreate file.logFilePath).2) := by
    simp [judgeAndCreateLogFile, LogWorld.os, LogDisk.openCreate, named, missing, valid]
  rw [opens, LogCalled.andThen]
  -- The first write of the new descriptor is at the beginning of the empty file.
  let handler := LogDisk.lowestFree disk.fds.keys
  refine ⟨handler, disk.fds.insert handler disk.inodes.length,
    (disk.offsets.insert handler 0).insert handler (0 + message.length),
    AList.lookup_insert disk.fds, ?_⟩
  simp [writeMessage, LogWorld.os, LogDisk.openCreate, missing, LogDisk.write, counted, handler,
    LogDisk.added, LogInode.write, List.modify_eq_set_getElem?]

/-- A message is appended to the log file, if that is there. -/
theorem LogFile.deliver_there (world : LogWorld) (message : Text) {n : Nat} {inode : LogInode}
    (named : file.logFilePath ≠ []) (there : disk.names.lookup file.logFilePath = some n)
    (isFile : disk.inodes[n]? = some inode) :
    ∃ handler fds offsets, fds.lookup handler = some n ∧
      (file.judgeAndCreateLogFile world.os disk).andThen (writeMessage world.os message) =
        (none, { file with fileHandler := handler, useFileBuildTime := inode.ctime },
          { disk with inodes := disk.appended n message, fds, offsets }) := by
  have valid := LogDisk.lowestFree_ne disk.fds.keys
  have counted : (message.length : Int) ≠ -1 := by omega
  have opens : file.judgeAndCreateLogFile world.os disk =
      (none, { file with
          fileHandler := LogDisk.lowestFree disk.fds.keys
          useFileBuildTime := inode.ctime },
        (disk.openAppend file.logFilePath).2) := by
    simp [judgeAndCreateLogFile, LogWorld.os, LogDisk.openAppend, named, there, valid,
      LogDisk.fstat, LogDisk.opened, isFile]
  rw [opens, LogCalled.andThen]
  let handler := LogDisk.lowestFree disk.fds.keys
  refine ⟨handler, disk.fds.insert handler n, disk.offsets.erase handler,
    AList.lookup_insert disk.fds, ?_⟩
  simp [writeMessage, LogWorld.os, LogDisk.openAppend, there, LogDisk.write, counted, handler,
    LogDisk.appended, LogInode.write_end]

end Opening

section Cutting

open LogFile

/-- The disk after the log file was closed. -/
def LogFile.closed (file : LogFile) (disk : LogDisk) : LogDisk :=
  if file.fileHandler = -1 then disk else disk.close file.fileHandler

/-- Closing changes nothing but the descriptors. -/
theorem LogFile.closed_eq (file : LogFile) (disk : LogDisk) :
    ∃ fds, file.closed disk = { disk with fds } := by
  rw [closed]
  split
  · exact ⟨disk.fds, rfl⟩
  · exact ⟨_, rfl⟩

/-- Keeping a path changes the list, its count and the names. -/
theorem LogFile.keepPath_disk (rotatePath : Text) :
    file.keepPath world.os rotatePath disk =
      if (0 : Int32) < file.backupCount ∧ file.backupCount < file.logFiles + 1 then
        ({ file with
            filePathList := (file.filePathList ++ [rotatePath]).tail
            logFiles := file.logFiles + 1 - 1 },
          { disk with
            names := disk.names.erase ((file.filePathList ++ [rotatePath]).headD []) })
      else
        ({ file with
            filePathList := file.filePathList ++ [rotatePath]
            logFiles := file.logFiles + 1 }, disk) := by
  -- The notice that nothing could be removed is not on the disk.
  have printed : ∀ failed notice (left : LogDisk),
      (if failed = true then world.os.notice notice left else left) = left := by
    intro failed notice left
    cases failed <;> rfl
  simp only [keepPath, printed]
  rfl

/-- A file with a new name is closed, renamed and put into the list. -/
theorem LogFile.rotateLogFile_disk {nowTime : Int} {name : Text}
    (named : (file.mvFileName world.os nowTime (file.closed disk)).1 = .ok name) :
    file.rotateLogFile world.os nowTime disk =
      (none, file.keepPath world.os (file.logDirectoryPath ++ '/' :: name)
        ((file.closed disk).rename file.logFilePath (file.logDirectoryPath ++ '/' :: name))) := by
  -- Finding the name changes nothing.
  have finds : file.mvFileName world.os nowTime (file.closed disk)
      = (.ok name, file.closed disk) := by
    refine Prod.ext named ?_
    rw [mvFileName]
    split
    · rfl
    · dsimp only
      split <;> rfl
  have closes : (if file.fileHandler = -1 then disk else world.os.close file.fileHandler disk)
      = file.closed disk := rfl
  rw [rotateLogFile]
  dsimp only
  rw [closes, finds]
  rfl

/-- Under its old name a renamed file is not found. -/
theorem LogDisk.rename_source (disk : LogDisk) {source target : Text} (differ : source ≠ target) :
    (disk.rename source target).names.lookup source = none := by
  rw [LogDisk.rename]
  split
  · next missing => exact missing
  · rw [AList.lookup_insert_ne differ, AList.lookup_erase]

/-- A name that is missing stays so when another one is removed. -/
theorem lookup_erase_none {names : AList fun _ : Text => Nat} {path : Text}
    (missing : names.lookup path = none) (other : Text) :
    (names.erase other).lookup path = none := by
  by_cases same : path = other
  · rw [same, AList.lookup_erase]
  · rw [AList.lookup_erase_ne same, missing]

/-- Renaming changes nothing but names. -/
theorem LogDisk.rename_eq (disk : LogDisk) (source target : Text) :
    ∃ names, disk.rename source target = { disk with names } := by
  rw [LogDisk.rename]
  split
  · exact ⟨disk.names, rfl⟩
  · exact ⟨_, rfl⟩

end Cutting

end Dnfs
