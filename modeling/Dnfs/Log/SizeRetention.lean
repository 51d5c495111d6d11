import Dnfs.Log.SizeRotation

/-! What is on the disk after any messages to a log that is cut off by size. -/

namespace Dnfs

section Histories

open LogFile

/-- A log file, the disk it is on, and all messages that were given to it. -/
structure LogHistory where
  past : List Text
  file : LogFile
  disk : LogDisk

/-- `out_message` at some time, as long as nothing is thrown. -/
def sizeStep (world : LogWorld) (call : Int × Text) (s : LogHistory) : Option LogHistory :=
  match s.file.outMessage world.os call.2 { s.disk with now := call.1 } with
  | (none, file, disk) => some ⟨s.past ++ [call.2], file, disk⟩
  | (some _, _, _) => none

/-- A file that is to be cut off gets a number whose path is not in use. -/
def Numbers (world : LogWorld) (s : LogHistory) (call : Int × Text) : Prop :=
  s.file.CutsOff s.disk →
    ∃ number ∈ s.file.number world { s.disk with now := call.1 },
      s.disk.names.lookup (s.file.rotatePath number) = none

/-- A file is cut off only while the number of those before can still be counted up. -/
def Counts (s : LogHistory) (_ : Int × Text) : Prop :=
  s.file.CutsOff s.disk → s.file.logFiles ≠ 2147483647

/-- What a disk holds under a path. -/
def LogDisk.dataAt (disk : LogDisk) (path : Text) : Option Text :=
  (disk.fileAt path).map LogInode.data

/-- The messages in pieces of which the last ones are kept, each in a file of its own. -/
structure Retains (start : LogDisk) (pieces : List (List Text)) (s : LogHistory) : Prop where
  cut : Pieces s.file.logLimit.toNat pieces s.past
  count : s.file.logFiles.toInt = s.file.filePathList.length
  /-- The files in the list hold what was cut off last. -/
  rotated : s.file.filePathList.map s.disk.dataAt
    = (retained s.file.backupCount.toInt pieces.dropLast).map fun piece => some piece.flatten
  /-- The log file holds what was not cut off yet. -/
  active : s.disk.dataAt s.file.logFilePath = pieces.getLast?.map List.flatten
  distinct : s.file.filePathList.Nodup
  unused : ∀ path ∈ s.file.filePathList, start.names.lookup path = none
  /-- There are no other files than those and the ones of before. -/
  others : ∀ path, path ≠ s.file.logFilePath → path ∉ s.file.filePathList →
    s.disk.names.lookup path = start.names.lookup path

/-- What is to hold after any messages. -/
def Retained (start : LogDisk) (s : LogHistory) : Prop := ∃ pieces, Retains start pieces s

/-- The number of the file that the log file is now, among those made since the start. -/
def newest (start : LogDisk) (pieces : List (List Text)) : Option Nat :=
  if pieces = [] then none else some (start.inodes.length + (pieces.length - 1))

/-- The invariant: every piece is in a file of its own, and the last ones have names. -/
structure Archive (start : LogDisk) (pieces : List (List Text)) (s : LogHistory) : Prop where
  sized : s.file.Sized
  cut : Pieces s.file.logLimit.toNat pieces s.past
  contents : s.disk.inodes.map LogInode.data
    = start.inodes.map LogInode.data ++ pieces.map List.flatten
  named : s.disk.names.lookup s.file.logFilePath = newest start pieces
  opened : s.disk.fds.lookup s.file.fileHandler = newest start pieces
  window : ∃ first, Window start.names s.disk.names s.file.logFilePath s.file.filePathList first ∧
    first + s.file.filePathList.length = start.inodes.length + (pieces.length - 1)
  kept : s.file.filePathList.length
    = retainedCount s.file.backupCount.toInt (pieces.length - 1)
  count : s.file.logFiles.toInt = s.file.filePathList.length

variable {world : LogWorld} {start : LogDisk} {pieces : List (List Text)} {s : LogHistory}
  {call : Int × Text}

variable (archive : Archive start pieces s)
include archive

/-- The files that were made hold the pieces. -/
theorem Archive.inode (i : Nat) : (s.disk.inodes[start.inodes.length + i]?).map LogInode.data
      = pieces[i]?.map List.flatten := by
  rw [← List.getElem?_map, archive.contents, List.getElem?_append_right (by simp),
    List.length_map, Nat.add_sub_cancel_left, List.getElem?_map]

/-- There is one file for every piece. -/
theorem Archive.length : s.disk.inodes.length = start.inodes.length + pieces.length := by
  have lengths := congrArg List.length archive.contents
  simpa using lengths

/-- What the log file holds is the last piece. -/
theorem Archive.dataAt_log :
    s.disk.dataAt s.file.logFilePath = pieces.getLast?.map List.flatten := by
  rw [LogDisk.dataAt, LogDisk.fileAt, archive.named, newest]
  split
  · next empty =>
    rw [empty]
    rfl
  · rw [Option.bind_some, archive.inode, List.getLast?_eq_getElem?]

/-- The size that is looked at is that of the last piece. -/
theorem Archive.cutsOff_iff : s.file.CutsOff s.disk ↔ ∃ piece ∈ pieces.getLast?,
      s.file.logLimit.toNat < piece.flatten.length := by
  have data : (s.disk.opened s.file.fileHandler).map LogInode.data
      = pieces.getLast?.map List.flatten := by
    rw [← archive.dataAt_log, LogDisk.dataAt, LogDisk.fileAt, LogDisk.opened, archive.opened,
      archive.named]
  rw [CutsOff, LogDisk.fstat]
  cases last : pieces.getLast? with
  | none =>
    rw [last] at data
    rw [Option.map_eq_none_iff.mp data]
    simp
  | some piece =>
    rw [last] at data
    obtain ⟨inode, isInode, isData⟩ := Option.map_eq_some_iff.mp data
    rw [isInode]
    simp [isData, -List.length_flatten]

/-- The files in the list hold the pieces that were cut off last. -/
theorem Archive.dataAt_list : s.file.filePathList.map s.disk.dataAt
      = (retained s.file.backupCount.toInt pieces.dropLast).map fun piece =>
          some piece.flatten := by
  obtain ⟨first, window, place⟩ := archive.window
  have count := archive.kept
  have few : retainedCount s.file.backupCount.toInt (pieces.length - 1) ≤ pieces.length - 1 := by
    rw [retainedCount]
    split <;> omega
  -- The names are found as numbers in a row, and the files with these numbers hold the pieces.
  have found : s.file.filePathList.map s.disk.dataAt
      = (List.range' first s.file.filePathList.length).map fun n =>
          (s.disk.inodes[n]?).map LogInode.data := by
    have names := congrArg (List.map fun found : Option Nat =>
      (found.bind fun n => s.disk.inodes[n]?).map LogInode.data) window.found
    rw [List.map_map, List.map_map] at names
    exact names
  rw [found]
  refine List.ext_getElem? fun i => ?_
  rw [List.getElem?_map, List.getElem?_map, retained, List.rtake, List.getElem?_drop,
    List.getElem?_dropLast, List.length_dropLast, ← count]
  by_cases inside : i < s.file.filePathList.length
  · rw [List.getElem?_range' inside, if_pos (by omega), Option.map_some]
    have at_ : first + 1 * i = start.inodes.length
        + (pieces.length - 1 - s.file.filePathList.length + i) := by omega
    rw [at_, archive.inode]
    have within : pieces.length - 1 - s.file.filePathList.length + i < pieces.length := by omega
    rw [List.getElem?_eq_getElem within]
    rfl
  · rw [List.getElem?_eq_none (by simpa using inside), if_neg (by omega)]
    rfl

/-- The invariant is more than what is to hold. -/
theorem Archive.retained : Retained start s := by
  obtain ⟨first, window, _⟩ := archive.window
  exact ⟨pieces, archive.cut, archive.count, archive.dataAt_list, archive.dataAt_log,
    window.distinct, window.unused, window.others⟩

end Histories

section Steps

open LogFile

variable {world : LogWorld} {start : LogDisk} {pieces : List (List Text)} {s : LogHistory}
  {now : Int} {message : Text}

/-- A step is made of cutting off and delivering. -/
theorem sizeStep_eq (sized : s.file.Sized) {cut file : LogFile} {left disk : LogDisk}
    (rotates : (if s.file.CutsOff { s.disk with now } then
          s.file.rotateLogFile world.os now { s.disk with now }
        else (none, s.file, { s.disk with now })) = (none, cut, left))
    (delivers : (cut.judgeAndCreateLogFile world.os left).andThen (writeMessage world.os message)
      = (none, file, disk)) :
    sizeStep world (now, message) s = some ⟨s.past ++ [message], file, disk⟩ := by
  have sends : s.file.outMessage world.os message { s.disk with now } = (none, file, disk) := by
    rw [sized.outMessage]
    exact (congrArg (fun called => (LogCalled.andThen called
      (judgeAndCreateLogFile world.os)).andThen (writeMessage world.os message)) rotates).trans
      delivers
  rw [sizeStep, sends]

/-- A message that goes to the file that is there goes to the last piece. -/
theorem Archive.append {before : List (List Text)} {piece : List Text}
    (archive : Archive start (before ++ [piece]) s) (stays : ¬s.file.CutsOff s.disk) :
    ∃ t, sizeStep world (now, message) s = some t ∧
      Archive start (before ++ [piece ++ [message]]) t := by
  -- The last file of the disk is the one that holds the piece.
  have contents := archive.contents
  rw [List.map_append, ← List.append_assoc] at contents
  obtain ⟨others, lasts, whole, isOthers, isLast⟩ := List.map_eq_append_iff.mp contents
  obtain ⟨inode, rfl, data⟩ := List.map_eq_singleton_iff.mp isLast
  have place : start.inodes.length + before.length = others.length := by
    have lengths := congrArg List.length isOthers
    simpa using lengths.symm
  have same : newest start (before ++ [piece ++ [message]]) = newest start (before ++ [piece]) := by
    simp [newest]
  have there : s.disk.names.lookup s.file.logFilePath = some others.length := by
    rw [archive.named, newest, if_neg (by simp), ← place]
    simp
  have small : piece.flatten.length ≤ s.file.logLimit.toNat := by
    by_contra exceeds
    exact stays (archive.cutsOff_iff.mpr ⟨piece, by simp, by omega⟩)
  obtain ⟨handler, fds, offsets, opened, delivers⟩ := @deliver_there s.file { s.disk with now }
    world message others.length inode archive.sized.path_ne there (by simp [whole])
  obtain ⟨first, window, row⟩ := archive.window
  have lengths : (before ++ [piece ++ [message]]).length = (before ++ [piece]).length := by simp
  refine ⟨_, sizeStep_eq archive.sized (if_neg stays) delivers,
    ⟨archive.sized.mode, archive.sized.path, archive.sized.backups⟩,
    archive.cut.extend small message, ?_, ?_, ?_, ⟨first, window, by rw [lengths]; exact row⟩, ?_,
    archive.count⟩
  · have modified : ({ s.disk with now } : LogDisk).appended others.length message
        = others ++ [{ inode with
            ctime := now, data := inode.data ++ message, times := inode.times ++ [now] }] := by
      rw [LogDisk.appended, whole]
      simp [List.modify_eq_set_getElem?]
    dsimp only
    rw [modified]
    simp [isOthers, data]
  · rw [same]
    exact archive.named
  · rw [same, ← archive.named, there]
    exact opened
  · rw [lengths]
    exact archive.kept

variable (archive : Archive start pieces s)
include archive

/-- A file that is over the limit has a name. -/
theorem Archive.there (cuts : s.file.CutsOff s.disk) :
    pieces ≠ [] ∧ s.disk.names.lookup s.file.logFilePath
      = some (start.inodes.length + (pieces.length - 1)) := by
  obtain ⟨piece, isLast, _⟩ := archive.cutsOff_iff.mp cuts
  have some_ : pieces ≠ [] := by
    rintro rfl
    cases isLast
  exact ⟨some_, by rw [archive.named, newest, if_neg some_]⟩

/-- Where a message is to go to a new file, the old one is put away before, if there is one. -/
theorem Archive.room (now : Int)
    (numbers : Numbers world s (now, message)) (counts : Counts s (now, message))
    (new : s.file.CutsOff s.disk ∨ pieces = []) :
    ∃ list count names fds first,
      (if s.file.CutsOff { s.disk with now } then
          s.file.rotateLogFile world.os now { s.disk with now }
        else (none, s.file, { s.disk with now }))
        = (none, { s.file with filePathList := list, logFiles := count },
          { s.disk with now, names, fds }) ∧
      Window start.names names s.file.logFilePath list first ∧
      names.lookup s.file.logFilePath = none ∧
      first + list.length = start.inodes.length + pieces.length ∧
      list.length = retainedCount s.file.backupCount.toInt pieces.length ∧
      count.toInt = list.length := by
  obtain ⟨first, window, place⟩ := archive.window
  -- Without a file over the limit there was none yet, and nothing is put away.
  by_cases cuts : s.file.CutsOff s.disk
  · obtain ⟨number, numbered, free⟩ := numbers cuts
    obtain ⟨some_, there⟩ := archive.there cuts
    have positive := List.length_pos_iff.mpr some_
    rw [← place] at there
    obtain ⟨fds, rotates⟩ := archive.sized.rotateLogFile now numbered there
    obtain ⟨list, count, names, first', keeps, grown, gone, place', kept, counted⟩ :=
      @Window.keepPath world s.file { s.disk with now } _ first (pieces.length - 1) _ window
        archive.sized.backups archive.kept archive.count (counts cuts) free
        (archive.sized.rotatePath_ne number) fds
    refine ⟨list, count, names, fds, first', ?_, grown, gone, by omega, ?_, counted⟩
    · exact (if_pos cuts).trans (rotates.trans (congrArg (Prod.mk none) keeps))
    · rw [kept, Nat.sub_add_cancel positive]
  · obtain rfl := new.resolve_left cuts
    refine ⟨s.file.filePathList, s.file.logFiles, s.disk.names, s.disk.fds, first, ?_, window,
      archive.named, place, archive.kept, archive.count⟩
    exact if_neg cuts

/-- A message that goes to a new file begins a new piece. -/
theorem Archive.begin (numbers : Numbers world s (now, message)) (counts : Counts s (now, message))
    (new : s.file.CutsOff s.disk ∨ pieces = []) :
    ∃ t, sizeStep world (now, message) s = some t ∧
      Archive start (pieces ++ [[message]]) t := by
  obtain ⟨list, count, names, fds, first, rotates, window, gone, place, kept, counted⟩ :=
    archive.room now numbers counts new
  obtain ⟨handler, fds', offsets, opened, delivers⟩ := deliver_missing world
    { s.file with filePathList := list, logFiles := count } { s.disk with now, names, fds }
    message archive.sized.path_ne gone
  -- The pieces before are as full as they were.
  have full : ∀ piece ∈ pieces.getLast?, s.file.logLimit.toNat < piece.flatten.length := by
    intro piece isLast
    rcases new with cuts | rfl
    · obtain ⟨other, isOther, over_⟩ := archive.cutsOff_iff.mp cuts
      rw [Option.mem_unique isLast isOther]
      exact over_
    · cases isLast
  have newest_ : newest start (pieces ++ [[message]]) = some s.disk.inodes.length := by
    rw [newest, if_neg (by simp), archive.length, List.length_append, List.length_singleton,
      Nat.add_sub_cancel]
  have count_ : (pieces ++ [[message]]).length - 1 = pieces.length := by simp
  refine ⟨_, sizeStep_eq archive.sized rotates delivers,
    ⟨archive.sized.mode, archive.sized.path, archive.sized.backups⟩, archive.cut.cut full message,
    ?_, ?_, ?_, ?_, ?_, counted⟩
  · simp [LogDisk.added, archive.contents]
  · rw [newest_]
    exact AList.lookup_insert _
  · rw [newest_]
    exact opened
  · exact ⟨first, window.insert _, by rw [count_]; exact place⟩
  · rw [count_]
    exact kept

/-- Any message keeps the invariant, if the count goes on. -/
theorem Archive.step {call : Int × Text} (numbers : Numbers world s call) (counts : Counts s call) :
    ∃ t, sizeStep world call s = some t ∧ ∃ pieces', Archive start pieces' t := by
  obtain ⟨now, message⟩ := call
  by_cases cuts : s.file.CutsOff s.disk
  · obtain ⟨t, takes, next⟩ := archive.begin numbers counts (.inl cuts)
    exact ⟨t, takes, _, next⟩
  · rcases List.eq_nil_or_concat' pieces with rfl | ⟨before, piece, rfl⟩
    · obtain ⟨t, takes, next⟩ := archive.begin numbers counts (.inr rfl)
      exact ⟨t, takes, _, next⟩
    · obtain ⟨t, takes, next⟩ := archive.append cuts
      exact ⟨t, takes, _, next⟩

/-- Where the count does not go on, it becomes negative. -/
theorem Archive.counts {call : Int × Text} {t : LogHistory}
    (numbers : Numbers world s call) (takes : sizeStep world call s = some t)
    (retained : Retained start t) : Counts s call := by
  obtain ⟨now, message⟩ := call
  intro cuts full
  obtain ⟨number, numbered, _⟩ := numbers cuts
  obtain ⟨_, there⟩ := archive.there cuts
  obtain ⟨fds, rotates⟩ := archive.sized.rotateLogFile now numbered there
  have least : (2147483647 + 1 : Int32).toInt = -2147483648 := rfl
  -- No count is greater than the backups then, and so nothing is removed.
  have none_ : ¬((0 : Int32) < s.file.backupCount ∧ s.file.backupCount < 2147483647 + 1) := by
    have lower := s.file.backupCount.le_toInt
    rintro ⟨_, below⟩
    rw [Int32.lt_iff_toInt_lt, least] at below
    omega
  rw [keepPath_disk, full, if_neg none_] at rotates
  let names := (s.disk.names.erase s.file.logFilePath).insert (s.file.rotatePath number)
    (start.inodes.length + (pieces.length - 1))
  have gone : names.lookup s.file.logFilePath = none := by
    rw [AList.lookup_insert_ne (archive.sized.rotatePath_ne number).symm, AList.lookup_erase]
  obtain ⟨_, _, _, _, delivers⟩ := deliver_missing world
    { s.file with
      filePathList := s.file.filePathList ++ [s.file.rotatePath number]
      logFiles := 2147483647 + 1 }
    { s.disk with now, names, fds } message archive.sized.path_ne gone
  have result : sizeStep world (now, message) s = some _ :=
    sizeStep_eq archive.sized ((if_pos cuts).trans rotates) delivers
  cases result.symm.trans takes
  obtain ⟨_, retains⟩ := retained
  have count := retains.count
  dsimp only at count
  omega

end Steps

section Runs

open LogFile

instance decidableNumbers (world : LogWorld) (s : LogHistory) (call : Int × Text) :
    Decidable (Numbers world s call) := inferInstanceAs (Decidable (_ → _))

instance decidableCounts (s : LogHistory) (call : Int × Text) : Decidable (Counts s call) :=
  inferInstanceAs (Decidable (_ → _))

/-- A new log file without a file on the disk has nothing put away. -/
theorem LogFile.Sized.archive {file : LogFile} {start : LogDisk} (sized : file.Sized)
    (handler : file.fileHandler = -1) (count : file.logFiles = 0) (list : file.filePathList = [])
    (missing : start.names.lookup file.logFilePath = none)
    (closed : start.fds.lookup (-1) = none) : Archive start [] ⟨[], file, start⟩ where
  sized := sized
  cut := Pieces.nil
  contents := (List.append_nil _).symm
  named := missing
  opened := by rw [handler]; exact closed
  window := ⟨start.inodes.length, by rw [list]; exact Window.nil _ _ _, by rw [list]; rfl⟩
  kept := by
    rw [list, retainedCount]
    split <;> simp
  count := by rw [count, list]; rfl

/--
In every run of messages to a new log file that is cut off by size, the last files are kept with the
end of all messages in them, just if no file is cut off when as many were as can be counted.
-/
theorem logFile_retains_iff {σ : Type} (os : LogOs σ) (s : σ) (naming : LogNaming)
    (configStr moduleN : Text) (logL : LogLevel) (file : LogFile)
    (config : (generateData os naming { moduleName := moduleN } configStr moduleN logL s).1
      = .ok file) (mode : file.rotateType = .size)
    (world : LogWorld) (start : LogDisk) (missing : start.names.lookup file.logFilePath = none)
    (closed : start.fds.lookup (-1) = none) (calls : List (Int × Text))
    (numbers : AtEveryStep (sizeStep world) (Numbers world) ⟨[], file, start⟩ calls) :
    AtEveryPoint (sizeStep world) (Retained start) ⟨[], file, start⟩ calls ↔
      AtEveryStep (sizeStep world) Counts ⟨[], file, start⟩ calls := by
  obtain ⟨sized, handler, count, list⟩ := sized_of_generateData config mode
  have gives : ∀ s, (∃ pieces, Archive start pieces s) → Retained start s :=
    fun _ ⟨_, archive⟩ => archive.retained
  have initially : ∃ pieces, Archive start pieces ⟨[], file, start⟩ :=
    ⟨[], sized.archive handler count list missing closed⟩
  refine atEveryPoint_iff_of_assumed gives ?_ ?_ initially numbers
  · rintro s call ⟨pieces, archive⟩ numbers counts
    exact archive.step numbers counts
  · rintro s call t ⟨pieces, archive⟩ numbers takes retained
    exact archive.counts numbers takes retained

/-- Of three messages, each too long for a file with others, the last two are kept. -/
theorem logFile_retains_three :
    AtEveryPoint (sizeStep .plain) (Retained .empty)
      ⟨[], (generateData LogWorld.plain.os ⟨['d'], .justOne⟩ {} "/l@(size,0kb,1)".toList
        "default".toList .nolog .empty).1.toOption.getD {}, .empty⟩
      [(0, ['x']), (1, ['y']), (2, ['z'])] :=
  (logFile_retains_iff LogWorld.plain.os .empty ⟨['d'], .justOne⟩ "/l@(size,0kb,1)".toList
    "default".toList .nolog _ rfl rfl .plain .empty rfl rfl _ (by decide)).mpr (by decide)

end Runs

end Dnfs
