import Dnfs.Log.LogFile
import Mathlib.Data.List.AList

/-! A disk on which every call succeeds, for log files to be written to. -/

namespace Dnfs

/-- A file, and when something was written to it. -/
structure LogInode where
  created : Int
  ctime : Int
  data : Text
  times : List Int
  deriving DecidableEq, Repr

/-- The file after a write at some place. -/
def LogInode.write (now : Int) (text : Text) (place : Nat) (inode : LogInode) : LogInode :=
  { inode with
    ctime := now
    data := inode.data.takeD place '\x00' ++ text ++ inode.data.drop (place + text.length)
    times := inode.times ++ [now] }

/-- Files by number, their names, and the descriptors that are open on them. -/
structure LogDisk where
  now : Int
  inodes : List LogInode
  names : AList fun _ : Text => Nat
  fds : AList fun _ : Int => Nat
  /-- Where descriptors that do not append write next. -/
  offsets : AList fun _ : Int => Nat

namespace LogDisk

section Calls

/-- The lowest number that no descriptor has. -/
def lowestFree (used : List Int) : Int :=
  let free : Option Nat := (List.range (used.length + 1)).find? fun n => (n : Int) ∉ used
  free.getD 0

/-- What a descriptor is open on. -/
def opened (disk : LogDisk) (handler : Int) : Option LogInode :=
  (disk.fds.lookup handler).bind fun n => disk.inodes[n]?

/-- The file under a path. -/
def fileAt (disk : LogDisk) (path : Text) : Option LogInode :=
  (disk.names.lookup path).bind fun n => disk.inodes[n]?

def fstat (handler : Int) (disk : LogDisk) : LogStat :=
  match disk.opened handler with
  | none => ⟨0, 0⟩
  | some inode => ⟨inode.data.length, inode.ctime⟩

def openCreate (path : Text) (disk : LogDisk) : Int × LogDisk :=
  let handler := lowestFree disk.fds.keys
  match disk.names.lookup path with
  | some n =>
    (handler, { disk with
      fds := disk.fds.insert handler n
      offsets := disk.offsets.insert handler 0 })
  | none =>
    let n := disk.inodes.length
    (handler, { disk with
      inodes := disk.inodes ++ [⟨disk.now, disk.now, [], []⟩]
      names := disk.names.insert path n
      fds := disk.fds.insert handler n
      offsets := disk.offsets.insert handler 0 })

def openAppend (path : Text) (disk : LogDisk) : Int × LogDisk :=
  let handler := lowestFree disk.fds.keys
  match disk.names.lookup path with
  | some n =>
    (handler, { disk with
      fds := disk.fds.insert handler n
      offsets := disk.offsets.erase handler })
  | none => (-1, disk)

def close (handler : Int) (disk : LogDisk) : LogDisk :=
  { disk with fds := disk.fds.erase handler }

def write (handler : Int) (text : Text) (disk : LogDisk) : Int × LogDisk :=
  match disk.fds.lookup handler with
  | none => (-1, disk)
  | some n =>
    match disk.offsets.lookup handler with
    | none =>
      (text.length, { disk with
        inodes := disk.inodes.modify n fun inode =>
          inode.write disk.now text inode.data.length })
    | some place =>
      (text.length, { disk with
        inodes := disk.inodes.modify n (·.write disk.now text place)
        offsets := disk.offsets.insert handler (place + text.length) })

def rename (source target : Text) (disk : LogDisk) : LogDisk :=
  match disk.names.lookup source with
  | none => disk
  | some n => { disk with names := (disk.names.erase source).insert target n }

def remove (path : Text) (disk : LogDisk) : Bool × LogDisk :=
  ((disk.names.lookup path).isNone, { disk with names := disk.names.erase path })

end Calls

end LogDisk

/-- What depends on more than the disk: the time zone, the order of a directory, the library. -/
structure LogWorld where
  midnight : Int → Int
  format : Int → Text → Text
  readdir : LogDisk → Text → Option (List Text)
  operators : Text → Text → Except Thrown Text

/-- An operating system in which all files may be written and all directories are there. -/
def LogWorld.os (world : LogWorld) : LogOs LogDisk where
  time disk := (disk.now, disk)
  fstat handler disk := (disk.fstat handler, disk)
  missing path disk := ((disk.names.lookup path).isNone, disk)
  readOnly _ disk := (false, disk)
  openCreate path disk := disk.openCreate path
  openAppend path disk := disk.openAppend path
  close handler disk := disk.close handler
  write handler text disk := disk.write handler text
  rename source target disk := disk.rename source target
  remove path disk := disk.remove path
  readdir dir disk := (world.readdir disk dir, disk)
  statMode _ disk := (some 0o40755, disk)
  createDirectories _ disk := (false, disk)
  notice _ disk := disk
  midnight := world.midnight
  format := world.format
  operators := world.operators

/-- The names of all files in a directory. -/
def LogDisk.namesIn (disk : LogDisk) (dir : Text) : List Text :=
  disk.names.keys.filterMap fun path =>
    if dir ++ ['/'] <+: path then some (path.drop (dir.length + 1)) else none

/-- A place without a time zone, where directories are listed and times are not spelt out. -/
def LogWorld.plain : LogWorld where
  midnight time := time - time % 86400
  format _ form := form
  readdir disk dir := some (disk.namesIn dir)
  operators _ _ := .error .regexError

/-- A disk without files. -/
def LogDisk.empty : LogDisk where
  now := 0
  inodes := []
  names := ∅
  fds := ∅
  offsets := ∅

namespace LogDisk

section Descriptors

/-- There is a free number among the first ones. -/
theorem lowestFree_spec (used : List Int) : -1 < lowestFree used ∧ lowestFree used ∉ used := by
  rw [lowestFree]
  cases found : (List.range (used.length + 1)).find? fun n : Nat => (n : Int) ∉ used with
  | some n =>
    have free := List.find?_some found
    exact ⟨by simp only [Option.getD_some]; omega, by simpa using free⟩
  | none =>
    -- Otherwise more numbers are used than there are.
    exfalso
    have all : (List.range (used.length + 1)).map Nat.cast ⊆ used := by
      intro n mem
      obtain ⟨m, inRange, rfl⟩ := List.mem_map.mp mem
      simpa using List.find?_eq_none.mp found m inRange
    have distinct : ((List.range (used.length + 1)).map (Nat.cast : Nat → Int)).Nodup :=
      List.nodup_range.map Nat.cast_injective
    have count := (distinct.subperm all).length_le
    rw [List.length_map, List.length_range] at count
    omega

/-- A free number is put in front of the others. -/
theorem opened_insert (fds : AList fun _ : Int => Nat) (n : Nat) :
    Opened fds.keys (fds.insert (lowestFree fds.keys) n).keys (lowestFree fds.keys) := by
  obtain ⟨valid, free⟩ := lowestFree_spec fds.keys
  exact .inr ⟨valid, free, by rw [AList.keys_insert, List.erase_of_not_mem free]⟩

/-- The descriptors of the disk are opened and closed as they should be. -/
def handles (world : LogWorld) : world.os.Handles where
  held disk := disk.fds.keys
  time _ := rfl
  fstat _ _ := rfl
  missing _ _ := rfl
  readOnly _ _ := rfl
  openCreate path disk := by
    change Opened _ (disk.openCreate path).2.fds.keys (disk.openCreate path).1
    rw [openCreate]
    dsimp only
    split <;> exact opened_insert _ _
  openAppend path disk := by
    change Opened _ (disk.openAppend path).2.fds.keys (disk.openAppend path).1
    rw [openAppend]
    split
    · exact opened_insert _ _
    · exact .inl ⟨rfl, rfl⟩
  close handler disk := AList.keys_erase handler disk.fds
  write handler text disk := by
    change (disk.write handler text).2.fds.keys = _
    rw [write]
    split
    · rfl
    · split
      · rfl
      · rfl
  rename source target disk := by
    change (disk.rename source target).fds.keys = _
    rw [rename]
    split <;> rfl
  remove _ _ := rfl
  readdir _ _ := rfl
  notice _ _ := rfl

end Descriptors

end LogDisk

end Dnfs
