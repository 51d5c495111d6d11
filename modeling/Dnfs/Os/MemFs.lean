import Dnfs.Os.Laws

/-! A small file system in memory, some of whose calls can be made to fail. -/

namespace Dnfs

/-- The calls that can be made to fail. -/
inductive Fault where
  | openFile | pwritev | fsync | chmod | chown | utimes | mkdir | symlink | mknod | remove
  | rmdir | rename | link
  deriving DecidableEq, Repr

/-- Objects by path, bytes by file number, and the records every directory reads as. -/
structure MemFs where
  nodes : List (Path × Stat)
  data : List (Nat × Bytes)
  dirents : List Dirent
  faults : List Fault
  deriving DecidableEq, Repr

/-- What an object of a type looks like, with its number and nothing else of note. -/
def Stat.plain (type : FileType) (stIno : UInt64) : Stat where
  type
  perm := 0o755
  stNlink := 1
  stUid := 0
  stGid := 0
  stSize := 0
  stBlocks := 0
  stRdev := 0
  stDev := 0
  stIno
  stAtim := default
  stMtim := default
  stCtim := default

namespace MemFs

/-- Examine a path. -/
def lstat (fs : MemFs) (path : Path) : Except Errno Stat :=
  match fs.nodes.lookup path with
  | some st => .ok st
  | none => .error .enoent

/-- The bytes of a file. -/
def read (fs : MemFs) (file : Nat) : Bytes := (fs.data.lookup file).getD []

/-- Do something, unless it is to fail. -/
def unless_ {α : Type} (fs : MemFs) (fault : Fault) (result : α) (after : MemFs) :
    Except Errno α × MemFs :=
  if fault ∈ fs.faults then (.error (.other 5), fs) else (.ok result, after)

/-- The file system with a new object of a type. -/
def make (fs : MemFs) (path : Path) (type : FileType) : MemFs :=
  { fs with nodes := (path, .plain type (UInt64.ofNat (fs.nodes.length + 1))) :: fs.nodes }

/-- The file system without a path. -/
def drop (fs : MemFs) (path : Path) : MemFs :=
  { fs with nodes := fs.nodes.filter fun node => node.1 ≠ path }

/-- Open a path, making a file of it if it is missing. -/
def openFile (path : Path) (_ : OpenMode) (fs : MemFs) : Except Errno Fd × MemFs :=
  match fs.nodes.lookup path with
  | some st => fs.unless_ .openFile ⟨3, st.stIno.toNat⟩ fs
  | none => fs.unless_ .openFile ⟨3, fs.nodes.length + 1⟩ (fs.make path .reg)

/-- Write all the bytes. -/
def pwritev (fd : Fd) (data : Bytes) (offset : UInt64) (fs : MemFs) :
    Except Errno (Fin (data.length + 1)) × MemFs :=
  fs.unless_ .pwritev (Fin.last _)
    { fs with data := (fd.file, splice (fs.read fd.file) offset.toNat data) :: fs.data }

/-- The type a mode asks for, a regular file where it asks for nothing known. -/
def typeOf (mode : UInt32) : FileType :=
  ([.fifo, .chr, .dir, .blk, .lnk, .sock].find? fun type =>
    mode &&& sIfmt = FileType.bits type).getD
    .reg

/-- Move a path. -/
def move (fs : MemFs) (src dst : Path) : MemFs :=
  { fs with nodes := fs.nodes.map fun node => if node.1 = src then (dst, node.2) else node }

/-- The records behind a position. -/
def direntsFrom (fs : MemFs) (position : UInt64) : List Dirent :=
  fs.dirents.filter fun dirent => position < dirent.dOff

/-- The path of the only file of the next file system. -/
def demoPath : Path := [0x2f, 0x66]

/-- The path of the only directory of the file system after that. -/
def demoDir : Path := [0x2f, 0x64]

/-- The name of the file in it. -/
def demoName : Bytes := [0x66]

/-- A file system with a directory and one empty file in it, where some calls fail. -/
def demoTree (faults : List Fault) : MemFs :=
  ⟨[(demoDir, .plain .dir 1), (demoDir ++ 0x2f :: demoName, .plain .reg 2)], [], [], faults⟩

/-- A file system with one empty file, number seven, where some calls fail. -/
def demo (faults : List Fault) : MemFs := ⟨[(demoPath, .plain .reg 7)], [], [], faults⟩

end MemFs

/-- The calls on a file system in memory. -/
def memKernel : Kernel MemFs where
  lstat := MemFs.lstat
  statvfs := fun _ _ => .ok ⟨0, 0, 0, 0, 0, 0, 0⟩
  readlink := fun _ _ _ => .error (.other 22)
  scandir := fun fs _ => .ok fs.dirents
  openDirectory := fun _ _ => .ok ()
  lseek := fun _ _ _ => .ok ()
  getdents := fun fs _ position => [.ok (fs.direntsFrom position)]
  openFile := MemFs.openFile
  close := fun _ fs => fs
  preadv := fun fd size offset fs =>
    (.ok ⟨((fs.read fd.file).drop offset.toNat).take size, List.length_take_le _ _⟩, fs)
  pwritev := MemFs.pwritev
  fsync := fun _ fs => fs.unless_ .fsync () fs
  chmod := fun _ _ fs => fs.unless_ .chmod () fs
  chown := fun _ _ _ fs => fs.unless_ .chown () fs
  utimes := fun _ _ fs => fs.unless_ .utimes () fs
  mkdir := fun path _ fs => fs.unless_ .mkdir () (fs.make path .dir)
  symlink := fun _ path fs => fs.unless_ .symlink () (fs.make path .lnk)
  mknod := fun path mode _ fs => fs.unless_ .mknod () (fs.make path (MemFs.typeOf mode))
  remove := fun path fs => fs.unless_ .remove () (fs.drop path)
  rmdir := fun path fs => fs.unless_ .rmdir () (fs.drop path)
  rename := fun src dst fs => fs.unless_ .rename () (fs.move src dst)
  link := fun _ dst fs => fs.unless_ .link () (fs.make dst .reg)

section Laws

variable {α : Type} {fs after : MemFs} {fault : Fault} {result : α}

/-- Whatever is seen alike before and after is seen alike whether or not the call fails. -/
theorem MemFs.unless_keeps {β : Type} (view : MemFs → β) (same : view after = view fs) :
    view (fs.unless_ fault result after).2 = view fs := by
  unfold MemFs.unless_
  by_cases fails : fault ∈ fs.faults
  · rw [if_pos fails]
  · rw [if_neg fails]
    exact same

/-- A call that fails changes nothing. -/
theorem MemFs.unless_failed (failed : succeeded (fs.unless_ fault result after).1 = false) :
    (fs.unless_ fault result after).2 = fs := by
  unfold MemFs.unless_ at failed ⊢
  by_cases fails : fault ∈ fs.faults
  · rw [if_pos fails]
  · rw [if_neg fails] at failed
    cases failed

/-- So it leaves every object in place. -/
theorem MemFs.unless_nodes (failed : succeeded (fs.unless_ fault result after).1 = false) :
    (fs.unless_ fault result after).2.nodes = fs.nodes := by
  rw [unless_failed failed]

/-- The bytes of files in memory are respected. -/
def memContents : Contents memKernel where
  read := MemFs.read
  openFile := by
    intro path mode fs
    show MemFs.read (MemFs.openFile path mode fs).2 = _
    unfold MemFs.openFile
    -- A new object has no bytes yet.
    cases fs.nodes.lookup path with
    | none | some st => exact MemFs.unless_keeps MemFs.read rfl
  close := fun _ _ => rfl
  fsync := fun _ fs => MemFs.unless_keeps MemFs.read rfl
  pwritev_ok := by
    intro fd data offset fs count wrote file
    change (MemFs.pwritev fd data offset fs).1 = _ at wrote
    show MemFs.read (MemFs.pwritev fd data offset fs).2 file = _
    unfold MemFs.pwritev MemFs.unless_ at wrote ⊢
    by_cases fails : Fault.pwritev ∈ fs.faults
    · rw [if_pos fails] at wrote
      cases wrote
    · rw [if_neg fails] at wrote ⊢
      obtain rfl : Fin.last data.length = count := by simpa using wrote
      by_cases same : file = fd.file
      · simp [MemFs.read, same]
      · have apart : (file == fd.file) = false := by simpa using same
        simp [MemFs.read, same, List.lookup_cons, apart]
  pwritev_error := by
    intro fd data offset fs errno failed
    change (MemFs.pwritev fd data offset fs).1 = _ at failed
    show MemFs.read (MemFs.pwritev fd data offset fs).2 = _
    unfold MemFs.pwritev at failed ⊢
    rw [MemFs.unless_failed]
    rw [failed]
    rfl

/-- The tree in memory is its list of objects. -/
def memTree : Tree memKernel where
  View := List (Path × Stat)
  view := MemFs.nodes
  openFile := by
    intro path mode fs failed
    change succeeded (MemFs.openFile path mode fs).1 = _ at failed
    show (MemFs.openFile path mode fs).2.nodes = _
    unfold MemFs.openFile at failed ⊢
    split at failed
    · exact MemFs.unless_keeps MemFs.nodes rfl
    · rw [MemFs.unless_failed failed]
  mkdir := fun _ _ _ => MemFs.unless_nodes
  symlink := fun _ _ _ => MemFs.unless_nodes
  mknod := fun _ _ _ _ => MemFs.unless_nodes
  remove := fun _ _ => MemFs.unless_nodes
  rmdir := fun _ _ => MemFs.unless_nodes
  rename := fun _ _ _ => MemFs.unless_nodes
  link := fun _ _ _ => MemFs.unless_nodes
  close := fun _ _ => rfl

end Laws

end Dnfs
