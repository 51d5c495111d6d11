import Dnfs.Memory.Words

/-! The system calls the server makes, over an arbitrary file system state. -/

namespace Dnfs

/-- A path as the bytes of a C string. -/
abbrev Path := Bytes

/-- Why a call failed, as far as the server tells reasons apart. -/
inductive Errno where
  | enoent | enotdir | eacces
  /-- Every other reason. -/
  | other (number : Nat)
  deriving DecidableEq, Repr

/-- The seven types of a file system object. -/
inductive FileType where
  | fifo | chr | dir | blk | reg | lnk | sock
  deriving DecidableEq, Repr, Inhabited

/-- The bits of a mode that name the type. -/
def FileType.bits : FileType → UInt32
  | fifo => 0x1000
  | chr => 0x2000
  | dir => 0x4000
  | blk => 0x6000
  | reg => 0x8000
  | lnk => 0xa000
  | sock => 0xc000

/-- The mask of the bits that name the type. -/
def sIfmt : UInt32 := 0xf000

/-- Only character and block devices have device numbers of their own. -/
def FileType.isDevice : FileType → Bool
  | chr => true
  | blk => true
  | _ => false

/-- A point in time with nanoseconds. -/
structure Timespec where
  tvSec : UInt64
  tvNsec : UInt64
  deriving DecidableEq, Repr, Inhabited

/-- There are permissions, none at all among them. -/
instance neZeroPerm : NeZero 4096 := ⟨by decide⟩

/-- What examining an object tells. -/
structure Stat where
  type : FileType
  /-- Permission bits, with those for set-user, set-group and sticky. -/
  perm : Fin 4096
  stNlink : UInt64
  stUid : UInt32
  stGid : UInt32
  stSize : UInt64
  stBlocks : UInt64
  stRdev : UInt64
  stDev : UInt64
  stIno : UInt64
  stAtim : Timespec
  stMtim : Timespec
  stCtim : Timespec
  deriving DecidableEq, Repr

/-- The mode word: the type above the permissions. -/
def Stat.stMode (st : Stat) : UInt32 := st.type.bits ||| UInt32.ofNat st.perm

/-- The space of a file system. -/
structure Statvfs where
  fFrsize : UInt64
  fBlocks : UInt64
  fBfree : UInt64
  fBavail : UInt64
  fFiles : UInt64
  fFfree : UInt64
  fFavail : UInt64
  deriving DecidableEq, Repr

/-- One record of a directory. -/
structure Dirent where
  dIno : UInt64
  /-- The position after this record. -/
  dOff : UInt64
  dName : Bytes
  /-- A name is a C string in an array of 256 characters. -/
  dName_wf : dName.length ≤ 255 ∧ 0 ∉ dName
  deriving DecidableEq, Repr

/-- An open descriptor, and which file it is open on. -/
structure Fd where
  number : Nat
  file : Nat
  deriving DecidableEq, Repr

/-- The ways the server opens a file. -/
inductive OpenMode where
  /-- For reading, creating the file if it is missing. -/
  | creat
  /-- For writing, creating the file if it is missing. -/
  | creatWronly
  /-- For reading. -/
  | rdonly
  deriving DecidableEq, Repr

/-- A call that only succeeds or fails, as a function of the state it finds. -/
abbrev Action (σ : Type) := σ → Except Errno Unit × σ

/--
The calls, each as a function of the state it finds.

Examining is free of effects. Any other call leaves a state behind whether or not it succeeds.
-/
structure Kernel (σ : Type) where
  lstat : σ → Path → Except Errno Stat
  statvfs : σ → Path → Except Errno Statvfs
  readlink : σ → Path → (bufsiz : UInt64) → Except Errno Bytes
  /-- The sorted records of a directory, all at once. -/
  scandir : σ → Path → Except Errno (List Dirent)
  /-- Open a directory for reading records. -/
  openDirectory : σ → Path → Except Errno Unit
  /-- Move an open directory to a position. -/
  lseek : σ → Path → UInt64 → Except Errno Unit
  /-- What reading records gives again and again from a position, until it gives nothing. -/
  getdents : σ → Path → UInt64 → List (Except Errno (List Dirent))
  openFile : Path → OpenMode → σ → Except Errno Fd × σ
  close : Fd → σ → σ
  /-- A read that succeeds gives at most as many bytes as were asked for. -/
  preadv : Fd → (size : Nat) → (offset : UInt64) → σ →
    Except Errno { data : Bytes // data.length ≤ size } × σ
  /-- A write that succeeds wrote some number of the bytes it was given. -/
  pwritev : Fd → (data : Bytes) → (offset : UInt64) → σ → Except Errno (Fin (data.length + 1)) × σ
  fsync : Fd → Action σ
  chmod : Path → UInt32 → Action σ
  chown : Path → (owner group : UInt32) → Action σ
  /-- No times given means the present. -/
  utimes : Path → Option (Timespec × Timespec) → Action σ
  mkdir : Path → UInt32 → Action σ
  symlink : (target : Bytes) → Path → Action σ
  mknod : Path → (mode : UInt32) → (dev : UInt64) → Action σ
  remove : Path → Action σ
  rmdir : Path → Action σ
  rename : (src dst : Path) → Action σ
  link : (src dst : Path) → Action σ

/-- A system that finds and opens nothing, and on which all changes come to the same. -/
def Kernel.uniform {σ : Type} (change : Action σ) : Kernel σ where
  lstat _ _ := .error .enoent
  statvfs _ _ := .error .enoent
  readlink _ _ _ := .error .enoent
  scandir _ _ := .error .enoent
  openDirectory _ _ := .error .enoent
  lseek _ _ _ := .error .enoent
  getdents _ _ _ := []
  openFile _ _ fs := (.error .enoent, fs)
  close _ fs := fs
  preadv _ _ _ fs := (.error .enoent, fs)
  pwritev _ _ _ fs := (.error .enoent, fs)
  fsync _ := change
  chmod _ _ := change
  chown _ _ _ := change
  utimes _ _ := change
  mkdir _ _ := change
  symlink _ _ := change
  mknod _ _ _ := change
  remove _ := change
  rmdir _ := change
  rename _ _ := change
  link _ _ := change

/-- The calls that change something, as they are noted down when they are made. -/
inductive Sys where
  | chmod | chown | utimes | mkdir | symlink | mknod | remove | rmdir | rename | link
  /-- Opening with creation. -/
  | openFile
  | pwritev (file : Nat) (offset : UInt64) (count : Nat)
  | fsync (file : Nat)
  deriving DecidableEq, Repr

/-- One call that was made, and whether it succeeded. -/
structure Call where
  sys : Sys
  ok : Bool
  deriving DecidableEq, Repr

/-- A file system state beside the calls made to it while serving a request, newest first. -/
structure Os (σ : Type) where
  fs : σ
  calls : List Call
  deriving DecidableEq, Repr

/-- Whether a call succeeded. -/
def succeeded {α : Type} : Except Errno α → Bool
  | .ok _ => true
  | .error _ => false

/-- Make a call and note it down. -/
def Os.call {σ α : Type} (os : Os σ) (note : Except Errno α → Sys)
    (make : σ → Except Errno α × σ) : Except Errno α × Os σ :=
  let (result, fs) := make os.fs
  (result, { fs, calls := ⟨note result, succeeded result⟩ :: os.calls })

/-- The outcome of a noted call is the outcome of the call. -/
@[simp] theorem Os.call_fst {σ α : Type} (os : Os σ) (note : Except Errno α → Sys)
    (make : σ → Except Errno α × σ) : (os.call note make).1 = (make os.fs).1 := rfl

/-- The state a noted call leaves is the state the call leaves. -/
@[simp] theorem Os.call_fs {σ α : Type} (os : Os σ) (note : Except Errno α → Sys)
    (make : σ → Except Errno α × σ) : (os.call note make).2.fs = (make os.fs).2 := rfl

/-- A call is noted before all earlier ones. -/
@[simp] theorem Os.call_calls {σ α : Type} (os : Os σ) (note : Except Errno α → Sys)
    (make : σ → Except Errno α × σ) :
    (os.call note make).2.calls
      = ⟨note (make os.fs).1, succeeded (make os.fs).1⟩ :: os.calls := rfl

end Dnfs
