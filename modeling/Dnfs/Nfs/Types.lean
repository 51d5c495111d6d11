import Dnfs.Xdr.Union

/-! The NFSv3 data types, as values free of the memory they are laid out in. -/

namespace Dnfs

variable (look : Bytes → Bytes)

/-- The longest string the format admits. -/
def xdrStringMaxlen : Nat := 8 * 1024

/-- The longest run of file data the format admits. -/
def xdrBytesMaxlenIo : Nat := 64 * 1024 * 1024

/-- The longest handle the format admits. -/
def nfs3Fhsize : Nat := 64

/-- The status of a reply. -/
inductive Nfsstat3 where
  | nfs3Ok | nfs3errPerm | nfs3errNoent | nfs3errIo | nfs3errNxio | nfs3errAcces | nfs3errExist
  | nfs3errXdev | nfs3errNodev | nfs3errNotdir | nfs3errIsdir | nfs3errInval | nfs3errFbig
  | nfs3errNospc | nfs3errRofs | nfs3errMlink | nfs3errNametoolong | nfs3errNotempty
  | nfs3errDquot | nfs3errStale | nfs3errRemote | nfs3errBadhandle | nfs3errNotSync
  | nfs3errBadCookie | nfs3errNotsupp | nfs3errToosmall | nfs3errServerfault | nfs3errBadtype
  | nfs3errJukebox
  deriving DecidableEq, Repr, Inhabited

/-- The integer a status is stored as. -/
def Nfsstat3.code : Nfsstat3 → UInt32
  | nfs3Ok => 0
  | nfs3errPerm => 1
  | nfs3errNoent => 2
  | nfs3errIo => 5
  | nfs3errNxio => 6
  | nfs3errAcces => 13
  | nfs3errExist => 17
  | nfs3errXdev => 18
  | nfs3errNodev => 19
  | nfs3errNotdir => 20
  | nfs3errIsdir => 21
  | nfs3errInval => 22
  | nfs3errFbig => 27
  | nfs3errNospc => 28
  | nfs3errRofs => 30
  | nfs3errMlink => 31
  | nfs3errNametoolong => 63
  | nfs3errNotempty => 66
  | nfs3errDquot => 69
  | nfs3errStale => 70
  | nfs3errRemote => 71
  | nfs3errBadhandle => 10001
  | nfs3errNotSync => 10002
  | nfs3errBadCookie => 10003
  | nfs3errNotsupp => 10004
  | nfs3errToosmall => 10005
  | nfs3errServerfault => 10006
  | nfs3errBadtype => 10007
  | nfs3errJukebox => 10008

/-- Success is the only status stored as zero. -/
@[simp] theorem Nfsstat3.code_eq_zero {status : Nfsstat3} : status.code = 0 ↔ status = .nfs3Ok := by
  cases status <;> simp [code]

/-- The type of a file system object. -/
inductive Ftype3 where
  | nf3reg | nf3dir | nf3blk | nf3chr | nf3lnk | nf3sock | nf3fifo
  deriving DecidableEq, Repr, Inhabited

/-- The integer a type is stored as. -/
def Ftype3.code : Ftype3 → UInt32
  | nf3reg => 1
  | nf3dir => 2
  | nf3blk => 3
  | nf3chr => 4
  | nf3lnk => 5
  | nf3sock => 6
  | nf3fifo => 7

/-- How the client wants written data kept. -/
inductive StableHow where
  | unstable | dataSync | fileSync
  deriving DecidableEq, Repr, Inhabited

/-- The integer a stability is stored as. -/
def StableHow.code : StableHow → UInt32
  | unstable => 0
  | dataSync => 1
  | fileSync => 2

/-- A point in time. -/
structure Nfstime3 where
  tvSec : UInt32
  tvNsec : UInt32
  deriving DecidableEq, Repr, Inhabited

/-- The two numbers of a device. -/
structure Specdata3 where
  specdata1 : UInt32
  specdata2 : UInt32
  deriving DecidableEq, Repr, Inhabited

/-- The attributes of an object. -/
structure Fattr3 where
  type : UInt32
  mode : UInt32
  nlink : UInt32
  uid : UInt32
  gid : UInt32
  size : UInt64
  used : UInt64
  rdev : Specdata3
  fsid : UInt64
  fileid : UInt64
  atime : Nfstime3
  mtime : Nfstime3
  ctime : Nfstime3
  deriving DecidableEq, Repr, Inhabited

/-- Attributes that may follow an operation. -/
abbrev PostOpAttr := BoolUnion Fattr3

/-- A handle is the counted bytes of a path. -/
abbrev NfsFh3 := Bytes

/-- A handle within the bound of the format. -/
def NfsFh3.Wf (handle : NfsFh3) : Prop := handle.length ≤ nfs3Fhsize

/-- A handle that may follow an operation. -/
abbrev PostOpFh3 := BoolUnion NfsFh3

/-- A name is well formed as a string of the format. -/
abbrev NameWf := StringWf xdrStringMaxlen

/-- A name within a directory. -/
structure Diropargs3 where
  dir : NfsFh3
  name : Bytes
  deriving DecidableEq, Repr, Inhabited

/-- The handle is in bound and the name is a string of the format. -/
def Diropargs3.Wf (x : Diropargs3) : Prop :=
  x.dir.Wf ∧ NameWf look x.name

/-- The attributes a client compares to see whether its cache is still current. -/
structure WccAttr where
  size : UInt64
  mtime : Nfstime3
  ctime : Nfstime3
  deriving DecidableEq, Repr, Inhabited

/-- Attributes from before an operation. -/
abbrev PreOpAttr := BoolUnion WccAttr

/-- Attributes from before and after an operation. -/
structure WccData where
  before : PreOpAttr
  after : PostOpAttr
  deriving DecidableEq, Repr, Inhabited

/-- Neither discriminant is out of range. -/
def WccData.Wf (x : WccData) : Prop :=
  x.before.Wf (fun _ => True) ∧ x.after.Wf fun _ => True

/-- A time to set: the client's own, or whatever another discriminant asks for. -/
inductive SetTime where
  /-- The client supplies the time. -/
  | setToClientTime (time : Nfstime3)
  /-- No time follows, whether the time is left alone, taken from the server, or neither. -/
  | other (setIt : UInt32) (noTime : setIt ≠ 2)
  deriving DecidableEq, Repr

/-- Leaving a time alone. -/
def SetTime.dontChange : SetTime := .other 0 (by decide)

instance : Inhabited SetTime := ⟨.dontChange⟩

/-- The attributes a client asks to set. -/
structure Sattr3 where
  mode : BoolUnion UInt32
  uid : BoolUnion UInt32
  gid : BoolUnion UInt32
  size : BoolUnion UInt64
  atime : SetTime
  mtime : SetTime
  deriving DecidableEq, Repr, Inhabited

/-- The four booleans are in range, and any time discriminant is admitted. -/
def Sattr3.Wf (x : Sattr3) : Prop :=
  x.mode.Wf (fun _ => True) ∧ x.uid.Wf (fun _ => True) ∧
    x.gid.Wf (fun _ => True) ∧ x.size.Wf fun _ => True

/-- How a file is created. -/
inductive Createhow3 where
  | unchecked (objAttributes : Sattr3)
  | guarded (objAttributes : Sattr3)
  | exclusive (verf : UInt64)
  /-- Memory can hold another mode, which the routine refuses. -/
  | other (mode : UInt32) (outside : mode ≠ 0 ∧ mode ≠ 1 ∧ mode ≠ 2)
  deriving DecidableEq, Repr

instance : Inhabited Createhow3 := ⟨.unchecked default⟩

/-- The mode is one of the three, and its attributes are in range. -/
def Createhow3.Wf : Createhow3 → Prop
  | unchecked attrs => attrs.Wf
  | guarded attrs => attrs.Wf
  | exclusive _ => True
  | other _ _ => False

/-- The attributes and numbers of a device to be made. -/
structure Devicedata3 where
  devAttributes : Sattr3
  spec : Specdata3
  deriving DecidableEq, Repr, Inhabited

/-- What kind of node is made. -/
inductive Mknoddata3 where
  | chr (device : Devicedata3)
  | blk (device : Devicedata3)
  | sock (pipeAttributes : Sattr3)
  | fifo (pipeAttributes : Sattr3)
  /-- Any other type passes the routine with nothing following it. -/
  | other (type : UInt32) (outside : type ≠ 4 ∧ type ≠ 3 ∧ type ≠ 6 ∧ type ≠ 7)
  deriving DecidableEq, Repr

instance : Inhabited Mknoddata3 := ⟨.other 0 (by decide)⟩

/-- The attributes of the node are in range. -/
def Mknoddata3.Wf : Mknoddata3 → Prop
  | chr device => device.devAttributes.Wf
  | blk device => device.devAttributes.Wf
  | sock attrs => attrs.Wf
  | fifo attrs => attrs.Wf
  | other _ _ => True

/-- The attributes and target of a symbolic link to be made. -/
structure Symlinkdata3 where
  symlinkAttributes : Sattr3
  symlinkData : Bytes
  deriving DecidableEq, Repr, Inhabited

/-- The attributes are in range and the target is a string of the format. -/
def Symlinkdata3.Wf (x : Symlinkdata3) : Prop :=
  x.symlinkAttributes.Wf ∧ NameWf look x.symlinkData

/-- A change time the client may insist on. -/
abbrev Sattrguard3 := BoolUnion Nfstime3

/-- One entry of a directory listing. -/
structure Entry3 where
  fileid : UInt64
  name : Bytes
  cookie : UInt64
  deriving DecidableEq, Repr, Inhabited

/-- The name is a string of the format. -/
def Entry3.Wf (x : Entry3) : Prop := NameWf look x.name

/-- One entry of a directory listing with its attributes and handle. -/
structure Entryplus3 where
  fileid : UInt64
  name : Bytes
  cookie : UInt64
  nameAttributes : PostOpAttr
  nameHandle : PostOpFh3
  deriving DecidableEq, Repr, Inhabited

/-- The name, the attributes and the handle are all in range. -/
def Entryplus3.Wf (x : Entryplus3) : Prop :=
  NameWf look x.name ∧ x.nameAttributes.Wf (fun _ => True) ∧ x.nameHandle.Wf NfsFh3.Wf

/-- A boolean field is zero or one. -/
def BoolWf (v : UInt32) : Prop := v = 0 ∨ v = 1

/-- A listing: the entries and whether they reach the end of the directory. -/
structure Dirlist3 where
  entries : List Entry3
  eof : UInt32
  deriving DecidableEq, Repr, Inhabited

/-- Every entry is well formed and the end marker is a boolean. -/
def Dirlist3.Wf (x : Dirlist3) : Prop :=
  (∀ entry ∈ x.entries, entry.Wf look) ∧ BoolWf x.eof

/-- A listing with attributes and handles. -/
structure Dirlistplus3 where
  entries : List Entryplus3
  eof : UInt32
  deriving DecidableEq, Repr, Inhabited

/-- Every entry is well formed and the end marker is a boolean. -/
def Dirlistplus3.Wf (x : Dirlistplus3) : Prop :=
  (∀ entry ∈ x.entries, entry.Wf look) ∧ BoolWf x.eof

end Dnfs
