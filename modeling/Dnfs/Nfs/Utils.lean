import Dnfs.Nfs.Layout
import Dnfs.Os.Kernel

/-! The helpers that handlers share: examining objects, and their paths, handles and attributes. -/

namespace Dnfs

variable {σ : Type}

/-- The result codes of a service function. -/
inductive NfsReqResult where
  | nfsReqOk | nfsReqDrop | nfsReqError | nfsReqReplay | nfsReqAsyncWait | nfsReqXprtDied
  | nfsReqAuthErr
  deriving DecidableEq, Repr, Inhabited

section Attributes

variable (k : Kernel σ)

/-- The bits of a device number under a mask. -/
def devBits (dev mask : UInt64) : UInt64 := dev &&& mask

/-- The high part of a device number. -/
def major (dev : UInt64) : UInt32 :=
  ((devBits dev 0x00000000000fff00 >>> 8) ||| (devBits dev 0xfffff00000000000 >>> 32)).toUInt32

/-- The low part of a device number. -/
def minor (dev : UInt64) : UInt32 :=
  (devBits dev 0x00000000000000ff ||| (devBits dev 0x00000ffffff00000 >>> 12)).toUInt32

/-- The device number of two parts. -/
def makedev (high low : UInt32) : UInt64 :=
  (devBits high.toUInt64 0x00000fff <<< 8) ||| (devBits high.toUInt64 0xfffff000 <<< 32) |||
    devBits low.toUInt64 0x000000ff ||| (devBits low.toUInt64 0xffffff00 <<< 12)

/-- The type a mode names, in the order the cases are tried. -/
def ftype3OfMode (stMode : UInt32) : Option Ftype3 :=
  let kind := stMode &&& sIfmt
  if kind = FileType.bits .fifo then some .nf3fifo
  else if kind = FileType.bits .chr then some .nf3chr
  else if kind = FileType.bits .dir then some .nf3dir
  else if kind = FileType.bits .blk then some .nf3blk
  -- A mode with every type bit set is taken for a regular file.
  else if kind = FileType.bits .reg ∨ kind = sIfmt then some .nf3reg
  else if kind = FileType.bits .lnk then some .nf3lnk
  else if kind = FileType.bits .sock then some .nf3sock
  else none

/-- The file system identifier made of a device number. -/
def fsidOf (stDev : UInt64) : UInt64 :=
  let high := (major stDev).toUInt64
  let low := (minor stDev).toUInt64
  high ^^^ (low <<< 32 ||| low >>> 32)

/-- Store a time. -/
def storeTime (m : Mem) (at_ : Nat) (t : Timespec) : Mem :=
  (m.put at_ t.tvSec.toUInt32).put (at_ + 1) t.tvNsec.toUInt32

/-- Store the attributes of an object, all but the device numbers of what is no device. -/
def storeFattr3 (m : Mem) (at_ : Nat) (type : Ftype3) (buf : Stat) : Mem :=
  let m := m.put at_ type.code
  let m := m.put (at_ + 1) (buf.stMode &&& 0o777)
  let m := m.put (at_ + 2) buf.stNlink.toUInt32
  let m := m.put (at_ + 3) buf.stUid
  let m := m.put (at_ + 4) buf.stGid
  let m := m.putU64 (at_ + 6) buf.stSize
  let m := m.putU64 (at_ + 8) (buf.stBlocks * 512)
  -- For anything but a device these two words keep what memory held.
  let m := if buf.type.isDevice then
      (m.put (at_ + 10) (major buf.stRdev)).put (at_ + 11) (minor buf.stRdev)
    else m
  let m := m.putU64 (at_ + 12) (fsidOf buf.stDev)
  let m := m.putU64 (at_ + 14) buf.stIno
  let m := storeTime m (at_ + 16) buf.stAtim
  let m := storeTime m (at_ + 18) buf.stMtim
  storeTime m (at_ + 20) buf.stCtim

/-- The status a failed examination is reported with. -/
def Errno.status : Errno → Nfsstat3
  | enoent => .nfs3errNoent
  | enotdir => .nfs3errNotdir
  | eacces => .nfs3errAcces
  | other _ => .nfs3errBadhandle

/-- Examine an object and store its attributes. -/
def nfsSetPostOpAttr (fs : σ) (filePath : Path) (m : Mem) (at_ : Nat) : Nfsstat3 × Mem :=
  match k.lstat fs filePath with
  | .error errno => (errno.status, m)
  | .ok buf =>
    match ftype3OfMode buf.stMode with
    | none => (.nfs3errBadhandle, m)
    | some type => (.nfs3Ok, (storeFattr3 m (at_ + 2) type buf).put at_ 1)

/-- Examine an object before an operation, into a cleared local. -/
def getPreOpAttr (fs : σ) (filePath : Path) (preAttr : Mem) : Nfsstat3 × Mem :=
  match nfsSetPostOpAttr k fs filePath Mem.zero 0 with
  | (.nfs3Ok, getA) =>
    let preAttr := preAttr.put 0 1
    let preAttr := preAttr.copy 2 getA 8 2
    let preAttr := preAttr.copy 6 getA 22 2
    (.nfs3Ok, preAttr.copy 4 getA 20 2)
  | (status, _) => (status, preAttr)

/-- Whether an object exists and has some bit of its mode in common with the asked one. -/
def judgeFileExit (fs : σ) (filePath : Path) (judgeMode : UInt32) : Bool :=
  match k.lstat fs filePath with
  | .error _ => false
  | .ok info => info.stMode &&& judgeMode ≠ 0

/-- Examine an object after an operation, and store what it was and what it is. -/
def getWccData (fs : σ) (filePath : Path) (preAttr m : Mem) (at_ : Nat) : Nfsstat3 × Mem :=
  match nfsSetPostOpAttr k fs filePath Mem.zero 0 with
  | (.nfs3Ok, getA) => (.nfs3Ok, (m.copy at_ preAttr 0 8).copy (at_ + 8) getA 0 24)
  -- A failed examination stores nothing.
  | (status, _) => (status, m)

end Attributes

section Handles

/-- What lies in memory behind the objects a request works on. -/
structure Surroundings where
  /-- The bytes behind a handle that was read off the wire. -/
  handleTail : Bytes
  /-- The bytes behind the terminator of a string object. -/
  stringTail : Bytes
  deriving DecidableEq, Repr

/--
Rebuild the buffer of a handle so that it ends in a NUL.

The old buffer is read as a C string, which may stop early or run past the handle, and as many
bytes as the handle has are then taken from the string object.
-/
def getFileHandle (around : Surroundings) (handle : NfsFh3) : Bytes :=
  let saveHandle := cstr (handle ++ around.handleTail)
  let source := saveHandle ++ 0 :: around.stringTail
  (source ++ List.replicate handle.length 0).take handle.length ++ [0]

/-- The path a rebuilt handle names. -/
def handlePath (around : Surroundings) (handle : NfsFh3) : Path :=
  cstr (getFileHandle around handle)

/-- The path of a name within a directory. -/
def childPath (dir : Path) (name : Bytes) : Path := dir ++ 0x2f :: cstr name

/-- The path of a name within the directory that a handle names. -/
abbrev Diropargs3.path (slot : Diropargs3) : Path := childPath (cstr slot.dir) slot.name

end Handles

section Setting

variable (k : Kernel σ)

/-- A nanosecond count that stands for the present. -/
def utimeNow : UInt64 := 0x3fffffff

/-- One of the two times to set: what the request asks for, or none for a bad discriminant. -/
def timeToSet (stale : Timespec) : SetTime → Option (Bool × Timespec)
  | .setToClientTime t => some (true, ⟨t.tvSec.toUInt64, t.tvNsec.toUInt64⟩)
  | .other setIt _ =>
    if setIt = 0 then some (false, stale)
    else if setIt = 1 then some (true, ⟨0, utimeNow⟩)
    else none

/-- The value of a field that is read whether or not it was set. -/
def fieldOf {α : Type} (cleared : α) (x : BoolUnion α) : α := x.armD cleared

/-- Whether a field is to be set. -/
def BoolUnion.isSet {α : Type} (x : BoolUnion α) : Bool := x.discriminant ≠ 0

/-- Change the permissions, if they are to be set. -/
def setMode (os : Os σ) (filePath : Path) (newAttr : Sattr3) : Except Errno Unit × Os σ :=
  if newAttr.mode.isSet then
    os.call (fun _ => .chmod) (k.chmod filePath (fieldOf 0 newAttr.mode))
  else (.ok (), os)

/-- Change the owner and the group, if either is to be set. -/
def setOwner (os : Os σ) (filePath : Path) (newAttr : Sattr3) : Except Errno Unit × Os σ :=
  if newAttr.gid.isSet ∨ newAttr.uid.isSet then
    -- The one that is not to be set is given as all ones, which leaves it alone.
    let newGid := if newAttr.gid.isSet then fieldOf 0 newAttr.gid else 0xffffffff
    let newUid := if newAttr.uid.isSet then fieldOf 0 newAttr.uid else 0xffffffff
    os.call (fun _ => .chown) (k.chown filePath newUid newGid)
  else (.ok (), os)

/-- Whole microseconds of a count of nanoseconds, which is signed and rounded towards zero. -/
def microseconds (tvNsec : UInt64) : UInt64 :=
  if tvNsec < 0x8000000000000000 then tvNsec / 1000 else -(-tvNsec / 1000)

/-- A point in time as the call that sets times takes it, with microseconds. -/
def Timespec.toTimeval (t : Timespec) : Timespec := ⟨t.tvSec, microseconds t.tvNsec⟩

/-- Change the times. -/
def setTimes (os : Os σ) (filePath : Path) (atime mtime : Timespec) : Except Errno Unit × Os σ :=
  if atime.tvNsec = utimeNow ∨ mtime.tvNsec = utimeNow then
    os.call (fun _ => .utimes) (k.utimes filePath none)
  else
    os.call (fun _ => .utimes) (k.utimes filePath (some (atime.toTimeval, mtime.toTimeval)))

/--
Set attributes one call after another, and stop at the first that fails.

The two times start out as whatever the stack held, and only those to be set are overwritten. The
size is not looked at.
-/
def nfsSetSattr3 (stale : Timespec × Timespec) (os : Os σ) (filePath : Path) (newAttr : Sattr3) :
    Nfsstat3 × Os σ :=
  match setMode k os filePath newAttr with
  | (.error _, os) => (.nfs3errInval, os)
  | (.ok _, os) =>
    match setOwner k os filePath newAttr with
    | (.error _, os) => (.nfs3errInval, os)
    | (.ok _, os) =>
      match timeToSet stale.1 newAttr.atime, timeToSet stale.2 newAttr.mtime with
      | some (setAtime, atime), some (setMtime, mtime) =>
        if setAtime ∨ setMtime then
          match setTimes k os filePath atime mtime with
          | (.error _, os) => (.nfs3errInval, os)
          | (.ok _, os) => (.nfs3Ok, os)
        else (.nfs3Ok, os)
      | _, _ => (.nfs3errInval, os)

end Setting

end Dnfs
