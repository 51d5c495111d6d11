import Dnfs.Nfs.Types

/-! The routines of the types that the NFSv3 messages are composed of. -/

namespace Dnfs

/-- Unsigned 32-bit integers of the protocol. -/
def xdrNfs3Uint32 : Xdrproc UInt32 := xdrUInt

/-- Unsigned 64-bit integers of the protocol. -/
def xdrNfs3Uint64 : Xdrproc UInt64 := xdrULonglong

/-- Sizes and counts of bytes on disk. -/
def xdrSize3 : Xdrproc UInt64 := xdrNfs3Uint64

/-- Points in time, seconds first. -/
def xdrNfstime3 : Xdrproc Nfstime3 := fun xdrs objp =>
  xdrs.field xdrNfs3Uint32 objp.tvSec fun xdrs tvSec =>
  xdrs.field xdrNfs3Uint32 objp.tvNsec fun xdrs tvNsec =>
  some (xdrs, { tvSec, tvNsec })

/-- Object types, whose range is not checked. -/
def xdrFtype3 : Xdrproc UInt32 := xdrEnum

/-- Owners. -/
def xdrUid3 : Xdrproc UInt32 := xdrNfs3Uint32

/-- Groups. -/
def xdrGid3 : Xdrproc UInt32 := xdrNfs3Uint32

/-- Permission bits. -/
def xdrMode3 : Xdrproc UInt32 := xdrNfs3Uint32

/-- Object numbers. -/
def xdrFileid3 : Xdrproc UInt64 := xdrNfs3Uint64

/-- Device numbers. -/
def xdrSpecdata3 : Xdrproc Specdata3 := fun xdrs objp =>
  xdrs.field xdrNfs3Uint32 objp.specdata1 fun xdrs specdata1 =>
  xdrs.field xdrNfs3Uint32 objp.specdata2 fun xdrs specdata2 =>
  some (xdrs, { specdata1, specdata2 })

/-- Attributes, thirteen fields in the order of the structure. -/
def xdrFattr3 : Xdrproc Fattr3 := fun xdrs objp =>
  xdrs.field xdrFtype3 objp.type fun xdrs type =>
  xdrs.field xdrMode3 objp.mode fun xdrs mode =>
  xdrs.field xdrNfs3Uint32 objp.nlink fun xdrs nlink =>
  xdrs.field xdrUid3 objp.uid fun xdrs uid =>
  xdrs.field xdrGid3 objp.gid fun xdrs gid =>
  xdrs.field xdrSize3 objp.size fun xdrs size =>
  xdrs.field xdrSize3 objp.used fun xdrs used =>
  xdrs.field xdrSpecdata3 objp.rdev fun xdrs rdev =>
  xdrs.field xdrNfs3Uint64 objp.fsid fun xdrs fsid =>
  xdrs.field xdrFileid3 objp.fileid fun xdrs fileid =>
  xdrs.field xdrNfstime3 objp.atime fun xdrs atime =>
  xdrs.field xdrNfstime3 objp.mtime fun xdrs mtime =>
  xdrs.field xdrNfstime3 objp.ctime fun xdrs ctime =>
  some (xdrs,
    { type, mode, nlink, uid, gid, size, used, rdev, fsid, fileid, atime, mtime, ctime })

/-- Attributes that may follow, with a default that refuses. -/
def xdrPostOpAttr : Xdrproc PostOpAttr := xdrBoolUnion xdrFattr3 default true

/-- Handles, of at most sixty-four bytes. -/
def xdrNfsFh3 : Xdrproc NfsFh3 := xdrBytes 64

/-- Positions in a directory. -/
def xdrCookie3 : Xdrproc UInt64 := xdrNfs3Uint64

/-- The eight bytes that vouch for a position in a directory. -/
def xdrCookieverf3 : Xdrproc UInt64 := xdrOpaque8

/-- Counts of bytes or entries. -/
def xdrCount3 : Xdrproc UInt32 := xdrNfs3Uint32

/-- Names. -/
def xdrFilename3 : Xdrproc Bytes := xdrString xdrStringMaxlen

/-- A handle that may follow, with a default that refuses. -/
def xdrPostOpFh3 : Xdrproc PostOpFh3 := xdrBoolUnion xdrNfsFh3 default true

/-- A name within a directory. -/
def xdrDiropargs3 : Xdrproc Diropargs3 := fun xdrs objp =>
  xdrs.field xdrNfsFh3 objp.dir fun xdrs dir =>
  xdrs.field xdrFilename3 objp.name fun xdrs name =>
  some (xdrs, { dir, name })

/-- Cache-consistency attributes. -/
def xdrWccAttr : Xdrproc WccAttr := fun xdrs objp =>
  xdrs.field xdrSize3 objp.size fun xdrs size =>
  xdrs.field xdrNfstime3 objp.mtime fun xdrs mtime =>
  xdrs.field xdrNfstime3 objp.ctime fun xdrs ctime =>
  some (xdrs, { size, mtime, ctime })

/-- Attributes from before an operation, with a default that refuses. -/
def xdrPreOpAttr : Xdrproc PreOpAttr := xdrBoolUnion xdrWccAttr default true

/-- Attributes from before and after an operation. -/
def xdrWccData : Xdrproc WccData := fun xdrs objp =>
  xdrs.field xdrPreOpAttr objp.before fun xdrs before =>
  xdrs.field xdrPostOpAttr objp.after fun xdrs after =>
  some (xdrs, { before, after })

/-- Permission bits to set, with no default. -/
def xdrSetMode3 : Xdrproc (BoolUnion UInt32) := xdrBoolUnion xdrMode3 default false

/-- An owner to set, with no default. -/
def xdrSetUid3 : Xdrproc (BoolUnion UInt32) := xdrBoolUnion xdrUid3 default false

/-- A group to set, with no default. -/
def xdrSetGid3 : Xdrproc (BoolUnion UInt32) := xdrBoolUnion xdrGid3 default false

/-- A size to set, with no default. -/
def xdrSetSize3 : Xdrproc (BoolUnion UInt64) := xdrBoolUnion xdrSize3 default false

/-- How a time is set, whose range is not checked. -/
def xdrTimeHow : Xdrproc UInt32 := xdrEnum

/-- The discriminant of a time to set. -/
def SetTime.setIt : SetTime → UInt32
  | setToClientTime _ => 2
  | other how _ => how

/-- The time the client supplies, or what memory holds in its place. -/
def SetTime.timeD : SetTime → Nfstime3
  | setToClientTime time => time
  | other _ _ => default

/-- A time to set, which follows only when the client supplies it. -/
def xdrSetTime : Xdrproc SetTime := fun xdrs objp =>
  xdrs.field xdrTimeHow objp.setIt fun xdrs setIt =>
  if client : setIt = 2 then
    xdrs.field xdrNfstime3 objp.timeD fun xdrs time =>
    some (xdrs, .setToClientTime time)
  else some (xdrs, .other setIt client)

/-- An access time to set. -/
def xdrSetAtime : Xdrproc SetTime := xdrSetTime

/-- A modification time to set. -/
def xdrSetMtime : Xdrproc SetTime := xdrSetTime

/-- Attributes to set. -/
def xdrSattr3 : Xdrproc Sattr3 := fun xdrs objp =>
  xdrs.field xdrSetMode3 objp.mode fun xdrs mode =>
  xdrs.field xdrSetUid3 objp.uid fun xdrs uid =>
  xdrs.field xdrSetGid3 objp.gid fun xdrs gid =>
  xdrs.field xdrSetSize3 objp.size fun xdrs size =>
  xdrs.field xdrSetAtime objp.atime fun xdrs atime =>
  xdrs.field xdrSetMtime objp.mtime fun xdrs mtime =>
  some (xdrs, { mode, uid, gid, size, atime, mtime })

/-- Targets of symbolic links. -/
def xdrNfspath3 : Xdrproc Bytes := xdrString xdrStringMaxlen

/-- Positions in a file. -/
def xdrOffset3 : Xdrproc UInt64 := xdrNfs3Uint64

/-- The eight bytes that name one lifetime of the server. -/
def xdrWriteverf3 : Xdrproc UInt64 := xdrOpaque8

/-- How a file is created, whose range is checked by the union and not here. -/
def xdrCreatemode3 : Xdrproc UInt32 := xdrEnum

/-- The eight bytes that make an exclusive creation repeatable. -/
def xdrCreateverf3 : Xdrproc UInt64 := xdrOpaque8

/-- The discriminant of a way to create. -/
def Createhow3.mode : Createhow3 → UInt32
  | unchecked _ => 0
  | guarded _ => 1
  | exclusive _ => 2
  | other mode _ => mode

/-- The attributes of a way to create, or what memory holds in their place. -/
def Createhow3.attributesD : Createhow3 → Sattr3
  | unchecked attrs => attrs
  | guarded attrs => attrs
  | _ => default

/-- The verifier of a way to create, or what memory holds in its place. -/
def Createhow3.verfD : Createhow3 → UInt64
  | exclusive verf => verf
  | _ => default

/-- A way to create, with a default that refuses. -/
def xdrCreatehow3 : Xdrproc Createhow3 := fun xdrs objp =>
  xdrs.field xdrCreatemode3 objp.mode fun xdrs mode =>
  if mode = 0 then
    xdrs.field xdrSattr3 objp.attributesD fun xdrs attrs =>
    some (xdrs, .unchecked attrs)
  else if mode = 1 then
    xdrs.field xdrSattr3 objp.attributesD fun xdrs attrs =>
    some (xdrs, .guarded attrs)
  else if mode = 2 then
    xdrs.field xdrCreateverf3 objp.verfD fun xdrs verf =>
    some (xdrs, .exclusive verf)
  else none

/-- A device to be made. -/
def xdrDevicedata3 : Xdrproc Devicedata3 := fun xdrs objp =>
  xdrs.field xdrSattr3 objp.devAttributes fun xdrs devAttributes =>
  xdrs.field xdrSpecdata3 objp.spec fun xdrs spec =>
  some (xdrs, { devAttributes, spec })

/-- The discriminant of a node to be made. -/
def Mknoddata3.type : Mknoddata3 → UInt32
  | chr _ => 4
  | blk _ => 3
  | sock _ => 6
  | fifo _ => 7
  | other type _ => type

/-- The device to be made, or what memory holds in its place. -/
def Mknoddata3.deviceD : Mknoddata3 → Devicedata3
  | chr device => device
  | blk device => device
  | _ => default

/-- The attributes of the pipe to be made, or what memory holds in their place. -/
def Mknoddata3.pipeD : Mknoddata3 → Sattr3
  | sock attrs => attrs
  | fifo attrs => attrs
  | _ => default

/-- A node to be made, with a default that accepts. -/
def xdrMknoddata3 : Xdrproc Mknoddata3 := fun xdrs objp =>
  xdrs.field xdrFtype3 objp.type fun xdrs type =>
  if chr : type = 4 then
    xdrs.field xdrDevicedata3 objp.deviceD fun xdrs device =>
    some (xdrs, .chr device)
  else if blk : type = 3 then
    xdrs.field xdrDevicedata3 objp.deviceD fun xdrs device =>
    some (xdrs, .blk device)
  else if sock : type = 6 then
    xdrs.field xdrSattr3 objp.pipeD fun xdrs attrs =>
    some (xdrs, .sock attrs)
  else if fifo : type = 7 then
    xdrs.field xdrSattr3 objp.pipeD fun xdrs attrs =>
    some (xdrs, .fifo attrs)
  else some (xdrs, .other type ⟨chr, blk, sock, fifo⟩)

/-- A symbolic link to be made. -/
def xdrSymlinkdata3 : Xdrproc Symlinkdata3 := fun xdrs objp =>
  xdrs.field xdrSattr3 objp.symlinkAttributes fun xdrs symlinkAttributes =>
  xdrs.field xdrNfspath3 objp.symlinkData fun xdrs symlinkData =>
  some (xdrs, { symlinkAttributes, symlinkData })

/-- A change time to insist on, with a default that refuses. -/
def xdrSattrguard3 : Xdrproc Sattrguard3 := xdrBoolUnion xdrNfstime3 default true

/-- How stable a write is, whose range is not checked. -/
def xdrStableHow : Xdrproc UInt32 := xdrEnum

/-- One entry of a listing, up to the link to the next. -/
def xdrEntry3 : Xdrproc Entry3 := fun xdrs objp =>
  xdrs.field xdrFileid3 objp.fileid fun xdrs fileid =>
  xdrs.field xdrFilename3 objp.name fun xdrs name =>
  xdrs.field xdrCookie3 objp.cookie fun xdrs cookie =>
  some (xdrs, { fileid, name, cookie })

/-- A listing: its chain of entries and its end marker. -/
def xdrDirlist3 : Xdrproc Dirlist3 := fun xdrs objp =>
  xdrs.field (xdrChain xdrEntry3 default) objp.entries fun xdrs entries =>
  xdrs.field xdrBool objp.eof fun xdrs eof =>
  some (xdrs, { entries, eof })

/-- One entry of a listing with attributes and handle, up to the link to the next. -/
def xdrEntryplus3 : Xdrproc Entryplus3 := fun xdrs objp =>
  xdrs.field xdrFileid3 objp.fileid fun xdrs fileid =>
  xdrs.field xdrFilename3 objp.name fun xdrs name =>
  xdrs.field xdrCookie3 objp.cookie fun xdrs cookie =>
  xdrs.field xdrPostOpAttr objp.nameAttributes fun xdrs nameAttributes =>
  xdrs.field xdrPostOpFh3 objp.nameHandle fun xdrs nameHandle =>
  some (xdrs, { fileid, name, cookie, nameAttributes, nameHandle })

/-- A listing with attributes and handles. -/
def xdrDirlistplus3 : Xdrproc Dirlistplus3 := fun xdrs objp =>
  xdrs.field (xdrChain xdrEntryplus3 default) objp.entries fun xdrs entries =>
  xdrs.field xdrBool objp.eof fun xdrs eof =>
  some (xdrs, { entries, eof })

end Dnfs
