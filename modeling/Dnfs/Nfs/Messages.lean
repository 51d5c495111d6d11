import Dnfs.Nfs.Codec

/-! The arguments and results of the procedures, and the table that names their routines. -/

namespace Dnfs

section Arguments

/-- A handle and a range of a file. -/
structure Range3args where
  file : NfsFh3
  offset : UInt64
  count : UInt32
  deriving DecidableEq, Repr, Inhabited

/-- The routine of a handle and a range. -/
def xdrRange3args : Xdrproc Range3args := fun xdrs objp =>
  xdrs.field xdrNfsFh3 objp.file fun xdrs file =>
  xdrs.field xdrOffset3 objp.offset fun xdrs offset =>
  xdrs.field xdrCount3 objp.count fun xdrs count =>
  some (xdrs, { file, offset, count })

/-- What GETATTR asks about. -/
abbrev Getattr3args := NfsFh3

/-- The routine of GETATTR arguments. -/
def xdrGetattr3args : Xdrproc Getattr3args := xdrNfsFh3

/-- What SETATTR sets, and the change time it insists on. -/
structure Setattr3args where
  object : NfsFh3
  newAttributes : Sattr3
  guard : Sattrguard3
  deriving DecidableEq, Repr, Inhabited

/-- The routine of SETATTR arguments. -/
def xdrSetattr3args : Xdrproc Setattr3args := fun xdrs objp =>
  xdrs.field xdrNfsFh3 objp.object fun xdrs object =>
  xdrs.field xdrSattr3 objp.newAttributes fun xdrs newAttributes =>
  xdrs.field xdrSattrguard3 objp.guard fun xdrs guard =>
  some (xdrs, { object, newAttributes, guard })

/-- What LOOKUP looks for. -/
abbrev Lookup3args := Diropargs3

/-- The routine of LOOKUP arguments. -/
def xdrLookup3args : Xdrproc Lookup3args := xdrDiropargs3

/-- The rights ACCESS asks about. -/
structure Access3args where
  object : NfsFh3
  access : UInt32
  deriving DecidableEq, Repr, Inhabited

/-- The routine of ACCESS arguments. -/
def xdrAccess3args : Xdrproc Access3args := fun xdrs objp =>
  xdrs.field xdrNfsFh3 objp.object fun xdrs object =>
  xdrs.field xdrNfs3Uint32 objp.access fun xdrs access =>
  some (xdrs, { object, access })

/-- The link READLINK reads. -/
abbrev Readlink3args := NfsFh3

/-- The routine of READLINK arguments. -/
def xdrReadlink3args : Xdrproc Readlink3args := xdrNfsFh3

/-- The range READ reads. -/
abbrev Read3args := Range3args

/-- The routine of READ arguments. -/
def xdrRead3args : Xdrproc Read3args := xdrRange3args

/-- What WRITE writes, and how stable it is to be. -/
structure Write3args where
  file : NfsFh3
  offset : UInt64
  count : UInt32
  stable : UInt32
  data : Bytes
  deriving DecidableEq, Repr, Inhabited

/-- The routine of WRITE arguments. -/
def xdrWrite3args : Xdrproc Write3args := fun xdrs objp =>
  xdrs.field xdrNfsFh3 objp.file fun xdrs file =>
  xdrs.field xdrOffset3 objp.offset fun xdrs offset =>
  xdrs.field xdrCount3 objp.count fun xdrs count =>
  xdrs.field xdrStableHow objp.stable fun xdrs stable =>
  xdrs.field (xdrBytes xdrBytesMaxlenIo) objp.data fun xdrs data =>
  some (xdrs, { file, offset, count, stable, data })

/-- Where CREATE makes a file, and how. -/
structure Create3args where
  where_ : Diropargs3
  how : Createhow3
  deriving DecidableEq, Repr, Inhabited

/-- The routine of CREATE arguments. -/
def xdrCreate3args : Xdrproc Create3args := fun xdrs objp =>
  xdrs.field xdrDiropargs3 objp.where_ fun xdrs where_ =>
  xdrs.field xdrCreatehow3 objp.how fun xdrs how =>
  some (xdrs, { where_, how })

/-- Where MKDIR makes a directory, and with which attributes. -/
structure Mkdir3args where
  where_ : Diropargs3
  attributes : Sattr3
  deriving DecidableEq, Repr, Inhabited

/-- The routine of MKDIR arguments. -/
def xdrMkdir3args : Xdrproc Mkdir3args := fun xdrs objp =>
  xdrs.field xdrDiropargs3 objp.where_ fun xdrs where_ =>
  xdrs.field xdrSattr3 objp.attributes fun xdrs attributes =>
  some (xdrs, { where_, attributes })

/-- Where SYMLINK makes a link, and to what. -/
structure Symlink3args where
  where_ : Diropargs3
  symlink : Symlinkdata3
  deriving DecidableEq, Repr, Inhabited

/-- The routine of SYMLINK arguments. -/
def xdrSymlink3args : Xdrproc Symlink3args := fun xdrs objp =>
  xdrs.field xdrDiropargs3 objp.where_ fun xdrs where_ =>
  xdrs.field xdrSymlinkdata3 objp.symlink fun xdrs symlink =>
  some (xdrs, { where_, symlink })

/-- Where MKNOD makes a node, and of which kind. -/
structure Mknod3args where
  where_ : Diropargs3
  what : Mknoddata3
  deriving DecidableEq, Repr, Inhabited

/-- The routine of MKNOD arguments. -/
def xdrMknod3args : Xdrproc Mknod3args := fun xdrs objp =>
  xdrs.field xdrDiropargs3 objp.where_ fun xdrs where_ =>
  xdrs.field xdrMknoddata3 objp.what fun xdrs what =>
  some (xdrs, { where_, what })

/-- The name REMOVE removes. -/
abbrev Remove3args := Diropargs3

/-- The routine of REMOVE arguments. -/
def xdrRemove3args : Xdrproc Remove3args := xdrDiropargs3

/-- The directory RMDIR removes. -/
abbrev Rmdir3args := Diropargs3

/-- The routine of RMDIR arguments. -/
def xdrRmdir3args : Xdrproc Rmdir3args := xdrDiropargs3

/-- The names RENAME moves between. -/
structure Rename3args where
  fromDir : Diropargs3
  toDir : Diropargs3
  deriving DecidableEq, Repr, Inhabited

/-- The routine of RENAME arguments. -/
def xdrRename3args : Xdrproc Rename3args := fun xdrs objp =>
  xdrs.field xdrDiropargs3 objp.fromDir fun xdrs fromDir =>
  xdrs.field xdrDiropargs3 objp.toDir fun xdrs toDir =>
  some (xdrs, { fromDir, toDir })

/-- The file LINK links, and under which name. -/
structure Link3args where
  file : NfsFh3
  link : Diropargs3
  deriving DecidableEq, Repr, Inhabited

/-- The routine of LINK arguments. -/
def xdrLink3args : Xdrproc Link3args := fun xdrs objp =>
  xdrs.field xdrNfsFh3 objp.file fun xdrs file =>
  xdrs.field xdrDiropargs3 objp.link fun xdrs link =>
  some (xdrs, { file, link })

/-- The directory READDIR lists, and from where. -/
structure Readdir3args where
  dir : NfsFh3
  cookie : UInt64
  cookieverf : UInt64
  count : UInt32
  deriving DecidableEq, Repr, Inhabited

/-- The routine of READDIR arguments. -/
def xdrReaddir3args : Xdrproc Readdir3args := fun xdrs objp =>
  xdrs.field xdrNfsFh3 objp.dir fun xdrs dir =>
  xdrs.field xdrCookie3 objp.cookie fun xdrs cookie =>
  xdrs.field xdrCookieverf3 objp.cookieverf fun xdrs cookieverf =>
  xdrs.field xdrCount3 objp.count fun xdrs count =>
  some (xdrs, { dir, cookie, cookieverf, count })

/-- The directory READDIRPLUS lists, from where, and how much of it. -/
structure Readdirplus3args where
  dir : NfsFh3
  cookie : UInt64
  cookieverf : UInt64
  dircount : UInt32
  maxcount : UInt32
  deriving DecidableEq, Repr, Inhabited

/-- The routine of READDIRPLUS arguments. -/
def xdrReaddirplus3args : Xdrproc Readdirplus3args := fun xdrs objp =>
  xdrs.field xdrNfsFh3 objp.dir fun xdrs dir =>
  xdrs.field xdrCookie3 objp.cookie fun xdrs cookie =>
  xdrs.field xdrCookieverf3 objp.cookieverf fun xdrs cookieverf =>
  xdrs.field xdrCount3 objp.dircount fun xdrs dircount =>
  xdrs.field xdrCount3 objp.maxcount fun xdrs maxcount =>
  some (xdrs, { dir, cookie, cookieverf, dircount, maxcount })

/-- What FSSTAT asks about. -/
abbrev Fsstat3args := NfsFh3

/-- The routine of FSSTAT arguments. -/
def xdrFsstat3args : Xdrproc Fsstat3args := xdrNfsFh3

/-- What FSINFO asks about. -/
abbrev Fsinfo3args := NfsFh3

/-- The routine of FSINFO arguments. -/
def xdrFsinfo3args : Xdrproc Fsinfo3args := xdrNfsFh3

/-- What PATHCONF asks about. -/
abbrev Pathconf3args := NfsFh3

/-- The routine of PATHCONF arguments. -/
def xdrPathconf3args : Xdrproc Pathconf3args := xdrNfsFh3

/-- The range COMMIT commits. -/
abbrev Commit3args := Range3args

/-- The routine of COMMIT arguments. -/
def xdrCommit3args : Xdrproc Commit3args := xdrRange3args

end Arguments

section Results

/-- The attributes GETATTR returns, with nothing following an error. -/
abbrev Getattr3res := StatusUnion Fattr3 Unit

/-- The routine of a GETATTR result. -/
def xdrGetattr3res : Xdrproc Getattr3res := xdrStatusUnion xdrFattr3 xdrVoid

/-- A result that holds the same before-and-after attributes whether or not it succeeded. -/
abbrev Wcc3res := StatusUnion WccData WccData

/-- The routine of such a result. -/
def xdrWcc3res : Xdrproc Wcc3res := xdrStatusUnion xdrWccData xdrWccData

/-- What SETATTR returns. -/
abbrev Setattr3res := Wcc3res

/-- The routine of a SETATTR result. -/
def xdrSetattr3res : Xdrproc Setattr3res := xdrWcc3res

/-- What LOOKUP found. -/
structure Lookup3resok where
  object : NfsFh3
  objAttributes : PostOpAttr
  dirAttributes : PostOpAttr
  deriving DecidableEq, Repr, Inhabited

/-- The routine of what LOOKUP found. -/
def xdrLookup3resok : Xdrproc Lookup3resok := fun xdrs objp =>
  xdrs.field xdrNfsFh3 objp.object fun xdrs object =>
  xdrs.field xdrPostOpAttr objp.objAttributes fun xdrs objAttributes =>
  xdrs.field xdrPostOpAttr objp.dirAttributes fun xdrs dirAttributes =>
  some (xdrs, { object, objAttributes, dirAttributes })

/-- What LOOKUP returns. -/
abbrev Lookup3res := StatusUnion Lookup3resok PostOpAttr

/-- The routine of a LOOKUP result. -/
def xdrLookup3res : Xdrproc Lookup3res := xdrStatusUnion xdrLookup3resok xdrPostOpAttr

/-- The rights ACCESS granted. -/
structure Access3resok where
  objAttributes : PostOpAttr
  access : UInt32
  deriving DecidableEq, Repr, Inhabited

/-- The routine of the rights ACCESS granted. -/
def xdrAccess3resok : Xdrproc Access3resok := fun xdrs objp =>
  xdrs.field xdrPostOpAttr objp.objAttributes fun xdrs objAttributes =>
  xdrs.field xdrNfs3Uint32 objp.access fun xdrs access =>
  some (xdrs, { objAttributes, access })

/-- What ACCESS returns. -/
abbrev Access3res := StatusUnion Access3resok PostOpAttr

/-- The routine of an ACCESS result. -/
def xdrAccess3res : Xdrproc Access3res := xdrStatusUnion xdrAccess3resok xdrPostOpAttr

/-- The target READLINK read. -/
structure Readlink3resok where
  symlinkAttributes : PostOpAttr
  data : Bytes
  deriving DecidableEq, Repr, Inhabited

/-- The routine of the target READLINK read. -/
def xdrReadlink3resok : Xdrproc Readlink3resok := fun xdrs objp =>
  xdrs.field xdrPostOpAttr objp.symlinkAttributes fun xdrs symlinkAttributes =>
  xdrs.field xdrNfspath3 objp.data fun xdrs data =>
  some (xdrs, { symlinkAttributes, data })

/-- What READLINK returns. -/
abbrev Readlink3res := StatusUnion Readlink3resok PostOpAttr

/-- The routine of a READLINK result. -/
def xdrReadlink3res : Xdrproc Readlink3res := xdrStatusUnion xdrReadlink3resok xdrPostOpAttr

/-- The data READ read. -/
structure Read3resok where
  fileAttributes : PostOpAttr
  count : UInt32
  eof : UInt32
  data : Bytes
  deriving DecidableEq, Repr, Inhabited

/-- The routine of the data READ read. -/
def xdrRead3resok : Xdrproc Read3resok := fun xdrs objp =>
  xdrs.field xdrPostOpAttr objp.fileAttributes fun xdrs fileAttributes =>
  xdrs.field xdrCount3 objp.count fun xdrs count =>
  xdrs.field xdrBool objp.eof fun xdrs eof =>
  xdrs.field (xdrBytes xdrBytesMaxlenIo) objp.data fun xdrs data =>
  some (xdrs, { fileAttributes, count, eof, data })

/-- What READ returns. -/
abbrev Read3res := StatusUnion Read3resok PostOpAttr

/-- The routine of a READ result. -/
def xdrRead3res : Xdrproc Read3res := xdrStatusUnion xdrRead3resok xdrPostOpAttr

/-- What WRITE wrote, and the lifetime of the server that wrote it. -/
structure Write3resok where
  fileWcc : WccData
  count : UInt32
  committed : UInt32
  verf : UInt64
  deriving DecidableEq, Repr, Inhabited

/-- The routine of what WRITE wrote. -/
def xdrWrite3resok : Xdrproc Write3resok := fun xdrs objp =>
  xdrs.field xdrWccData objp.fileWcc fun xdrs fileWcc =>
  xdrs.field xdrCount3 objp.count fun xdrs count =>
  xdrs.field xdrStableHow objp.committed fun xdrs committed =>
  xdrs.field xdrWriteverf3 objp.verf fun xdrs verf =>
  some (xdrs, { fileWcc, count, committed, verf })

/-- What WRITE returns. -/
abbrev Write3res := StatusUnion Write3resok WccData

/-- The routine of a WRITE result. -/
def xdrWrite3res : Xdrproc Write3res := xdrStatusUnion xdrWrite3resok xdrWccData

/-- The object a creating procedure made. -/
structure Creation3resok where
  obj : PostOpFh3
  objAttributes : PostOpAttr
  dirWcc : WccData
  deriving DecidableEq, Repr, Inhabited

/-- The routine of the object a creating procedure made. -/
def xdrCreation3resok : Xdrproc Creation3resok := fun xdrs objp =>
  xdrs.field xdrPostOpFh3 objp.obj fun xdrs obj =>
  xdrs.field xdrPostOpAttr objp.objAttributes fun xdrs objAttributes =>
  xdrs.field xdrWccData objp.dirWcc fun xdrs dirWcc =>
  some (xdrs, { obj, objAttributes, dirWcc })

/-- What a creating procedure returns. -/
abbrev Creation3res := StatusUnion Creation3resok WccData

/-- The routine of what a creating procedure returns. -/
def xdrCreation3res : Xdrproc Creation3res := xdrStatusUnion xdrCreation3resok xdrWccData

/-- The routine of a CREATE result. -/
def xdrCreate3res : Xdrproc Creation3res := xdrCreation3res

/-- The routine of a MKDIR result. -/
def xdrMkdir3res : Xdrproc Creation3res := xdrCreation3res

/-- The routine of a SYMLINK result. -/
def xdrSymlink3res : Xdrproc Creation3res := xdrCreation3res

/-- The routine of a MKNOD result. -/
def xdrMknod3res : Xdrproc Creation3res := xdrCreation3res

/-- The routine of a REMOVE result. -/
def xdrRemove3res : Xdrproc Wcc3res := xdrWcc3res

/-- The routine of an RMDIR result. -/
def xdrRmdir3res : Xdrproc Wcc3res := xdrWcc3res

/-- The attributes of both directories RENAME worked on. -/
structure Rename3resok where
  fromdirWcc : WccData
  todirWcc : WccData
  deriving DecidableEq, Repr, Inhabited

/-- The routine of the attributes of both directories, the same for success and failure. -/
def xdrRename3resok : Xdrproc Rename3resok := fun xdrs objp =>
  xdrs.field xdrWccData objp.fromdirWcc fun xdrs fromdirWcc =>
  xdrs.field xdrWccData objp.todirWcc fun xdrs todirWcc =>
  some (xdrs, { fromdirWcc, todirWcc })

/-- What RENAME returns. -/
abbrev Rename3res := StatusUnion Rename3resok Rename3resok

/-- The routine of a RENAME result. -/
def xdrRename3res : Xdrproc Rename3res := xdrStatusUnion xdrRename3resok xdrRename3resok

/-- The attributes of the file and the directory LINK worked on. -/
structure Link3resok where
  fileAttributes : PostOpAttr
  linkdirWcc : WccData
  deriving DecidableEq, Repr, Inhabited

/-- The routine of the attributes LINK returns, the same for success and failure. -/
def xdrLink3resok : Xdrproc Link3resok := fun xdrs objp =>
  xdrs.field xdrPostOpAttr objp.fileAttributes fun xdrs fileAttributes =>
  xdrs.field xdrWccData objp.linkdirWcc fun xdrs linkdirWcc =>
  some (xdrs, { fileAttributes, linkdirWcc })

/-- What LINK returns. -/
abbrev Link3res := StatusUnion Link3resok Link3resok

/-- The routine of a LINK result. -/
def xdrLink3res : Xdrproc Link3res := xdrStatusUnion xdrLink3resok xdrLink3resok

/-- The listing READDIR made. -/
structure Readdir3resok where
  dirAttributes : PostOpAttr
  cookieverf : UInt64
  reply : Dirlist3
  deriving DecidableEq, Repr, Inhabited

/-- The routine of the listing READDIR made. -/
def xdrReaddir3resok : Xdrproc Readdir3resok := fun xdrs objp =>
  xdrs.field xdrPostOpAttr objp.dirAttributes fun xdrs dirAttributes =>
  xdrs.field xdrCookieverf3 objp.cookieverf fun xdrs cookieverf =>
  xdrs.field xdrDirlist3 objp.reply fun xdrs reply =>
  some (xdrs, { dirAttributes, cookieverf, reply })

/-- What READDIR returns. -/
abbrev Readdir3res := StatusUnion Readdir3resok PostOpAttr

/-- The routine of a READDIR result. -/
def xdrReaddir3res : Xdrproc Readdir3res := xdrStatusUnion xdrReaddir3resok xdrPostOpAttr

/-- The listing READDIRPLUS made. -/
structure Readdirplus3resok where
  dirAttributes : PostOpAttr
  cookieverf : UInt64
  reply : Dirlistplus3
  deriving DecidableEq, Repr, Inhabited

/-- The routine of the listing READDIRPLUS made. -/
def xdrReaddirplus3resok : Xdrproc Readdirplus3resok := fun xdrs objp =>
  xdrs.field xdrPostOpAttr objp.dirAttributes fun xdrs dirAttributes =>
  xdrs.field xdrCookieverf3 objp.cookieverf fun xdrs cookieverf =>
  xdrs.field xdrDirlistplus3 objp.reply fun xdrs reply =>
  some (xdrs, { dirAttributes, cookieverf, reply })

/-- What READDIRPLUS returns. -/
abbrev Readdirplus3res := StatusUnion Readdirplus3resok PostOpAttr

/-- The routine of a READDIRPLUS result. -/
def xdrReaddirplus3res : Xdrproc Readdirplus3res :=
  xdrStatusUnion xdrReaddirplus3resok xdrPostOpAttr

/-- The space FSSTAT found. -/
structure Fsstat3resok where
  objAttributes : PostOpAttr
  tbytes : UInt64
  fbytes : UInt64
  abytes : UInt64
  tfiles : UInt64
  ffiles : UInt64
  afiles : UInt64
  invarsec : UInt32
  deriving DecidableEq, Repr, Inhabited

/-- The routine of the space FSSTAT found. -/
def xdrFsstat3resok : Xdrproc Fsstat3resok := fun xdrs objp =>
  xdrs.field xdrPostOpAttr objp.objAttributes fun xdrs objAttributes =>
  xdrs.field xdrSize3 objp.tbytes fun xdrs tbytes =>
  xdrs.field xdrSize3 objp.fbytes fun xdrs fbytes =>
  xdrs.field xdrSize3 objp.abytes fun xdrs abytes =>
  xdrs.field xdrSize3 objp.tfiles fun xdrs tfiles =>
  xdrs.field xdrSize3 objp.ffiles fun xdrs ffiles =>
  xdrs.field xdrSize3 objp.afiles fun xdrs afiles =>
  xdrs.field xdrNfs3Uint32 objp.invarsec fun xdrs invarsec =>
  some (xdrs, { objAttributes, tbytes, fbytes, abytes, tfiles, ffiles, afiles, invarsec })

/-- What FSSTAT returns. -/
abbrev Fsstat3res := StatusUnion Fsstat3resok PostOpAttr

/-- The routine of an FSSTAT result. -/
def xdrFsstat3res : Xdrproc Fsstat3res := xdrStatusUnion xdrFsstat3resok xdrPostOpAttr

/-- The limits FSINFO states. -/
structure Fsinfo3resok where
  objAttributes : PostOpAttr
  rtmax : UInt32
  rtpref : UInt32
  rtmult : UInt32
  wtmax : UInt32
  wtpref : UInt32
  wtmult : UInt32
  dtpref : UInt32
  maxfilesize : UInt64
  timeDelta : Nfstime3
  properties : UInt32
  deriving DecidableEq, Repr, Inhabited

/-- The routine of the limits FSINFO states. -/
def xdrFsinfo3resok : Xdrproc Fsinfo3resok := fun xdrs objp =>
  xdrs.field xdrPostOpAttr objp.objAttributes fun xdrs objAttributes =>
  xdrs.field xdrNfs3Uint32 objp.rtmax fun xdrs rtmax =>
  xdrs.field xdrNfs3Uint32 objp.rtpref fun xdrs rtpref =>
  xdrs.field xdrNfs3Uint32 objp.rtmult fun xdrs rtmult =>
  xdrs.field xdrNfs3Uint32 objp.wtmax fun xdrs wtmax =>
  xdrs.field xdrNfs3Uint32 objp.wtpref fun xdrs wtpref =>
  xdrs.field xdrNfs3Uint32 objp.wtmult fun xdrs wtmult =>
  xdrs.field xdrNfs3Uint32 objp.dtpref fun xdrs dtpref =>
  xdrs.field xdrSize3 objp.maxfilesize fun xdrs maxfilesize =>
  xdrs.field xdrNfstime3 objp.timeDelta fun xdrs timeDelta =>
  xdrs.field xdrNfs3Uint32 objp.properties fun xdrs properties =>
  some (xdrs,
    { objAttributes, rtmax, rtpref, rtmult, wtmax, wtpref, wtmult, dtpref, maxfilesize,
      timeDelta, properties })

/-- What FSINFO returns. -/
abbrev Fsinfo3res := StatusUnion Fsinfo3resok PostOpAttr

/-- The routine of an FSINFO result. -/
def xdrFsinfo3res : Xdrproc Fsinfo3res := xdrStatusUnion xdrFsinfo3resok xdrPostOpAttr

/-- The path limits PATHCONF states. -/
structure Pathconf3resok where
  objAttributes : PostOpAttr
  linkmax : UInt32
  nameMax : UInt32
  noTrunc : UInt32
  chownRestricted : UInt32
  caseInsensitive : UInt32
  casePreserving : UInt32
  deriving DecidableEq, Repr, Inhabited

/-- The routine of the path limits PATHCONF states. -/
def xdrPathconf3resok : Xdrproc Pathconf3resok := fun xdrs objp =>
  xdrs.field xdrPostOpAttr objp.objAttributes fun xdrs objAttributes =>
  xdrs.field xdrNfs3Uint32 objp.linkmax fun xdrs linkmax =>
  xdrs.field xdrNfs3Uint32 objp.nameMax fun xdrs nameMax =>
  xdrs.field xdrBool objp.noTrunc fun xdrs noTrunc =>
  xdrs.field xdrBool objp.chownRestricted fun xdrs chownRestricted =>
  xdrs.field xdrBool objp.caseInsensitive fun xdrs caseInsensitive =>
  xdrs.field xdrBool objp.casePreserving fun xdrs casePreserving =>
  some (xdrs,
    { objAttributes, linkmax, nameMax, noTrunc, chownRestricted, caseInsensitive,
      casePreserving })

/-- What PATHCONF returns. -/
abbrev Pathconf3res := StatusUnion Pathconf3resok PostOpAttr

/-- The routine of a PATHCONF result. -/
def xdrPathconf3res : Xdrproc Pathconf3res := xdrStatusUnion xdrPathconf3resok xdrPostOpAttr

/-- The attributes of the file COMMIT worked on, and the lifetime of the server. -/
structure Commit3resok where
  fileWcc : WccData
  verf : UInt64
  deriving DecidableEq, Repr, Inhabited

/-- The routine of what COMMIT returns on success. -/
def xdrCommit3resok : Xdrproc Commit3resok := fun xdrs objp =>
  xdrs.field xdrWccData objp.fileWcc fun xdrs fileWcc =>
  xdrs.field xdrWriteverf3 objp.verf fun xdrs verf =>
  some (xdrs, { fileWcc, verf })

/-- What COMMIT returns. -/
abbrev Commit3res := StatusUnion Commit3resok WccData

/-- The routine of a COMMIT result. -/
def xdrCommit3res : Xdrproc Commit3res := xdrStatusUnion xdrCommit3resok xdrWccData

end Results

section Table

/-- The procedures of the protocol, in the order of their numbers. -/
inductive Proc where
  | null | getattr | setattr | lookup | access | readlink | read | write | create | mkdir
  | symlink | mknod | remove | rmdir | rename | link | readdir | readdirplus | fsstat | fsinfo
  | pathconf | commit
  deriving DecidableEq, Repr, Inhabited

/-- The arguments a procedure takes. -/
abbrev Proc.Args : Proc → Type
  | null => Unit
  | getattr => Getattr3args
  | setattr => Setattr3args
  | lookup => Lookup3args
  | access => Access3args
  | readlink => Readlink3args
  | read => Read3args
  | write => Write3args
  | create => Create3args
  | mkdir => Mkdir3args
  | symlink => Symlink3args
  | mknod => Mknod3args
  | remove => Remove3args
  | rmdir => Rmdir3args
  | rename => Rename3args
  | link => Link3args
  | readdir => Readdir3args
  | readdirplus => Readdirplus3args
  | fsstat => Fsstat3args
  | fsinfo => Fsinfo3args
  | pathconf => Pathconf3args
  | commit => Commit3args

/-- The result a procedure returns. -/
abbrev Proc.Res : Proc → Type
  | null => Unit
  | getattr => Getattr3res
  | setattr => Setattr3res
  | lookup => Lookup3res
  | access => Access3res
  | readlink => Readlink3res
  | read => Read3res
  | write => Write3res
  | create => Creation3res
  | mkdir => Creation3res
  | symlink => Creation3res
  | mknod => Creation3res
  | remove => Wcc3res
  | rmdir => Wcc3res
  | rename => Rename3res
  | link => Link3res
  | readdir => Readdir3res
  | readdirplus => Readdirplus3res
  | fsstat => Fsstat3res
  | fsinfo => Fsinfo3res
  | pathconf => Pathconf3res
  | commit => Commit3res

/-- The routine the table gives for a procedure's arguments. -/
def Proc.xdrDecodeFunc : (p : Proc) → Xdrproc p.Args
  | null => xdrVoid
  | getattr => xdrGetattr3args
  | setattr => xdrSetattr3args
  | lookup => xdrLookup3args
  | access => xdrAccess3args
  | readlink => xdrReadlink3args
  | read => xdrRead3args
  | write => xdrWrite3args
  | create => xdrCreate3args
  | mkdir => xdrMkdir3args
  | symlink => xdrSymlink3args
  | mknod => xdrMknod3args
  | remove => xdrRemove3args
  | rmdir => xdrRmdir3args
  | rename => xdrRename3args
  | link => xdrLink3args
  | readdir => xdrReaddir3args
  | readdirplus => xdrReaddirplus3args
  | fsstat => xdrFsstat3args
  | fsinfo => xdrFsinfo3args
  | pathconf => xdrPathconf3args
  | commit => xdrCommit3args

/-- The routine the table gives for a procedure's result. -/
def Proc.xdrEncodeFunc : (p : Proc) → Xdrproc p.Res
  | null => xdrVoid
  | getattr => xdrGetattr3res
  | setattr => xdrSetattr3res
  | lookup => xdrLookup3res
  | access => xdrAccess3res
  | readlink => xdrReadlink3res
  | read => xdrRead3res
  | write => xdrWrite3res
  | create => xdrCreate3res
  | mkdir => xdrMkdir3res
  | symlink => xdrSymlink3res
  | mknod => xdrMknod3res
  | remove => xdrRemove3res
  | rmdir => xdrRmdir3res
  | rename => xdrRename3res
  | link => xdrLink3res
  | readdir => xdrReaddir3res
  | readdirplus => xdrReaddirplus3res
  | fsstat => xdrFsstat3res
  | fsinfo => xdrFsinfo3res
  | pathconf => xdrPathconf3res
  | commit => xdrCommit3res

end Table

end Dnfs
