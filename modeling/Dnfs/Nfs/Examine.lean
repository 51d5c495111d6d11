import Dnfs.Nfs.Service

/-! The procedures that only look: at attributes, names, links, file systems and bytes of files. -/

namespace Dnfs

variable {σ : Type}

section Attributes

variable (k : Kernel σ) (env : Env) (fs : σ)

/-- Serve NULL, which leaves everything alone. -/
def nfsNull (res : Mem) : Done σ := .refuse fs .nfsReqOk res

/-- Serve GETATTR. -/
def nfs3Getattr (args : Getattr3args) (res : Mem) : Done σ :=
  if args.length = 0 then .refuse fs .nfsReqError res
  else
    -- The attributes are gathered in a cleared local, so none of them is stale.
    match nfsSetPostOpAttr k fs (handlePath env.around args) Mem.zero 0 with
    | (.nfs3Ok, getA) => .refuse fs .nfsReqOk ((putStatus res .nfs3Ok).copy 2 getA 2 22)
    | (status, _) => .refuse fs .nfsReqError (putStatus res status)

/-- Serve ACCESS, which grants everything. -/
def nfs3Access (args : Access3args) (res : Mem) : Done σ :=
  if args.object.length = 0 then .refuse fs .nfsReqError res
  else
    match nfsSetPostOpAttr k fs (handlePath env.around args.object) res 2 with
    | (.nfs3Ok, res) => .refuse fs .nfsReqOk ((putStatus res .nfs3Ok).put 26 0xff)
    | (status, res) => .refuse fs .nfsReqError (putStatus res status)

/-- Examine the object a handle names, in place, with no attributes marked before that. -/
def examineHandle (handle : NfsFh3) (res : Mem) : Except Mem Mem :=
  if handle.length = 0 then .error res
  else
    match nfsSetPostOpAttr k fs (handlePath env.around handle) (res.put 2 0) 2 with
    | (.nfs3Ok, res) => .ok (putStatus res .nfs3Ok)
    | (status, res) => .error (putStatus res status)

/-- Store the space of a file system. -/
def storeStatvfs (res : Mem) (buf : Statvfs) : Mem :=
  let res := res.putU64 26 (buf.fFrsize * buf.fBlocks)
  let res := res.putU64 28 (buf.fFrsize * buf.fBfree)
  let res := res.putU64 30 (buf.fFrsize * buf.fBavail)
  let res := res.putU64 32 buf.fFiles
  let res := res.putU64 34 buf.fFfree
  let res := res.putU64 36 buf.fFavail
  res.put 38 0

/-- Serve FSSTAT. -/
def nfs3Fsstat (args : Fsstat3args) (res : Mem) : Done σ :=
  match examineHandle k env fs args res with
  | .error res => .refuse fs .nfsReqError res
  | .ok res =>
    match k.statvfs fs (handlePath env.around args) with
    -- The status of the examination stays, and it says that all went well.
    | .error _ => .refuse fs .nfsReqError res
    | .ok buf => .refuse fs .nfsReqOk (putStatus (storeStatvfs res buf) .nfs3Ok)

/-- Store the limits of the server. -/
def storeFsinfo (res : Mem) : Mem :=
  let writeReadMax : UInt32 := 64 * 1024 * 1024
  let devBsize : UInt32 := 512
  let res := res.put 38 0x1b
  let res := res.put 26 writeReadMax
  let res := res.put 27 writeReadMax
  let res := res.put 28 devBsize
  let res := res.put 29 writeReadMax
  let res := res.put 30 writeReadMax
  let res := res.put 31 devBsize
  let res := res.put 32 (16 * 1024)
  -- The constant is a product of plain integers, which wraps to zero.
  let res := res.putU64 34 0
  let res := res.put 36 1
  res.put 37 0

/-- Serve FSINFO. -/
def nfs3Fsinfo (args : Fsinfo3args) (res : Mem) : Done σ :=
  match examineHandle k env fs args res with
  | .error res => .refuse fs .nfsReqError res
  | .ok res => .refuse fs .nfsReqOk (putStatus (storeFsinfo res) .nfs3Ok)

/-- Store the limits of paths. -/
def storePathconf (res : Mem) : Mem :=
  let res := res.put 26 1024
  -- The limit of the system is stored and overwritten at once.
  let res := res.put 27 255
  let res := res.put 27 1024
  let res := res.put 28 1
  let res := res.put 29 1
  let res := res.put 30 0
  res.put 31 1

/-- Serve PATHCONF. -/
def nfs3Pathconf (args : Pathconf3args) (res : Mem) : Done σ :=
  match examineHandle k env fs args res with
  | .error res => .refuse fs .nfsReqError res
  | .ok res => .refuse fs .nfsReqOk (putStatus (storePathconf res) .nfs3Ok)

end Attributes

section Names

/-- Serve LOOKUP. -/
def nfs3Lookup (k : Kernel σ) (env : Env) (fs : σ) (args : Lookup3args) (res : Mem) : Done σ :=
  if args.dir.length = 0 then .refuse fs .nfsReqError res
  else
    let dirPath := handlePath env.around args.dir
    if ¬judgeFileExit k fs dirPath FileType.dir.bits then
      .refuse fs .nfsReqError (putStatus res .nfs3errNotdir)
    else
      let filePath := childPath dirPath args.name
      if ¬judgeFileExit k fs filePath anyType then
        .refuse fs .nfsReqError
          (nfsSetPostOpAttr k fs dirPath (putStatus res .nfs3errNoent) 2).2
      else
        let res := setFileHandle env res 2 filePath
        let (dirStatus, res) := nfsSetPostOpAttr k fs dirPath res 30
        let (status, res) := nfsSetPostOpAttr k fs filePath (putStatus res dirStatus) 6
        .mk (rcOf [dirStatus, status]) (.start fs) (putStatus res status)
          [(env.address 0, .chars filePath)]

/--
Serve READLINK.

The buffer is allocated with no room at all, and nothing ends the target in it.
-/
def nfs3Readlink (k : Kernel σ) (env : Env) (fs : σ) (args : Readlink3args) (res : Mem) : Done σ :=
  if args.length = 0 then .refuse fs .nfsReqError res
  else
    let filePath := handlePath env.around args
    if ¬judgeFileExit k fs filePath FileType.lnk.bits then
      .refuse fs .nfsReqError (putStatus res .nfs3errNoent)
    else
      match nfsSetPostOpAttr k fs filePath Mem.zero 0 with
      | (.nfs3Ok, posA) =>
        let res := (putStatus res .nfs3Ok).putU64 26 (env.address 0)
        match k.readlink fs filePath (posA.getU64 8) with
        | .error _ =>
          .mk .nfsReqError (.start fs) ((putStatus res .nfs3errIo).copy 2 posA 0 24)
            [(env.address 0, .chars (cstr env.targetTail))]
        | .ok target =>
          .mk .nfsReqOk (.start fs) (res.copy 2 posA 0 24)
            [(env.address 0, .chars (cstr (target ++ env.targetTail)))]
      | (status, _) => .refuse fs .nfsReqError (putStatus res status)

end Names

section Reading

variable (k : Kernel σ)

/-- Finish a READ that succeeded: examine the file once more and store what was read. -/
def nfsReadOk (env : Env) (fs : σ) (res : Mem) (data : Bytes) (filePath : Path) (eof : Bool) :
    Mem × List (UInt64 × Block) :=
  let res := (nfsSetPostOpAttr k fs filePath res 2).2
  let res := res.put 27 (if eof then 1 else 0)
  let res := res.put 26 (UInt32.ofNat data.length)
  -- A buffer nothing was read into is given back.
  let res := res.putU64 30 (if data = [] then 0 else env.address 0)
  (res.put 28 (UInt32.ofNat data.length),
    if data = [] then [] else [(env.address 0, .chars data)])

/-- Store the attributes once more behind an error. -/
def readOutfail (os : Os σ) (filePath : Path) (res : Mem) (status : Nfsstat3) : Done σ :=
  .mk .nfsReqError os (nfsSetPostOpAttr k os.fs filePath (putStatus res status) 2).2 []

/-- The largest READ. -/
def maxRead : Nat := 512 * 1024

/-- Read a regular file that was examined, and examine it once more. -/
def readRegular (env : Env) (fs : σ) (args : Read3args) (filePath : Path) (res : Mem) : Done σ :=
  let size := min args.count.toNat maxRead
  if size = 0 then
    let (res, stored) := nfsReadOk k env fs res [] filePath false
    .mk .nfsReqOk (.start fs) res stored
  else
    match k.openFile filePath .rdonly fs with
    | (.error _, fs) => readOutfail k ⟨fs, []⟩ filePath res .nfs3errNoent
    | (.ok fd, fs) =>
      match k.preadv fd size args.offset fs with
      | (.error _, fs) => readOutfail k ⟨k.close fd fs, []⟩ filePath res .nfs3errIo
      | (.ok data, fs) =>
        let fs := k.close fd fs
        -- An offset of all ones counts as a failure, though something was read.
        if args.offset = 0xffffffffffffffff then
          readOutfail k ⟨fs, []⟩ filePath res .nfs3errIo
        else
          let eof : Bool := args.offset + UInt64.ofNat data.1.length ≥ res.getU64 10
          let (res, stored) := nfsReadOk k env fs res data.1 filePath eof
          .mk .nfsReqOk ⟨fs, []⟩ res stored

/-- Serve READ. -/
def nfs3Read (env : Env) (fs : σ) (args : Read3args) (res : Mem) : Done σ :=
  let res := ((((res.put 2 0).put 27 0).put 26 0).putU64 30 0).put 28 0
  let res := putStatus res .nfs3Ok
  if args.file.length = 0 then .refuse fs .nfsReqOk (putStatus res .nfs3errBadhandle)
  else
    let filePath := handlePath env.around args.file
    match nfsSetPostOpAttr k fs filePath res 2 with
    | (.nfs3Ok, res) =>
      let res := putStatus res .nfs3Ok
      if res 4 ≠ Ftype3.nf3reg.code then
        .refuse fs .nfsReqOk
          (putStatus res (if res 4 = Ftype3.nf3dir.code then .nfs3errIsdir else .nfs3errInval))
      else readRegular k env fs args filePath res
    | (_, res) => .refuse fs .nfsReqOk (putStatus res .nfs3errBadhandle)

end Reading

end Dnfs
