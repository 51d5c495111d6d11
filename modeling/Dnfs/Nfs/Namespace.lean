import Dnfs.Nfs.Service

/-! The procedures that change names or attributes. -/

namespace Dnfs

variable {σ : Type}

section Directories

/--
Check a directory and keep its attributes from before.

A check that fails ends the request with what the result holds then.
-/
def checkDirectory (k : Kernel σ) (fs : σ) (dirPath : Path) (res : Mem) : Except Mem (Mem × Mem) :=
  -- A block device or a socket passes for a directory, since the modes share a bit.
  if ¬judgeFileExit k fs dirPath FileType.dir.bits then .error (putStatus res .nfs3errNotdir)
  else
    match getPreOpAttr k fs dirPath Mem.zero with
    | (.nfs3Ok, preAttr) => .ok (preAttr, putStatus res .nfs3Ok)
    | (status, _) => .error (putStatus res status)

/-- Check the directory a handle names. -/
def checkDirHandle (k : Kernel σ) (env : Env) (fs : σ) (dir : NfsFh3) (res : Mem) :
    Except Mem (Mem × Mem) :=
  -- For an empty handle nothing is written to the result, not even a status.
  if dir.length = 0 then .error res else checkDirectory k fs (handlePath env.around dir) res

/-- The directory stays as it was: the error was stored, and the directory is shown if it can be. -/
def outfail (k : Kernel σ) (os : Os σ) (dirPath : Path)
    (preAttr res : Mem) (status : Nfsstat3) : Done σ :=
  .mk .nfsReqError os (getWccData k os.fs dirPath preAttr (putStatus res status) 2).2 []

end Directories

section Creating

variable (k : Kernel σ) (env : Env) (fs : σ)

/-- Fill in the attributes of a new object and of its directory, whose status comes last. -/
def creationAttributes (dirPath filePath : Path) (preAttr res : Mem) : NfsReqResult × Mem :=
  let (objStatus, res) := nfsSetPostOpAttr k fs filePath res 8
  let (status, res) := getWccData k fs dirPath preAttr (putStatus res objStatus) 32
  (rcOf [objStatus, status], putStatus res status)

/-- Serve a procedure that makes an object by one call. -/
def nfs3Creation (where_ : Diropargs3) (res : Mem) (failure : Nfsstat3)
    (make : Path → Action (Os σ)) : Done σ :=
  match checkDirHandle k env fs where_.dir res with
  | .error res => .refuse fs .nfsReqError res
  | .ok (preAttr, res) =>
    let dirPath := handlePath env.around where_.dir
    let filePath := childPath dirPath where_.name
    match make filePath (.start fs) with
    | (.error _, os) => outfail k os dirPath preAttr res failure
    | (.ok _, os) =>
      let res := (setFileHandle env res 4 filePath).put 2 1
      let (rc, res) := creationAttributes k os.fs dirPath filePath preAttr res
      .mk rc os res [(env.address 0, .chars filePath)]

/-- Open a file so that it exists, and close it. -/
def openAndClose (filePath : Path) (os : Os σ) : Except Errno Unit × Os σ :=
  match os.call (fun _ => .openFile) (k.openFile filePath .creat) with
  | (.error errno, os) => (.error errno, os)
  | (.ok fd, os) => (.ok (), { os with fs := k.close fd os.fs })

/-- Serve CREATE, which looks at nothing of how the file is to be made. -/
def nfs3Create (args : Create3args) (res : Mem) : Done σ :=
  nfs3Creation k env fs args.where_ res .nfs3errNoent (openAndClose k)

/-- Serve MKDIR. -/
def nfs3Mkdir (args : Mkdir3args) (res : Mem) : Done σ :=
  nfs3Creation k env fs args.where_ res .nfs3errNotdir fun dirPath os =>
    os.call (fun _ => .mkdir) (k.mkdir dirPath (fieldOf 0 args.attributes.mode))

/-- Serve SYMLINK. -/
def nfs3Symlink (args : Symlink3args) (res : Mem) : Done σ :=
  nfs3Creation k env fs args.where_ res .nfs3errNoent fun filePath os =>
    os.call (fun _ => .symlink) (k.symlink (cstr args.symlink.symlinkData) filePath)

/-- The mode, device and attributes of a node to be made, for the four types that can be. -/
def Mknoddata3.node : Mknoddata3 → Option (UInt32 × UInt64 × Sattr3)
  | chr device =>
    some (FileType.chr.bits ||| fieldOf 0 device.devAttributes.mode,
      makedev device.spec.specdata1 device.spec.specdata2, device.devAttributes)
  | blk device =>
    some (FileType.blk.bits ||| fieldOf 0 device.devAttributes.mode,
      makedev device.spec.specdata1 device.spec.specdata2, device.devAttributes)
  | fifo attrs => some (FileType.fifo.bits ||| fieldOf 0 attrs.mode, 0, attrs)
  | sock attrs => some (FileType.sock.bits ||| fieldOf 0 attrs.mode, 0, attrs)
  | other _ _ => none

/--
Serve MKNOD.

Unlike its siblings it refuses an empty name, sets attributes on what it made, never says that a
handle follows, and lets examining the directory overwrite the error of a node it did not make.
-/
def nfs3Mknod (args : Mknod3args) (res : Mem) : Done σ :=
  let res := (res.put 2 0).put 10 0
  if args.where_.dir.length = 0 then .refuse fs .nfsReqError res
  else
    let dirPath := handlePath env.around args.where_.dir
    if ¬judgeFileExit k fs dirPath FileType.dir.bits then
      .refuse fs .nfsReqError (putStatus res .nfs3errNotdir)
    else if cstr args.where_.name = [] then
      .refuse fs .nfsReqError (putStatus res .nfs3errInval)
    else
      match getPreOpAttr k fs dirPath Mem.zero with
      | (.nfs3Ok, preAttr) =>
        let res := putStatus res .nfs3Ok
        let filePath := childPath dirPath args.where_.name
        match args.what.node with
        | none => .refuse fs .nfsReqOk (putStatus res .nfs3errBadtype)
        | some (mode, dev, newAttr) =>
          match (Os.start fs).call (fun _ => .mknod) (k.mknod filePath mode dev) with
          | (.error _, os) =>
            .mk .nfsReqError os
              (putReturned (getWccData k os.fs dirPath preAttr (putStatus res .nfs3errNoent) 2)) []
          | (.ok _, os) =>
            match nfsSetSattr3 k env.staleTimes os filePath newAttr with
            | (.nfs3Ok, os) =>
              let res := setFileHandle env (putStatus res .nfs3Ok) 4 filePath
              let (rc, res) := creationAttributes k os.fs dirPath filePath preAttr res
              .mk rc os res [(env.address 0, .chars filePath)]
            -- The node stays, and the directory is not examined.
            | (status, os) => .mk .nfsReqError os (putStatus res status) []
      | (status, _) => .refuse fs .nfsReqError (putStatus res status)

end Creating

section Removing

/-- Serve a procedure that removes an object of some types by one call. -/
def nfs3Removal (k : Kernel σ) (env : Env) (fs : σ) (object : Diropargs3) (res : Mem)
    (judgeMode : UInt32) (unmake : Path → Action (Os σ)) : Done σ :=
  match checkDirHandle k env fs object.dir res with
  | .error res => .refuse fs .nfsReqError res
  | .ok (preAttr, res) =>
    let dirPath := handlePath env.around object.dir
    let filePath := childPath dirPath object.name
    if ¬judgeFileExit k fs filePath judgeMode then
      outfail k (.start fs) dirPath preAttr res .nfs3errNoent
    else
      match unmake filePath (.start fs) with
      | (.error _, os) => outfail k os dirPath preAttr res .nfs3errIo
      | (.ok _, os) =>
        let (status, res) := getWccData k os.fs dirPath preAttr res 2
        .mk (rcOf [status]) os (putStatus res status) []

/-- Serve REMOVE. -/
def nfs3Remove (k : Kernel σ) (env : Env) (fs : σ) (args : Remove3args) (res : Mem) : Done σ :=
  nfs3Removal k env fs args res (FileType.reg.bits ||| FileType.lnk.bits) fun filePath os =>
    os.call (fun _ => .remove) (k.remove filePath)

/-- Serve RMDIR. -/
def nfs3Rmdir (k : Kernel σ) (env : Env) (fs : σ) (args : Rmdir3args) (res : Mem) : Done σ :=
  nfs3Removal k env fs args res FileType.dir.bits fun dirPath os =>
    os.call (fun _ => .rmdir) (k.rmdir dirPath)

end Removing

section Moving

/--
Serve RENAME.

Nobody checks the second handle for being empty, and building a string from a null pointer ends
the server. Whether or not the name was moved, the status is that of examining the directories.
-/
def nfs3Rename (k : Kernel σ) (env : Env) (fs : σ) (args : Rename3args) (res : Mem) :
    Option (Done σ) :=
  match checkDirHandle k env fs args.fromDir.dir res with
  | .error res => some (.refuse fs .nfsReqError res)
  | .ok (fromPre, res) =>
    let fromDir := handlePath env.around args.fromDir.dir
    let fromPath := childPath fromDir args.fromDir.name
    if ¬judgeFileExit k fs fromPath anyType then
      some (.refuse fs .nfsReqError (putStatus res .nfs3errNoent))
    else if args.toDir.dir.length = 0 then none
    else
      let toDir := handlePath env.around args.toDir.dir
      match checkDirectory k fs toDir res with
      | .error res => some (.refuse fs .nfsReqError res)
      | .ok (toPre, res) =>
        let (result, os) := (Os.start fs).call (fun _ => .rename)
          (k.rename fromPath (childPath toDir args.toDir.name))
        -- The two arms of the result have the same layout.
        let res := if succeeded result then res else putStatus res .nfs3errNotempty
        let (fromStatus, res) := getWccData k os.fs fromDir fromPre res 2
        let (status, res) := getWccData k os.fs toDir toPre (putStatus res fromStatus) 34
        let rc := if succeeded result then rcOf [fromStatus, status] else .nfsReqError
        some (.mk rc os (putStatus res status) [])

/-- Serve LINK. -/
def nfs3Link (k : Kernel σ) (env : Env) (fs : σ) (args : Link3args) (res : Mem) : Done σ :=
  if args.file.length = 0 then .refuse fs .nfsReqError res
  else
    match checkDirHandle k env fs args.link.dir res with
    | .error res => .refuse fs .nfsReqError res
    | .ok (preAttr, res) =>
      let dirPath := handlePath env.around args.link.dir
      let filePath := handlePath env.around args.file
      match (Os.start fs).call (fun _ => .link)
        (k.link filePath (childPath dirPath args.link.name)) with
      | (.error _, os) =>
        let (_, res) := nfsSetPostOpAttr k os.fs filePath (putStatus res .nfs3errNoent) 2
        .mk .nfsReqError os (getWccData k os.fs dirPath preAttr res 26).2 []
      | (.ok _, os) =>
        let (fileStatus, res) := nfsSetPostOpAttr k os.fs filePath res 2
        let (status, res) := getWccData k os.fs dirPath preAttr (putStatus res fileStatus) 26
        .mk (rcOf [fileStatus, status]) os (putStatus res status) []

end Moving

section Attributes

/-- Whether a guard is to be checked and names another time than the object was last changed. -/
def guardMismatch (guard : Sattrguard3) (preAttr : Mem) : Bool :=
  guard.isSet && fieldOf ⟨0, 0⟩ guard ≠ loadTime preAttr 6

/--
Serve SETATTR.

Attributes that could not be set end in the same status as those that could, that of examining
the object.
-/
def nfs3Setattr (k : Kernel σ) (env : Env) (fs : σ) (args : Setattr3args) (res : Mem) : Done σ :=
  let res := (res.put 2 0).put 10 0
  if args.object.length = 0 then .refuse fs .nfsReqError res
  else
    let filePath := handlePath env.around args.object
    match getPreOpAttr k fs filePath Mem.zero with
    | (.nfs3Ok, preAttr) =>
      let res := putStatus res .nfs3Ok
      if guardMismatch args.guard preAttr then
        .refuse fs .nfsReqOk (putStatus res .nfs3errNotSync)
      else
        let (setStatus, os) := nfsSetSattr3 k env.staleTimes (.start fs) filePath args.newAttributes
        let (status, res) := getWccData k os.fs filePath preAttr (putStatus res setStatus) 2
        .mk (rcOf [setStatus, status]) os (putStatus res status) []
    | (status, _) => .refuse fs .nfsReqError (putStatus res status)

end Attributes

end Dnfs
