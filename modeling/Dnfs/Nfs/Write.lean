import Dnfs.Nfs.Service

/-! WRITE and COMMIT, the two procedures that share the table of file handles. -/

namespace Dnfs

variable {σ : Type}

/-- The most bytes one request may read or write. -/
def writeReadMax : UInt32 := 64 * 1024 * 1024

/-- The bytes a write wrote, none when it failed. -/
def writtenCount {bound : Nat} : Except Errno (Fin bound) → Nat
  | .ok count => count
  | .error _ => 0

/-- Write bytes through a descriptor, and note down how many went where. -/
def Os.pwritev (k : Kernel σ) (os : Os σ) (fd : Fd) (iov : Bytes) (offset : UInt64) :
    Except Errno (Fin (iov.length + 1)) × Os σ :=
  os.call (fun result => .pwritev fd.file offset (writtenCount result)) (k.pwritev fd iov offset)

/-- Flush a descriptor, and note down which file it was open on. -/
def Os.fsync (k : Kernel σ) (os : Os σ) (fd : Fd) : Except Errno Unit × Os σ :=
  os.call (fun _ => .fsync fd.file) (k.fsync fd)

section Write

variable (k : Kernel σ)

/-- What WRITE hands from the function that writes to the one that replies. -/
structure Nfs3WriteData where
  rc : NfsReqResult
  ioAmount : UInt64
  res : Mem

/-- Write the data of a request through an open handle. -/
def nfsWriteBuff (os : Os σ) (fileHandle : FHandle) (fd : Fd) (fsalStable : Bool) (iov : Bytes)
    (offset : UInt64) (res : Mem) : Nfs3WriteData × Os σ × FHandle :=
  match fsalStartIo fileHandle false fsalOWrite false with
  -- A refused reservation is logged, and nothing tells the caller of it.
  | (.errFsalShareDenied, fileHandle) => (⟨.nfsReqOk, 0, res⟩, os, fileHandle)
  | (.errFsalNoError, fileHandle) =>
    match os.pwritev k fd iov offset with
    -- Both failures leave with the work still counted and the file still reserved.
    | (.error _, os) => (⟨.nfsReqError, -1, putStatus res .nfs3errIo⟩, os, fileHandle)
    | (.ok count, os) =>
      let ioAmount := UInt64.ofNat count
      let complete := fun fileHandle =>
        updateShareCountersLocked (fsalCompleteIo fileHandle) fsalOWrite fsalOClosed
      if fsalStable then
        match os.fsync k fd with
        | (.error _, os) => (⟨.nfsReqError, ioAmount, putStatus res .nfs3errIo⟩, os, fileHandle)
        | (.ok _, os) => (⟨.nfsReqOk, ioAmount, res⟩, os, complete fileHandle)
      else (⟨.nfsReqOk, ioAmount, res⟩, os, complete fileHandle)

/-- Build the reply to a request whose data were handled one way or the other. -/
def nfs3CompleteWrite (fs : σ) (verifier : UInt64) (filePath : Path) (fsalStable : Bool)
    (data : Nfs3WriteData) : NfsReqResult × Mem :=
  match data.rc with
  | .nfsReqOk =>
    let res := putReturned (getWccData k fs filePath Mem.zero data.res 2)
    let res := res.put 34 data.ioAmount.toUInt32
    let res := res.put 35 (if fsalStable then StableHow.fileSync.code else StableHow.unstable.code)
    (.nfsReqOk, res.putU64 36 verifier)
  -- Examining the file overwrites the error with its own status.
  | .nfsReqError => (.nfsReqOk, putReturned (getWccData k fs filePath Mem.zero data.res 2))
  | rc => (rc, data.res)

/-- Write through a handle that is open, reply, and close it. -/
def writeOpened (verifier : UInt64) (os : Os σ) (fileHandle : FHandle) (fd : Fd) (filePath : Path)
    (fsalStable : Bool) (iov : Bytes) (offset : UInt64) (res : Mem) :
    (NfsReqResult × Mem) × Os σ × FHandle :=
  let (data, os, fileHandle) := nfsWriteBuff k os fileHandle fd fsalStable iov offset res
  let reply := nfs3CompleteWrite k os.fs verifier filePath fsalStable data
  (reply, closeHandle k os fileHandle)

/-- Whether a request asks for its data to be on disk before the reply. -/
def Write3args.fsalStable (args : Write3args) : Bool := args.stable ≠ StableHow.unstable.code

/-- How many bytes a request writes, cut to what one request may. -/
def Write3args.clamped (args : Write3args) : UInt32 :=
  if args.count > writeReadMax then writeReadMax else args.count

/-- The bytes a request writes. -/
def Write3args.iov (args : Write3args) : Bytes := args.data.take args.clamped.toNat

/-- Serve WRITE. -/
def nfs3Write (env : Env) (server : Server σ) (args : Write3args) (res : Mem) : Served σ :=
  if args.file.length = 0 then server.refuse .nfsReqOk res
  else
    let filePath := handlePath env.around args.file
    if ¬judgeFileExit k server.fs filePath FileType.reg.bits then
      server.refuse .nfsReqOk (putStatus res .nfs3errInval)
    else if args.count.toNat > args.data.length then
      server.refuse .nfsReqOk (putStatus res .nfs3errInval)
    else if args.clamped = 0 then
      -- Only the attributes are filled in, not the count nor the verifier.
      server.refuse .nfsReqOk
        (putReturned (getWccData k server.fs filePath Mem.zero (putStatus res .nfs3Ok) 2))
    else
      match getHandle k server.os server.handleMap filePath with
      | (fileHandle, os, handleMap) =>
        -- A handle that did not open has nothing to close.
        let openFailed : Served σ :=
          { rc := .nfsReqOk
            server := { server with fs := os.fs, handleMap }
            calls := os.calls
            res := putReturned
              (getWccData k os.fs filePath Mem.zero (putStatus res .nfs3errNoent) 2)
            stored := [] }
        match fileHandle with
        | none => openFailed
        | some fileHandle =>
          match fileHandle.handle with
          | none => openFailed
          | some fd =>
            let ((rc, res), os, fileHandle) :=
              writeOpened k (server.nfs3WriteVerifier .nfsWrite) os fileHandle fd filePath
                args.fsalStable args.iov args.offset res
            { rc
              server := { server with fs := os.fs, handleMap := handleMap.set filePath fileHandle }
              calls := os.calls
              res
              stored := [] }

end Write

section Commit

/-- Flush the file behind an open handle. -/
def commitOpened (k : Kernel σ) (os : Os σ) (fileHandle : FHandle) (fd : Fd) (filePath : Path)
    (res : Mem) : Mem × Os σ × FHandle :=
  -- No reservation is asked for, so starting work cannot fail.
  let fileHandle := (fsalStartGlobalIo fileHandle fsalOAny false false).2
  match os.fsync k fd with
  | (.error _, os) =>
    (putReturned (getWccData k os.fs filePath Mem.zero (putStatus res .nfs3errIo) 2), os,
      fileHandle)
  | (.ok _, os) =>
    (putReturned (getWccData k os.fs filePath Mem.zero res 2), os, fsalCompleteIo fileHandle)

/-- Serve COMMIT. -/
def nfs3Commit (k : Kernel σ) (env : Env) (server : Server σ) (args : Commit3args) (res : Mem) :
    Served σ :=
  let verifier := server.nfs3WriteVerifier .nfsCommit
  -- Every exit copies the verifier to where a success would have it.
  if args.file.length = 0 then server.refuse .nfsReqError (res.putU64 34 verifier)
  else
    let filePath := handlePath env.around args.file
    if ¬judgeFileExit k server.fs filePath FileType.reg.bits then
      server.refuse .nfsReqError ((putStatus res .nfs3errNoent).putU64 34 verifier)
    else
      -- A closed handle is an error, and examining the file overwrites it with its own status.
      let closed := server.refuse .nfsReqError
        ((putReturned
          (getWccData k server.fs filePath Mem.zero (putStatus res .nfs3errIo) 2)).putU64 34
            verifier)
      match justGetHandle server.handleMap filePath with
      | none => closed
      | some fileHandle =>
        match fileHandle.handle with
        | none => closed
        | some fd =>
          let (res, os, fileHandle) := commitOpened k server.os fileHandle fd filePath res
          let (os, fileHandle) := closeHandle k os fileHandle
          { rc := .nfsReqOk
            server :=
              { server with
                fs := os.fs
                handleMap := server.handleMap.set filePath fileHandle }
            calls := os.calls
            res := res.putU64 34 verifier
            stored := [] }

end Commit

end Dnfs
