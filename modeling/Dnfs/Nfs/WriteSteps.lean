import Dnfs.Nfs.Steps
import Dnfs.Nfs.WriteLaws

/-! WRITE and COMMIT, one access to the shared handle at a time. -/

namespace Dnfs

variable {σ : Type}

/-- What looking up the handle of a path came to. -/
inductive Found where
  /-- There is none, which the shared one that is never open stands for. -/
  | missing
  /-- There is one, and no descriptor in it. -/
  | closed
  | opened
  deriving DecidableEq, Repr

/-- What was found, by the handle. -/
def Found.ofHandle : Option FHandle → Found
  | none => missing
  | some fileHandle => if fileHandle.handle.isSome then opened else closed

/-- What a step of WRITE or COMMIT does. -/
inductive FileStage where
  /-- It touches no handle. -/
  | look
  | lookUp (path : Path) (found : Found)
  | startIo (path : Path) (ok : Bool)
  /-- It writes or flushes through the descriptor in the handle. -/
  | io (path : Path)
  | completeIo (path : Path)
  | share (path : Path)
  | closeHandle (path : Path)
  deriving DecidableEq, Repr

/-- WRITE or COMMIT, with the steps of others free to fall between its own. -/
abbrev FileSteps (σ α : Type) := Task (Server σ) FileStage α

/-- Run alone, the steps come to what the procedure does. -/
def FileSteps.Serves (steps : FileSteps σ Answer) (server : Server σ) (served : Served σ) : Prop :=
  steps.run server = (⟨served.rc, served.res, served.stored⟩, served.server)

section Accesses

/-- Change the handle of a path, if it has one. -/
def Server.onHandle (server : Server σ) (path : Path) (change : FHandle → FHandle) : Server σ :=
  match server.handleMap path with
  | none => server
  | some fileHandle => { server with handleMap := server.handleMap.set path (change fileHandle) }

/-- Look up the handle of a path, and open it if it is not open. -/
def Server.getHandle (k : Kernel σ) (path : Path) (server : Server σ) : Found × Server σ :=
  let (fileHandle, os, handleMap) := Dnfs.getHandle k server.os server.handleMap path
  (.ofHandle fileHandle, { server with fs := os.fs, handleMap })

/-- Start work on the handle of a path, or be refused. -/
def Server.startIo (start : FHandle → FsalErrors × FHandle) (path : Path) (server : Server σ) :
    Bool × Server σ :=
  match server.handleMap path with
  | none => (true, server)
  | some fileHandle =>
    ((start fileHandle).1 = .errFsalNoError,
      { server with handleMap := server.handleMap.set path (start fileHandle).2 })

/-- Write through whatever descriptor is in the handle of a path by now. -/
def Server.pwritev (k : Kernel σ) (path : Path) (iov : Bytes) (offset : UInt64)
    (server : Server σ) :
    Except Errno Nat × Server σ :=
  match openDescriptor (server.handleMap path) with
  -- There is no descriptor of that number.
  | none => (.error (.other 9), server)
  | some fd =>
    let (result, fs) := k.pwritev fd iov offset server.fs
    (result.map Fin.val, { server with fs })

/-- Flush through whatever descriptor is in the handle of a path by now. -/
def Server.fsync (k : Kernel σ) (path : Path) (server : Server σ) : Except Errno Unit × Server σ :=
  match openDescriptor (server.handleMap path) with
  | none => (.error (.other 9), server)
  | some fd =>
    let (result, fs) := k.fsync fd server.fs
    (result, { server with fs })

/-- Close the handle of a path if it is open, whoever opened it. -/
def Server.closeHandle (k : Kernel σ) (path : Path) (server : Server σ) : Server σ :=
  match server.handleMap path with
  | none => server
  | some fileHandle =>
    let (os, fileHandle) := Dnfs.closeHandle k server.os fileHandle
    { server with fs := os.fs, handleMap := server.handleMap.set path fileHandle }

end Accesses

section Procedures

/-- Close the handle and answer. -/
def closeHandleSteps (k : Kernel σ) (path : Path) (answer : Answer) : FileSteps σ Answer :=
  .call (fun _ => .closeHandle path) (fun server => ((), server.closeHandle k path)) fun _ =>
    .done answer

/-- Write the data of a request through the handle. -/
def nfsWriteBuffSteps (k : Kernel σ) (path : Path) (fsalStable : Bool) (iov : Bytes)
    (offset : UInt64) (res : Mem) : FileSteps σ Nfs3WriteData :=
  .call (fun ok => .startIo path ok)
    (Server.startIo (fsalStartIo · false fsalOWrite false) path) fun
  | false => .done ⟨.nfsReqOk, 0, res⟩
  | true =>
    .call (fun _ => .io path) (Server.pwritev k path iov offset) fun
    | .error _ => .done ⟨.nfsReqError, -1, putStatus res .nfs3errIo⟩
    | .ok count =>
      let ioAmount := UInt64.ofNat count
      let complete : FileSteps σ Nfs3WriteData :=
        .call (fun _ => .completeIo path) (fun server => ((), server.onHandle path fsalCompleteIo))
          fun _ =>
        .call (fun _ => .share path) (fun server => ((), server.onHandle path
          (updateShareCountersLocked · fsalOWrite fsalOClosed))) fun _ =>
        .done ⟨.nfsReqOk, ioAmount, res⟩
      if fsalStable then
        .call (fun _ => .io path) (Server.fsync k path) fun
        | .error _ => .done ⟨.nfsReqError, ioAmount, putStatus res .nfs3errIo⟩
        | .ok _ => complete
      else complete

/-- Write through a handle that was found open, reply, and close it. -/
def writeOpenedSteps (k : Kernel σ) (filePath : Path) (fsalStable : Bool) (iov : Bytes)
    (offset : UInt64) (res : Mem) : FileSteps σ Answer :=
  (nfsWriteBuffSteps k filePath fsalStable iov offset res).bind fun data =>
  .look .look (fun server => nfs3CompleteWrite k server.fs (server.nfs3WriteVerifier .nfsWrite)
    filePath fsalStable data) fun reply =>
  closeHandleSteps k filePath ⟨reply.1, reply.2, []⟩

/-- WRITE, one access to the shared handle at a time. -/
def nfs3WriteSteps (k : Kernel σ) (env : Env) (args : Write3args) (res : Mem) :
    FileSteps σ Answer :=
  if args.file.length = 0 then .done ⟨.nfsReqOk, res, []⟩
  else
    let filePath := handlePath env.around args.file
    .look .look (fun server => judgeFileExit k server.fs filePath FileType.reg.bits) fun isFile =>
    if ¬isFile then .done ⟨.nfsReqOk, putStatus res .nfs3errInval, []⟩
    else if args.count.toNat > args.data.length then
      .done ⟨.nfsReqOk, putStatus res .nfs3errInval, []⟩
    else if args.clamped = 0 then
      .look .look (fun server => getWccData k server.fs filePath Mem.zero (putStatus res .nfs3Ok) 2)
        fun returned => .done ⟨.nfsReqOk, putReturned returned, []⟩
    else
      let openFailed (next : Answer → FileSteps σ Answer) : FileSteps σ Answer :=
        .look .look
          (fun server => getWccData k server.fs filePath Mem.zero (putStatus res .nfs3errNoent) 2)
          fun returned => next ⟨.nfsReqOk, putReturned returned, []⟩
      .call (fun found => .lookUp filePath found) (Server.getHandle k filePath) fun
      | .missing => openFailed .done
      -- Another may have opened the handle meanwhile, and it is closed all the same.
      | .closed => openFailed (closeHandleSteps k filePath)
      | .opened => writeOpenedSteps k filePath args.fsalStable args.iov args.offset res

/-- Show the file behind a status, put the verifier in its place, and close the handle. -/
def commitReplySteps (k : Kernel σ) (filePath : Path) (rc : NfsReqResult) (verifier : UInt64)
    (res : Mem) (next : Answer → FileSteps σ Answer) : FileSteps σ Answer :=
  .look .look (fun server => getWccData k server.fs filePath Mem.zero res 2) fun returned =>
  next ⟨rc, (putReturned returned).putU64 34 verifier, []⟩

/-- Flush through a handle that was found open, reply, and close it. -/
def commitOpenedSteps (k : Kernel σ) (filePath : Path) (verifier : UInt64) (res : Mem) :
    FileSteps σ Answer :=
  .call (fun ok => .startIo filePath ok)
    (Server.startIo (fsalStartGlobalIo · fsalOAny false false) filePath) fun _ =>
  .call (fun _ => .io filePath) (Server.fsync k filePath) fun
  | .error _ =>
    commitReplySteps k filePath .nfsReqOk verifier (putStatus res .nfs3errIo)
      (closeHandleSteps k filePath)
  | .ok _ =>
    .call (fun _ => .completeIo filePath)
      (fun server => ((), server.onHandle filePath fsalCompleteIo)) fun _ =>
    commitReplySteps k filePath .nfsReqOk verifier res (closeHandleSteps k filePath)

/-- COMMIT, which takes the verifier before anything else. -/
def nfs3CommitSteps (k : Kernel σ) (env : Env) (args : Commit3args) (res : Mem) :
    FileSteps σ Answer :=
  .look .look (fun server => server.nfs3WriteVerifier .nfsCommit) fun verifier =>
  if args.file.length = 0 then .done ⟨.nfsReqError, res.putU64 34 verifier, []⟩
  else
    let filePath := handlePath env.around args.file
    .look .look (fun server => judgeFileExit k server.fs filePath FileType.reg.bits) fun isFile =>
    if ¬isFile then .done ⟨.nfsReqError, (putStatus res .nfs3errNoent).putU64 34 verifier, []⟩
    else
      .call (fun found => .lookUp filePath found)
        (fun server => (.ofHandle (justGetHandle server.handleMap filePath), server)) fun
      | .missing =>
        commitReplySteps k filePath .nfsReqError verifier (putStatus res .nfs3errIo) .done
      | .closed =>
        commitReplySteps k filePath .nfsReqError verifier (putStatus res .nfs3errIo)
          (closeHandleSteps k filePath)
      | .opened => commitOpenedSteps k filePath verifier res

end Procedures

section Alone

variable {k : Kernel σ} {env : Env} {res : Mem} {path : Path}

/-- A map that is set to what it already says does not change. -/
theorem HandleMap.set_eq_self {handleMap : HandleMap} {fileHandle : FHandle}
    (has : handleMap path = some fileHandle) : handleMap.set path fileHandle = handleMap := by
  funext other
  by_cases same : other = path
  · simp [HandleMap.set, same, has]
  · simp [HandleMap.set, same]

/-- What comes behind a look goes on from what it saw. -/
theorem FileSteps.Serves.look {β : Type} {server : Server σ} {see : Server σ → β}
    {next : β → FileSteps σ Answer} {served : Served σ}
    (serves : (next (see server)).Serves server served) :
    FileSteps.Serves (.look .look see next) server served :=
  serves

/-- A condition is judged by the steps as it is by the procedure. -/
theorem FileSteps.Serves.ite {P : Prop} [Decidable P] {server : Server σ}
    {yes no : FileSteps σ Answer} {served served' : Served σ} (pos : P → yes.Serves server served)
    (neg : ¬P → no.Serves server served') :
    FileSteps.Serves (if P then yes else no) server (if P then served else served') := by
  split
  · exact pos ‹P›
  · exact neg ‹¬P›

/-- A server with a file system and a handle for a path put into it. -/
def Server.holding (server : Server σ) (path : Path) (fs : σ) (fileHandle : FHandle) : Server σ :=
  { server with fs, handleMap := server.handleMap.set path fileHandle }

variable {server : Server σ} {fs : σ} {fileHandle : FHandle} {fd : Fd}

/-- Putting in what is there already changes nothing. -/
theorem Server.holding_of_has (has : server.handleMap path = some fileHandle) :
    server.holding path server.fs fileHandle = server := by
  rw [Server.holding, HandleMap.set_eq_self has]

/-- Starting work on the handle that was put in. -/
theorem Server.holding_startIo (start : FHandle → FsalErrors × FHandle) :
    (server.holding path fs fileHandle).startIo start path =
      (decide ((start fileHandle).1 = .errFsalNoError),
        server.holding path fs (start fileHandle).2) := by
  simp [Server.startIo, Server.holding]

/-- Changing the handle that was put in. -/
theorem Server.holding_onHandle (change : FHandle → FHandle) :
    (server.holding path fs fileHandle).onHandle path change =
      server.holding path fs (change fileHandle) := by
  simp [Server.onHandle, Server.holding]

/-- Writing through the descriptor of the handle that was put in. -/
theorem Server.holding_pwritev (opened : fileHandle.handle = some fd) (iov : Bytes)
    (offset : UInt64) :
    (server.holding path fs fileHandle).pwritev k path iov offset =
      ((k.pwritev fd iov offset fs).1.map Fin.val,
        server.holding path (k.pwritev fd iov offset fs).2 fileHandle) := by
  simp [Server.pwritev, Server.holding, openDescriptor, opened]

/-- Flushing through the descriptor of the handle that was put in. -/
theorem Server.holding_fsync (opened : fileHandle.handle = some fd) :
    (server.holding path fs fileHandle).fsync k path =
      ((k.fsync fd fs).1, server.holding path (k.fsync fd fs).2 fileHandle) := by
  simp [Server.fsync, Server.holding, openDescriptor, opened]

/-- Closing the handle that was put in, open or not. -/
theorem Server.holding_closeHandle (os : Os σ) :
    (server.holding path os.fs fileHandle).closeHandle k path =
      server.holding path (Dnfs.closeHandle k os fileHandle).1.fs
        (Dnfs.closeHandle k os fileHandle).2 := by
  unfold Server.closeHandle Server.holding Dnfs.closeHandle
  cases opened : fileHandle.handle <;> simp [Server.os, Os.start, opened]

/-- Starting work leaves the descriptor alone. -/
theorem fsalStartGlobalIo_handle (fileHandle : FHandle) (openflags : FsalOpenflags)
    (bypass withShare : Bool) :
    (fsalStartGlobalIo fileHandle openflags bypass withShare).2.handle = fileHandle.handle := by
  unfold fsalStartGlobalIo
  dsimp only
  split
  · rcases checkShareConflictAndUpdate fileHandle.share fsalOClosed openflags bypass
      with ⟨_ | _, share⟩ <;> rfl
  · rfl

/-- The same for work that counts as a share. -/
theorem fsalStartIo_handle (fileHandle : FHandle) (openflags : FsalOpenflags) (bypass : Bool) :
    (fsalStartIo fileHandle false openflags bypass).2.handle = fileHandle.handle :=
  fsalStartGlobalIo_handle fileHandle openflags bypass true

/-- Closing what is not open does nothing. -/
theorem Server.closeHandle_closed (has : server.handleMap path = some fileHandle)
    (closed : fileHandle.handle = none) : server.closeHandle k path = server := by
  simp only [Server.closeHandle, has, Dnfs.closeHandle, closed, Server.os, Os.start]
  rw [HandleMap.set_eq_self has]

/-- Closing the handle alone. -/
theorem closeHandleSteps_run (answer : Answer) :
    (closeHandleSteps k path answer).run server = (answer, server.closeHandle k path) := rfl

/-- The reply of COMMIT alone. -/
theorem commitReplySteps_run (rc : NfsReqResult) (verifier : UInt64)
    (next : Answer → FileSteps σ Answer) :
    (commitReplySteps k path rc verifier res next).run server =
      (next ⟨rc, (putReturned (getWccData k server.fs path Mem.zero res 2)).putU64 34 verifier,
        []⟩).run server := rfl

/-- Writing through an open handle alone. -/
theorem nfsWriteBuffSteps_run (opened : fileHandle.handle = some fd) (os : Os σ) (fsalStable : Bool)
    (iov : Bytes) (offset : UInt64) :
    (nfsWriteBuffSteps k path fsalStable iov offset res).run
        (server.holding path os.fs fileHandle) =
      let (data, os, fileHandle) := nfsWriteBuff k os fileHandle fd fsalStable iov offset res
      (data, server.holding path os.fs fileHandle) := by
  -- The work is started on the handle, and its descriptor is the same after that.
  have still := fsalStartIo_handle fileHandle fsalOWrite false
  rw [opened] at still
  unfold nfsWriteBuffSteps nfsWriteBuff Os.pwritev Os.fsync Os.call
  rw [Task.run_call, Server.holding_startIo]
  rcases begun : fsalStartIo fileHandle false fsalOWrite false with ⟨_ | _, fileHandle⟩
  · rw [begun] at still
    simp only [decide_true, Task.run_call, Server.holding_pwritev still]
    -- A write that failed leaves the work started, and so does a flush.
    rcases wrote : k.pwritev fd iov offset os.fs with ⟨_ | count, fs⟩
    · simp only [Except.map, wrote]
      rfl
    · cases fsalStable with
      | false =>
        simp only [Except.map, wrote, Bool.false_eq_true, if_false, Task.run_call,
          Server.holding_onHandle]
        rfl
      | true =>
        simp only [Except.map, wrote, if_true, Task.run_call, Server.holding_fsync still]
        rcases flushed : k.fsync fd fs with ⟨_ | _, fs⟩
        · simp only [flushed]
          rfl
        · simp only [flushed, Task.run_call, Server.holding_onHandle]
          rfl
  · rfl

/-- Writing, replying and closing alone. -/
theorem writeOpenedSteps_run (k : Kernel σ) (server : Server σ) (path : Path) (res : Mem)
    (opened : fileHandle.handle = some fd) (os : Os σ) (fsalStable : Bool) (iov : Bytes)
    (offset : UInt64) :
    (writeOpenedSteps k path fsalStable iov offset res).run (server.holding path os.fs fileHandle) =
      let (reply, os, fileHandle) :=
        writeOpened k (server.nfs3WriteVerifier .nfsWrite) os fileHandle
        fd path fsalStable iov offset res
      (⟨reply.1, reply.2, []⟩, server.holding path os.fs fileHandle) := by
  unfold writeOpenedSteps writeOpened
  -- The reply only looks, so closing the handle comes right behind the write.
  rw [Task.run_bind, nfsWriteBuffSteps_run opened os]
  rcases nfsWriteBuff k os fileHandle fd fsalStable iov offset res with ⟨data, os, fileHandle⟩
  simp only [Task.run_look, closeHandleSteps_run, Server.holding_closeHandle]
  rfl

/-- Flushing through an open handle alone. -/
theorem commitOpenedSteps_run (k : Kernel σ) (server : Server σ) (path : Path) (res : Mem)
    (opened : fileHandle.handle = some fd) (os : Os σ) (verifier : UInt64) :
    (commitOpenedSteps k path verifier res).run (server.holding path os.fs fileHandle) =
      let (res, os, fileHandle) := commitOpened k os fileHandle fd path res
      let (os, fileHandle) := closeHandle k os fileHandle
      (⟨.nfsReqOk, res.putU64 34 verifier, []⟩, server.holding path os.fs fileHandle) := by
  have still := fsalStartGlobalIo_handle fileHandle fsalOAny false false
  rw [opened] at still
  unfold commitOpenedSteps commitOpened Os.fsync
  rw [Task.run_call, Server.holding_startIo, Task.run_call, Server.holding_fsync still]
  -- Only a flush that succeeded completes the work, and both close the handle.
  rcases flushed : k.fsync fd os.fs with ⟨_ | _, fs⟩
  · simp only [Os.call, flushed, commitReplySteps_run, closeHandleSteps_run]
    rw [Server.holding_closeHandle (⟨fs, ⟨.fsync fd.file, false⟩ :: os.calls⟩ : Os σ)]
    rfl
  · simp only [Os.call, flushed, Task.run_call, Server.holding_onHandle, commitReplySteps_run,
      closeHandleSteps_run]
    rw [Server.holding_closeHandle (⟨fs, ⟨.fsync fd.file, true⟩ :: os.calls⟩ : Os σ)]
    rfl

/-- COMMIT alone. -/
theorem nfs3CommitSteps_serves (args : Commit3args) :
    (nfs3CommitSteps k env args res).Serves server (nfs3Commit k env server args res) := by
  refine .look (.ite (fun _ => rfl) fun _ => .look (.ite (fun _ => rfl) fun _ => ?_))
  -- A handle that is not open is closed for nothing.
  unfold FileSteps.Serves
  simp only [Task.run_call, justGetHandle]
  rcases has : server.handleMap (handlePath env.around args.file) with _ | fileHandle
  · rfl
  · rcases opened : fileHandle.handle with _ | fd
    · simp only [Found.ofHandle, opened, Option.isSome_none, Bool.false_eq_true, if_false,
        commitReplySteps_run, closeHandleSteps_run, Server.closeHandle_closed has opened]
      rfl
    · have alone := commitOpenedSteps_run k server (handlePath env.around args.file) res opened
        server.os (server.nfs3WriteVerifier .nfsCommit)
      rw [show server.os.fs = server.fs from rfl, Server.holding_of_has has] at alone
      simp only [Found.ofHandle, opened, Option.isSome_some, if_true, alone]
      rfl

/-- WRITE alone. -/
theorem nfs3WriteSteps_serves (args : Write3args) :
    (nfs3WriteSteps k env args res).Serves server (nfs3Write k env server args res) := by
  refine .ite (fun _ => rfl) fun _ => .look (.ite (fun _ => rfl) fun _ => .ite (fun _ => rfl)
    fun _ => .ite (fun _ => rfl) fun _ => ?_)
  unfold FileSteps.Serves
  simp only [Task.run_call, Server.getHandle]
  -- Whatever handle was looked up is the one in the table.
  have inTable :=
    (getHandle_opening k server.os server.handleMap (handlePath env.around args.file)).inTable
  rcases got : getHandle k server.os server.handleMap (handlePath env.around args.file)
    with ⟨_ | fileHandle, os, handleMap⟩ <;> rw [got] at inTable
  · rfl
  · rcases opened : fileHandle.handle with _ | fd
    · simp only [Found.ofHandle, opened, Option.isSome_none, Bool.false_eq_true, if_false,
        Task.run_look, closeHandleSteps_run]
      rw [Server.closeHandle_closed inTable.symm opened]
    · have alone := writeOpenedSteps_run k { server with fs := os.fs, handleMap }
        (handlePath env.around args.file) res opened os args.fsalStable args.iov args.offset
      rw [Server.holding_of_has inTable.symm] at alone
      simp only [Found.ofHandle, opened, Option.isSome_some, if_true, alone]
      rfl

end Alone

end Dnfs
