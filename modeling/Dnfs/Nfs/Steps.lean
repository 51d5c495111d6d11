import Dnfs.Nfs.Namespace
import Dnfs.Run.Tasks

/-! The procedures that change names or attributes, one system call at a time. -/

namespace Dnfs

variable {σ : Type}

/-- What a step of a procedure does. -/
inductive Stage where
  /-- It looks at something, or closes a file. -/
  | look
  /-- It examines the object whose attributes are kept from before. -/
  | preOp
  /-- It examines that object again for the attributes from before and after. -/
  | wcc
  /-- It makes a call that may change something. -/
  | call (call : Call)
  deriving DecidableEq, Repr

/-- A procedure, with the calls of others free to fall between its own. -/
abbrev Steps (σ α : Type) := Task σ Stage α

/-- What a procedure leaves for its caller, apart from the file system. -/
structure Answer where
  rc : NfsReqResult
  res : Mem
  stored : List (UInt64 × Block)

/-- What a served request leaves for its caller. -/
def Done.answer (done : Done σ) : Answer := ⟨done.rc, done.res, done.stored⟩

/-- Run alone, the steps come to what the procedure does. -/
def Steps.Serves (steps : Steps σ Answer) (fs : σ) (done : Done σ) : Prop :=
  steps.run fs = (done.answer, done.os.fs)

section Calls

/-- One call that is noted down. -/
def callSteps (sys : Sys) (make : Action σ) : Steps σ (Except Errno Unit) :=
  .call (fun result => .call ⟨sys, succeeded result⟩) make .done

/-- Open a file so that it exists, and close it. -/
def openAndCloseSteps (k : Kernel σ) (filePath : Path) : Steps σ (Except Errno Unit) :=
  .call (fun result => .call ⟨.openFile, succeeded result⟩) (k.openFile filePath .creat) fun
    | .error errno => .done (.error errno)
    | .ok fd => .call (fun _ => .look) (fun fs => ((), k.close fd fs)) fun _ => .done (.ok ())

/-- Change the permissions, if they are to be set. -/
def setModeSteps (k : Kernel σ) (filePath : Path) (newAttr : Sattr3) :
    Steps σ (Except Errno Unit) :=
  if newAttr.mode.isSet then callSteps .chmod (k.chmod filePath (fieldOf 0 newAttr.mode))
  else .done (.ok ())

/-- Change the owner and the group, if either is to be set. -/
def setOwnerSteps (k : Kernel σ) (filePath : Path) (newAttr : Sattr3) :
    Steps σ (Except Errno Unit) :=
  if newAttr.gid.isSet ∨ newAttr.uid.isSet then
    let newGid := if newAttr.gid.isSet then fieldOf 0 newAttr.gid else 0xffffffff
    let newUid := if newAttr.uid.isSet then fieldOf 0 newAttr.uid else 0xffffffff
    callSteps .chown (k.chown filePath newUid newGid)
  else .done (.ok ())

/-- Change the times. -/
def setTimesSteps (k : Kernel σ) (filePath : Path) (atime mtime : Timespec) :
    Steps σ (Except Errno Unit) :=
  if atime.tvNsec = utimeNow ∨ mtime.tvNsec = utimeNow then
    callSteps .utimes (k.utimes filePath none)
  else
    callSteps .utimes (k.utimes filePath (some (atime.toTimeval, mtime.toTimeval)))

/-- Set attributes one call after another, and stop at the first that fails. -/
def nfsSetSattr3Steps (k : Kernel σ) (stale : Timespec × Timespec) (filePath : Path)
    (newAttr : Sattr3) : Steps σ Nfsstat3 :=
  (setModeSteps k filePath newAttr).bind fun
  | .error _ => .done .nfs3errInval
  | .ok _ =>
    (setOwnerSteps k filePath newAttr).bind fun
    | .error _ => .done .nfs3errInval
    | .ok _ =>
      match timeToSet stale.1 newAttr.atime, timeToSet stale.2 newAttr.mtime with
      | some (setAtime, atime), some (setMtime, mtime) =>
        if setAtime ∨ setMtime then
          (setTimesSteps k filePath atime mtime).bind fun
          | .error _ => .done .nfs3errInval
          | .ok _ => .done .nfs3Ok
        else .done .nfs3Ok
      | _, _ => .done .nfs3errInval

end Calls

section Directories

/-- Check a directory and keep its attributes from before. -/
def checkDirectorySteps (k : Kernel σ) (dirPath : Path) (res : Mem)
    (next : Mem → Mem → Steps σ Answer) : Steps σ Answer :=
  .look .look (fun fs => judgeFileExit k fs dirPath FileType.dir.bits) fun isDir =>
  if ¬isDir then .done ⟨.nfsReqError, putStatus res .nfs3errNotdir, []⟩
  else
    .look .preOp (fun fs => getPreOpAttr k fs dirPath Mem.zero) fun
    | (.nfs3Ok, preAttr) => next preAttr (putStatus res .nfs3Ok)
    | (status, _) => .done ⟨.nfsReqError, putStatus res status, []⟩

/-- Check the directory a handle names. -/
def checkDirHandleSteps (k : Kernel σ) (env : Env) (dir : NfsFh3) (res : Mem)
    (next : Mem → Mem → Steps σ Answer) : Steps σ Answer :=
  if dir.length = 0 then .done ⟨.nfsReqError, res, []⟩
  else checkDirectorySteps k (handlePath env.around dir) res next

/-- The directory stays as it was: the error was stored, and the directory is shown if it can be. -/
def outfailSteps (k : Kernel σ) (dirPath : Path) (preAttr res : Mem) (status : Nfsstat3) :
    Steps σ Answer :=
  .look .wcc (fun fs => getWccData k fs dirPath preAttr (putStatus res status) 2) fun
  | (_, res) => .done ⟨.nfsReqError, res, []⟩

/-- Fill in the attributes of a new object and of its directory, whose status comes last. -/
def creationAttributesSteps (k : Kernel σ) (dirPath filePath : Path) (preAttr res : Mem)
    (stored : List (UInt64 × Block)) : Steps σ Answer :=
  .look .look (fun fs => nfsSetPostOpAttr k fs filePath res 8) fun
  | (objStatus, res) =>
    .look .wcc (fun fs => getWccData k fs dirPath preAttr (putStatus res objStatus) 32) fun
    | (status, res) => .done ⟨rcOf [objStatus, status], putStatus res status, stored⟩

end Directories

section Procedures

variable (k : Kernel σ) (env : Env)

/-- A procedure that makes an object. -/
def nfs3CreationSteps (where_ : Diropargs3) (res : Mem)
    (failure : Nfsstat3) (make : Path → Steps σ (Except Errno Unit)) : Steps σ Answer :=
  checkDirHandleSteps k env where_.dir res fun preAttr res =>
  let dirPath := handlePath env.around where_.dir
  let filePath := childPath dirPath where_.name
  (make filePath).bind fun
  | .error _ => outfailSteps k dirPath preAttr res failure
  | .ok _ =>
    creationAttributesSteps k dirPath filePath preAttr ((setFileHandle env res 4 filePath).put 2 1)
      [(env.address 0, .chars filePath)]

/-- CREATE, one system call at a time. -/
def nfs3CreateSteps (args : Create3args) (res : Mem) : Steps σ Answer :=
  nfs3CreationSteps k env args.where_ res .nfs3errNoent (openAndCloseSteps k)

/-- MKDIR, one system call at a time. -/
def nfs3MkdirSteps (args : Mkdir3args) (res : Mem) : Steps σ Answer :=
  nfs3CreationSteps k env args.where_ res .nfs3errNotdir fun dirPath =>
    callSteps .mkdir (k.mkdir dirPath (fieldOf 0 args.attributes.mode))

/-- SYMLINK, one system call at a time. -/
def nfs3SymlinkSteps (args : Symlink3args) (res : Mem) : Steps σ Answer :=
  nfs3CreationSteps k env args.where_ res .nfs3errNoent fun filePath =>
    callSteps .symlink (k.symlink (cstr args.symlink.symlinkData) filePath)

/-- Make a node and set attributes on it, once the directory was checked. -/
def mknodSteps (args : Mknod3args) (dirPath : Path) (preAttr res : Mem) : Steps σ Answer :=
  let filePath := childPath dirPath args.where_.name
  match args.what.node with
  | none => .done ⟨.nfsReqOk, putStatus res .nfs3errBadtype, []⟩
  | some (mode, dev, newAttr) =>
    (callSteps .mknod (k.mknod filePath mode dev)).bind fun
    | .error _ =>
      .look .wcc (fun fs => getWccData k fs dirPath preAttr (putStatus res .nfs3errNoent) 2)
        fun returned => .done ⟨.nfsReqError, putReturned returned, []⟩
    | .ok _ =>
      (nfsSetSattr3Steps k env.staleTimes filePath newAttr).bind fun
      | .nfs3Ok =>
        creationAttributesSteps k dirPath filePath preAttr
          (setFileHandle env (putStatus res .nfs3Ok) 4 filePath) [(env.address 0, .chars filePath)]
      | status => .done ⟨.nfsReqError, putStatus res status, []⟩

/-- MKNOD, which judges the name before it keeps the attributes. -/
def nfs3MknodSteps (args : Mknod3args) (res : Mem) : Steps σ Answer :=
  let res := (res.put 2 0).put 10 0
  if args.where_.dir.length = 0 then .done ⟨.nfsReqError, res, []⟩
  else
    let dirPath := handlePath env.around args.where_.dir
    .look .look (fun fs => judgeFileExit k fs dirPath FileType.dir.bits) fun isDir =>
    if ¬isDir then .done ⟨.nfsReqError, putStatus res .nfs3errNotdir, []⟩
    else if cstr args.where_.name = [] then .done ⟨.nfsReqError, putStatus res .nfs3errInval, []⟩
    else
      .look .preOp (fun fs => getPreOpAttr k fs dirPath Mem.zero) fun
      | (.nfs3Ok, preAttr) => mknodSteps k env args dirPath preAttr (putStatus res .nfs3Ok)
      | (status, _) => .done ⟨.nfsReqError, putStatus res status, []⟩

/-- A procedure that removes an object of some types. -/
def nfs3RemovalSteps (object : Diropargs3) (res : Mem)
    (judgeMode : UInt32) (unmake : Path → Steps σ (Except Errno Unit)) : Steps σ Answer :=
  checkDirHandleSteps k env object.dir res fun preAttr res =>
  let dirPath := handlePath env.around object.dir
  let filePath := childPath dirPath object.name
  .look .look (fun fs => judgeFileExit k fs filePath judgeMode) fun isThere =>
  if ¬isThere then outfailSteps k dirPath preAttr res .nfs3errNoent
  else
    (unmake filePath).bind fun
    | .error _ => outfailSteps k dirPath preAttr res .nfs3errIo
    | .ok _ =>
      .look .wcc (fun fs => getWccData k fs dirPath preAttr res 2) fun
      | (status, res) => .done ⟨rcOf [status], putStatus res status, []⟩

/-- REMOVE, one system call at a time. -/
def nfs3RemoveSteps (args : Remove3args) (res : Mem) : Steps σ Answer :=
  nfs3RemovalSteps k env args res (FileType.reg.bits ||| FileType.lnk.bits) fun filePath =>
    callSteps .remove (k.remove filePath)

/-- RMDIR, one system call at a time. -/
def nfs3RmdirSteps (args : Rmdir3args) (res : Mem) : Steps σ Answer :=
  nfs3RemovalSteps k env args res FileType.dir.bits fun dirPath =>
    callSteps .rmdir (k.rmdir dirPath)

/-- LINK, which shows the file and its new directory whatever the call came to. -/
def nfs3LinkSteps (args : Link3args) (res : Mem) : Steps σ Answer :=
  if args.file.length = 0 then .done ⟨.nfsReqError, res, []⟩
  else
    checkDirHandleSteps k env args.link.dir res fun preAttr res =>
    let dirPath := handlePath env.around args.link.dir
    let filePath := handlePath env.around args.file
    (callSteps .link (k.link filePath (childPath dirPath args.link.name))).bind fun
    | .error _ =>
      .look .look (fun fs => nfsSetPostOpAttr k fs filePath (putStatus res .nfs3errNoent) 2) fun
      | (_, res) =>
        .look .wcc (fun fs => getWccData k fs dirPath preAttr res 26) fun
        | (_, res) => .done ⟨.nfsReqError, res, []⟩
    | .ok _ =>
      .look .look (fun fs => nfsSetPostOpAttr k fs filePath res 2) fun
      | (fileStatus, res) =>
        .look .wcc (fun fs => getWccData k fs dirPath preAttr (putStatus res fileStatus) 26) fun
        | (status, res) => .done ⟨rcOf [fileStatus, status], putStatus res status, []⟩

/-- SETATTR, which judges its guard by the attributes from before. -/
def nfs3SetattrSteps (args : Setattr3args) (res : Mem) : Steps σ Answer :=
  let res := (res.put 2 0).put 10 0
  if args.object.length = 0 then .done ⟨.nfsReqError, res, []⟩
  else
    let filePath := handlePath env.around args.object
    .look .preOp (fun fs => getPreOpAttr k fs filePath Mem.zero) fun
    | (.nfs3Ok, preAttr) =>
      let res := putStatus res .nfs3Ok
      if guardMismatch args.guard preAttr then .done ⟨.nfsReqOk, putStatus res .nfs3errNotSync, []⟩
      else
        (nfsSetSattr3Steps k env.staleTimes filePath args.newAttributes).bind fun setStatus =>
        .look .wcc (fun fs => getWccData k fs filePath preAttr (putStatus res setStatus) 2) fun
        | (status, res) => .done ⟨rcOf [setStatus, status], putStatus res status, []⟩
    | (status, _) => .done ⟨.nfsReqError, putStatus res status, []⟩

end Procedures

section Alone

variable {k : Kernel σ} {env : Env} {fs : σ} {res : Mem}
variable (filePath : Path)

/-- The steps of a part of a procedure, run alone, come to that part. -/
def Steps.Makes {α : Type} (steps : Steps σ α) (part : Os σ → α × Os σ) : Prop :=
  ∀ os, steps.run os.fs = ((part os).1, (part os).2.fs)

/-- What comes behind a part goes on from what the part came to. -/
theorem Steps.Makes.run_bind {α β : Type} {steps : Steps σ α} {part : Os σ → α × Os σ}
    (makes : steps.Makes part) (next : α → Steps σ β) {os after : Os σ} {result : α}
    (made : part os = (result, after)) :
    (steps.bind next).run os.fs = (next result).run after.fs := by
  rw [Task.run_bind, makes os, made]

/-- The same for the first part of a procedure that changes anything. -/
theorem Steps.Makes.run_start {α β : Type} {steps : Steps σ α} {part : Os σ → α × Os σ}
    (makes : steps.Makes part) (next : α → Steps σ β) {after : Os σ} {result : α}
    (made : part (.start fs) = (result, after)) :
    (steps.bind next).run fs = (next result).run after.fs :=
  makes.run_bind next made

/-- What comes behind a look goes on from what it saw. -/
theorem Steps.Serves.look {β : Type} {stage : Stage} {see : σ → β} {next : β → Steps σ Answer}
    {done : Done σ} (serves : (next (see fs)).Serves fs done) :
    Steps.Serves (.look stage see next) fs done :=
  serves

/-- A condition is judged by the steps as it is by the procedure. -/
theorem Steps.Serves.ite {P : Prop} [Decidable P] {yes no : Steps σ Answer} {done done' : Done σ}
    (pos : P → yes.Serves fs done) (neg : ¬P → no.Serves fs done') :
    Steps.Serves (if P then yes else no) fs (if P then done else done') := by
  split
  · exact pos ‹P›
  · exact neg ‹¬P›

/-- A call that can fail is followed by what the procedure does in either case. -/
theorem Steps.Makes.serves {steps : Steps σ (Except Errno Unit)}
    {part : Action (Os σ)} {next : Except Errno Unit → Steps σ Answer}
    {failed made : Os σ → Done σ} (makes : steps.Makes part)
    (error : ∀ errno os, (next (.error errno)).Serves os.fs (failed os))
    (ok : ∀ os, (next (.ok ())).Serves os.fs (made os)) :
    Steps.Serves (steps.bind next) fs
      (match part (.start fs) with
      | (.error _, os) => failed os
      | (.ok _, os) => made os) := by
  unfold Steps.Serves
  rcases result : part (.start fs) with ⟨errno | _, os⟩ <;> rw [makes.run_start next result]
  · exact error errno os
  · exact ok os

/-- One call alone. -/
theorem callSteps_makes (sys : Sys) (make : Action σ) :
    (callSteps sys make).Makes fun os => os.call (fun _ => sys) make := by
  intro os
  simp [callSteps]

/-- Opening and closing alone: only a file that opened is closed. -/
theorem openAndCloseSteps_makes :
    (openAndCloseSteps k filePath).Makes (openAndClose k filePath) := by
  intro os
  unfold openAndCloseSteps openAndClose Os.call
  rcases opened : k.openFile filePath .creat os.fs with ⟨_ | _, after⟩ <;> simp [opened]

/-- Changing the permissions alone. -/
theorem setModeSteps_makes (newAttr : Sattr3) :
    (setModeSteps k filePath newAttr).Makes fun os => setMode k os filePath newAttr := by
  intro os
  unfold setModeSteps setMode
  split
  · exact callSteps_makes _ _ os
  · rfl

/-- Changing the owner and the group alone. -/
theorem setOwnerSteps_makes (newAttr : Sattr3) :
    (setOwnerSteps k filePath newAttr).Makes fun os => setOwner k os filePath newAttr := by
  intro os
  unfold setOwnerSteps setOwner
  split
  · exact callSteps_makes _ _ os
  · rfl

/-- Changing the times alone. -/
theorem setTimesSteps_makes (atime mtime : Timespec) :
    (setTimesSteps k filePath atime mtime).Makes fun os => setTimes k os filePath atime mtime := by
  intro os
  unfold setTimesSteps setTimes
  -- Both branches are one call, with the times given or with the current one.
  split <;> exact callSteps_makes _ _ os

/-- Setting attributes alone. -/
theorem nfsSetSattr3Steps_makes (stale : Timespec × Timespec) (filePath : Path) (newAttr : Sattr3) :
    (nfsSetSattr3Steps k stale filePath newAttr).Makes fun os =>
      nfsSetSattr3 k stale os filePath newAttr := by
  intro os
  unfold nfsSetSattr3Steps nfsSetSattr3
  dsimp only
  -- Each call hands over to the next one only when it succeeds.
  rcases mode : setMode k os filePath newAttr with ⟨_ | _, os⟩ <;>
    rw [(setModeSteps_makes filePath newAttr).run_bind _ mode]
  · rfl
  · dsimp only
    rcases owner : setOwner k os filePath newAttr with ⟨_ | _, os⟩ <;>
      rw [(setOwnerSteps_makes filePath newAttr).run_bind _ owner]
    · rfl
    · dsimp only
      rcases timeToSet stale.1 newAttr.atime with _ | ⟨setAtime, atime⟩
      · rfl
      · rcases timeToSet stale.2 newAttr.mtime with _ | ⟨setMtime, mtime⟩
        · rfl
        · dsimp only
          by_cases set : setAtime = true ∨ setMtime = true
          · rw [if_pos set, if_pos set]
            rcases times : setTimes k os filePath atime mtime with ⟨_ | _, os⟩ <;>
              rw [(setTimesSteps_makes filePath atime mtime).run_bind _ times]
            · rfl
            · rfl
          · rw [if_neg set, if_neg set]
            rfl

/-- A directory that is checked is handed on, or the request ends there. -/
theorem checkDirHandleSteps_serves {dir : NfsFh3} {next : Mem → Mem → Steps σ Answer}
    {rest : Mem → Mem → Done σ}
    (serves : ∀ preAttr res, (next preAttr res).Serves fs (rest preAttr res)) :
    (checkDirHandleSteps k env dir res next).Serves fs
      (match checkDirHandle k env fs dir res with
      | .error res => .refuse fs .nfsReqError res
      | .ok (preAttr, res) => rest preAttr res) := by
  unfold checkDirHandleSteps checkDirHandle
  split
  · -- An empty handle.
    rfl
  · unfold checkDirectorySteps checkDirectory
    refine .look ?_
    split
    · -- What the handle names is not a directory.
      rfl
    · refine .look ?_
      rcases getPreOpAttr k fs (handlePath env.around dir) Mem.zero with ⟨status, preAttr⟩
      cases status
      case nfs3Ok => exact serves preAttr _
      all_goals rfl

/-- Making an object alone. -/
theorem nfs3CreationSteps_serves {where_ : Diropargs3} {failure : Nfsstat3}
    {steps : Path → Steps σ (Except Errno Unit)}
    {make : Path → Action (Os σ)}
    (makes : ∀ path, (steps path).Makes (make path)) :
    (nfs3CreationSteps k env where_ res failure steps).Serves fs
      (nfs3Creation k env fs where_ res failure make) := by
  exact checkDirHandleSteps_serves fun _ _ => (makes _).serves (fun _ _ => by rfl) fun _ => by rfl

/-- CREATE alone. -/
theorem nfs3CreateSteps_serves (args : Create3args) :
    (nfs3CreateSteps k env args res).Serves fs (nfs3Create k env fs args res) :=
  nfs3CreationSteps_serves openAndCloseSteps_makes

/-- MKDIR alone. -/
theorem nfs3MkdirSteps_serves (args : Mkdir3args) :
    (nfs3MkdirSteps k env args res).Serves fs (nfs3Mkdir k env fs args res) :=
  nfs3CreationSteps_serves fun _ => callSteps_makes _ _

/-- SYMLINK alone. -/
theorem nfs3SymlinkSteps_serves (args : Symlink3args) :
    (nfs3SymlinkSteps k env args res).Serves fs (nfs3Symlink k env fs args res) :=
  nfs3CreationSteps_serves fun _ => callSteps_makes _ _

/-- MKNOD alone. -/
theorem nfs3MknodSteps_serves (args : Mknod3args) :
    (nfs3MknodSteps k env args res).Serves fs (nfs3Mknod k env fs args res) := by
  -- The checks of the handle, its directory and the name come before the first call.
  refine .ite (fun _ => rfl) fun _ => .look (.ite (fun _ => rfl) fun _ =>
    .ite (fun _ => rfl) fun _ => .look ?_)
  rcases getPreOpAttr k fs (handlePath env.around args.where_.dir) Mem.zero with ⟨status, preAttr⟩
  cases status
  case nfs3Ok =>
    dsimp only [mknodSteps]
    rcases args.what.node with _ | ⟨mode, dev, newAttr⟩
    · rfl
    -- Only a node that was made has its attributes set.
    · refine (callSteps_makes _ _).serves (fun _ _ => by rfl) fun os => ?_
      unfold Steps.Serves
      rcases set : nfsSetSattr3 k env.staleTimes os (childPath (handlePath env.around
        args.where_.dir) args.where_.name) newAttr with ⟨status, os⟩
      rw [(nfsSetSattr3Steps_makes _ _ _).run_bind _ set]
      cases status <;> rfl
  all_goals rfl

/-- Removing an object alone. -/
theorem nfs3RemovalSteps_serves {object : Diropargs3} {judgeMode : UInt32}
    {steps : Path → Steps σ (Except Errno Unit)}
    {unmake : Path → Action (Os σ)}
    (makes : ∀ path, (steps path).Makes (unmake path)) :
    (nfs3RemovalSteps k env object res judgeMode steps).Serves fs
      (nfs3Removal k env fs object res judgeMode unmake) := by
  -- Nothing is removed unless an object of the right type was seen there.
  exact checkDirHandleSteps_serves fun _ _ => .look
    (.ite (fun _ => rfl) fun _ => (makes _).serves (fun _ _ => by rfl) fun _ => by rfl)

/-- REMOVE alone. -/
theorem nfs3RemoveSteps_serves (args : Remove3args) :
    (nfs3RemoveSteps k env args res).Serves fs (nfs3Remove k env fs args res) :=
  nfs3RemovalSteps_serves fun _ => callSteps_makes _ _

/-- RMDIR alone. -/
theorem nfs3RmdirSteps_serves (args : Rmdir3args) :
    (nfs3RmdirSteps k env args res).Serves fs (nfs3Rmdir k env fs args res) :=
  nfs3RemovalSteps_serves fun _ => callSteps_makes _ _

/-- LINK alone. -/
theorem nfs3LinkSteps_serves (args : Link3args) :
    (nfs3LinkSteps k env args res).Serves fs (nfs3Link k env fs args res) :=
  .ite (fun _ => rfl) fun _ => checkDirHandleSteps_serves fun _ _ =>
    (callSteps_makes _ _).serves (fun _ _ => by rfl) fun _ => by rfl

/-- SETATTR alone. -/
theorem nfs3SetattrSteps_serves (args : Setattr3args) :
    (nfs3SetattrSteps k env args res).Serves fs (nfs3Setattr k env fs args res) := by
  refine .ite (fun _ => rfl) fun _ => .look ?_
  rcases getPreOpAttr k fs (handlePath env.around args.object) Mem.zero with ⟨status, preAttr⟩
  cases status
  case nfs3Ok =>
    -- The guard is judged by the attributes from before, and then nothing is left but to set.
    refine .ite (fun _ => rfl) fun _ => ?_
    exact (nfsSetSattr3Steps_makes _ _ _).run_start _ rfl
  all_goals rfl

end Alone

end Dnfs
