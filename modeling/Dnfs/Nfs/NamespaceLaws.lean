import Dnfs.Nfs.Namespace

/-! What the procedures that change names do past their checks. -/

namespace Dnfs

variable {σ : Type} {k : Kernel σ} {env : Env} {fs : σ}

section Examining

/-- The status of examining an object. -/
def examined (k : Kernel σ) (fs : σ) (path : Path) : Nfsstat3 :=
  match k.lstat fs path with
  | .ok _ => .nfs3Ok
  | .error errno => errno.status

/-- Examining an object says success exactly when it can be examined. -/
theorem examined_eq_ok {path : Path} :
    examined k fs path = .nfs3Ok ↔ succeeded (k.lstat fs path) = true := by
  unfold examined
  cases k.lstat fs path with
  | ok st | error errno => simp [succeeded]

/-- The status of the attributes from before and after is that of examining the object. -/
@[simp] theorem getWccData_fst (path : Path) (preAttr m : Mem) (at_ : Nat) :
    (getWccData k fs path preAttr m at_).1 = examined k fs path := by
  unfold examined
  -- The attributes from before have no part in it.
  cases found : k.lstat fs path with
  | ok st => rw [getWccData_ok found]
  | error errno => rw [getWccData_error found]

/-- Examining an object touches nothing outside the place of its attributes. -/
theorem nfsSetPostOpAttr_agree (path : Path) (m : Mem) {at_ start count : Nat}
    (outside : at_ + 24 ≤ start ∨ start + count ≤ at_) :
    (nfsSetPostOpAttr k fs path m at_).2.Agree m start count := by
  cases found : k.lstat fs path with
  | ok st =>
    rw [nfsSetPostOpAttr_ok found]
    exact attrStored_agree st m outside
  -- Memory stays as it was.
  | error errno =>
    rw [nfsSetPostOpAttr_error found]
    exact fun _ _ _ => rfl

/-- Examining an object after an operation touches nothing outside the place of what is stored. -/
theorem getWccData_agree (path : Path) (preAttr m : Mem) {at_ start count : Nat}
    (outside : at_ + 32 ≤ start ∨ start + count ≤ at_) :
    (getWccData k fs path preAttr m at_).2.Agree m start count := by
  -- The attributes from before and after stand together, and both are outside.
  cases found : k.lstat fs path with
  | ok st =>
    rw [getWccData_ok found]
    exact wccStored_agree st preAttr m outside
  | error errno =>
    rw [getWccData_error found]
    exact fun _ _ _ => rfl

/-- Examining an object behind the status leaves the status alone. -/
theorem nfsSetPostOpAttr_status (path : Path) (m : Mem) {at_ : Nat} (behind : 0 < at_) :
    (nfsSetPostOpAttr k fs path m at_).2 0 = m 0 := by
  -- The status is the word before all attributes.
  have apart : (nfsSetPostOpAttr k fs path m at_).2.Agree m 0 1 :=
    nfsSetPostOpAttr_agree path m (.inr behind)
  exact apart.word (Nat.le_refl 0) (by decide)

/-- Examining an object after an operation leaves the status alone. -/
theorem getWccData_status (path : Path) (preAttr m : Mem) {at_ : Nat} (behind : 0 < at_) :
    (getWccData k fs path preAttr m at_).2 0 = m 0 := by
  have apart : (getWccData k fs path preAttr m at_).2.Agree m 0 1 :=
    getWccData_agree path preAttr m (.inr behind)
  exact apart.word (Nat.le_refl 0) (by decide)

/-- What is kept of an object from before an operation, nothing if it cannot be examined. -/
def kept (k : Kernel σ) (fs : σ) (path : Path) : Mem := (getPreOpAttr k fs path Mem.zero).2

/-- An object that passes a test can be examined. -/
theorem judged_lstat {path : Path} {mask : UInt32} (judged : judgeFileExit k fs path mask = true) :
    ∃ st, k.lstat fs path = .ok st := by
  cases found : k.lstat fs path with
  | ok st => exact ⟨st, rfl⟩
  -- The test examines the object itself.
  | error errno => simp [judgeFileExit, found] at judged

/-- An object that passes a test is kept. -/
theorem getPreOpAttr_judged {path : Path} {mask : UInt32}
    (judged : judgeFileExit k fs path mask = true) :
    getPreOpAttr k fs path Mem.zero = (.nfs3Ok, kept k fs path) := by
  obtain ⟨st, found⟩ := judged_lstat judged
  rw [kept, getPreOpAttr_ok found]

/-- A directory that is there passes its check. -/
theorem checkDirectory_judged {dirPath : Path} (res : Mem)
    (judged : judgeFileExit k fs dirPath FileType.dir.bits = true) :
    checkDirectory k fs dirPath res = .ok (kept k fs dirPath, putStatus res .nfs3Ok) := by
  simp [checkDirectory, judged, getPreOpAttr_judged judged]

/-- Anything else does not. -/
theorem checkDirectory_other {dirPath : Path} (res : Mem)
    (other : judgeFileExit k fs dirPath FileType.dir.bits = false) :
    checkDirectory k fs dirPath res = .error (putStatus res .nfs3errNotdir) := by
  simp [checkDirectory, other]

/-- What MKNOD and SETATTR store before they look at anything. -/
def wccCleared (res : Mem) : Mem := (res.put 2 0).put 10 0

/-- A handle that names something that passes for a directory. -/
structure NamesDir (k : Kernel σ) (fs : σ) (dir : NfsFh3) : Prop where
  named : dir ≠ []
  judged : judgeFileExit k fs (cstr dir) FileType.dir.bits = true

/-- Such a handle passes its check, and its directory is kept. -/
theorem NamesDir.checked {dir : NfsFh3} (names : NamesDir k fs dir) (res : Mem) :
    checkDirHandle k env fs dir res = .ok (kept k fs (cstr dir), putStatus res .nfs3Ok) := by
  -- Both checks pass: there is a path, and what it names is a directory.
  simp only [checkDirHandle, List.length_eq_zero_iff, names.named, if_false, handlePath_eq,
    checkDirectory_judged res names.judged]

/-- An empty handle is refused without a status. -/
theorem checkDirHandle_unnamed {dir : NfsFh3} (res : Mem) (unnamed : dir = []) :
    checkDirHandle k env fs dir res = .error res := by
  simp only [checkDirHandle, unnamed, List.length_nil, if_true]

/-- A handle that names anything else is refused with a status. -/
theorem checkDirHandle_other {dir : NfsFh3} (res : Mem) (named : dir ≠ [])
    (other : judgeFileExit k fs (cstr dir) FileType.dir.bits = false) :
    checkDirHandle k env fs dir res = .error (putStatus res .nfs3errNotdir) := by
  simp only [checkDirHandle, List.length_eq_zero_iff, named, if_false, handlePath_eq,
    checkDirectory_other res other]

end Examining

section Creating

variable {where_ : Diropargs3} {failure : Nfsstat3} {make : Path → Action (Os σ)}
  {os : Os σ}

/-- A creation that its directory does not pass is refused. -/
theorem nfs3Creation_refused {res left : Mem}
    (refused : checkDirHandle k env fs where_.dir res = .error left) :
    nfs3Creation k env fs where_ res failure make = .refuse fs .nfsReqError left := by
  simp only [nfs3Creation, refused]

/-- An object that could not be made ends in the error of the procedure. -/
theorem nfs3Creation_failed {errno : Errno} (res : Mem) (names : NamesDir k fs where_.dir)
    (fails : make where_.path (.start fs) = (.error errno, os)) :
    nfs3Creation k env fs where_ res failure make =
      outfail k os (cstr where_.dir) (kept k fs (cstr where_.dir)) (putStatus res .nfs3Ok)
        failure := by
  -- The handle passes, so the call is what decides.
  simp only [nfs3Creation, names.checked, handlePath_eq, fails]

/-- An object that was made is described. -/
theorem nfs3Creation_made (res : Mem) (names : NamesDir k fs where_.dir)
    (makes : make where_.path (.start fs) = (.ok (), os)) :
    nfs3Creation k env fs where_ res failure make =
      let filePath := where_.path
      let filled := creationAttributes k os.fs (cstr where_.dir) filePath
        (kept k fs (cstr where_.dir))
        ((setFileHandle env (putStatus res .nfs3Ok) 4 filePath).put 2 1)
      ⟨filled.1, os, filled.2, [(env.address 0, .chars filePath)]⟩ := by
  simp only [nfs3Creation, names.checked, handlePath_eq, makes]

/-- The status after an object was made is that of examining its directory. -/
theorem creationAttributes_status (dirPath filePath : Path) (preAttr res : Mem) :
    (creationAttributes k fs dirPath filePath preAttr res).2 0 = (examined k fs dirPath).code := by
  simp only [creationAttributes, putStatus_zero, getWccData_fst]

/-- An error of the procedure's own is kept. -/
theorem outfail_status (dirPath : Path) (preAttr res : Mem) (status : Nfsstat3) :
    (outfail k os dirPath preAttr res status).res 0 = status.code := by
  -- The directory is shown behind the status.
  simp only [outfail, getWccData_status _ _ _ (show 0 < 2 by decide), putStatus_zero]

end Creating

section Mknod

variable {args : Mknod3args} {os : Os σ}

/-- An empty handle is refused without a status. -/
theorem nfs3Mknod_unnamed (res : Mem) (unnamed : args.where_.dir = []) :
    nfs3Mknod k env fs args res = .refuse fs .nfsReqError (wccCleared res) := by
  simp only [nfs3Mknod, unnamed, List.length_nil, if_true]
  rfl

/-- A node in anything but a directory is refused. -/
theorem nfs3Mknod_other (res : Mem) (named : args.where_.dir ≠ [])
    (other : judgeFileExit k fs (cstr args.where_.dir) FileType.dir.bits = false) :
    nfs3Mknod k env fs args res =
      .refuse fs .nfsReqError (putStatus (wccCleared res) .nfs3errNotdir) := by
  simp only [nfs3Mknod, List.length_eq_zero_iff, named, if_false, handlePath_eq, other,
    Bool.false_eq_true, not_false_eq_true, if_true]
  rfl

/-- A node without a name is refused. -/
theorem nfs3Mknod_nameless (res : Mem) (names : NamesDir k fs args.where_.dir)
    (nameless : cstr args.where_.name = []) :
    nfs3Mknod k env fs args res =
      .refuse fs .nfsReqError (putStatus (wccCleared res) .nfs3errInval) := by
  -- The name is looked at before the directory is kept.
  simp only [nfs3Mknod, List.length_eq_zero_iff, names.named, if_false, handlePath_eq,
    names.judged, not_true, nameless, if_true]
  rfl

/-- A node of a type that cannot be made is refused. -/
theorem nfs3Mknod_badtype (res : Mem) (names : NamesDir k fs args.where_.dir)
    (hasName : cstr args.where_.name ≠ []) (badtype : args.what.node = none) :
    nfs3Mknod k env fs args res =
      .refuse fs .nfsReqOk
        (putStatus (putStatus (wccCleared res) .nfs3Ok) .nfs3errBadtype) := by
  -- The type is looked at last, when the directory was kept already.
  simp only [nfs3Mknod, List.length_eq_zero_iff, names.named, if_false, handlePath_eq,
    names.judged, not_true, hasName, getPreOpAttr_judged names.judged, badtype]
  rfl

/-- A request that gets as far as making a node. -/
structure Mknod3args.Ready (k : Kernel σ) (fs : σ) (args : Mknod3args) (mode : UInt32)
    (dev : UInt64) (newAttr : Sattr3) : Prop extends NamesDir k fs args.where_.dir where
  hasName : cstr args.where_.name ≠ []
  node : args.what.node = some (mode, dev, newAttr)

/-- The path of the node. -/
abbrev Mknod3args.path (args : Mknod3args) : Path := args.where_.path

variable {mode : UInt32} {dev : UInt64} {newAttr : Sattr3}

/-- A node that could not be made ends in the status of examining its directory. -/
theorem nfs3Mknod_failed {errno : Errno} (res : Mem) (ready : args.Ready k fs mode dev newAttr)
    (fails : (Os.start fs).call (fun _ => .mknod) (k.mknod args.path mode dev)
      = (.error errno, os)) :
    nfs3Mknod k env fs args res =
      ⟨.nfsReqError, os,
        putReturned (getWccData k os.fs (cstr args.where_.dir) (kept k fs (cstr args.where_.dir))
          (putStatus (putStatus (wccCleared res) .nfs3Ok) .nfs3errNoent) 2), []⟩ := by
  simp only [nfs3Mknod, List.length_eq_zero_iff, ready.named, if_false, handlePath_eq,
    ready.judged, not_true, ready.hasName, getPreOpAttr_judged ready.judged, ready.node, fails]
  rfl

/-- A node whose attributes could not be set ends in that error. -/
theorem nfs3Mknod_unset {after : Os σ} {status : Nfsstat3} (res : Mem)
    (ready : args.Ready k fs mode dev newAttr)
    (makes : (Os.start fs).call (fun _ => .mknod) (k.mknod args.path mode dev) = (.ok (), os))
    (sets : nfsSetSattr3 k env.staleTimes os args.path newAttr = (status, after))
    (unset : status ≠ .nfs3Ok) :
    nfs3Mknod k env fs args res =
      ⟨.nfsReqError, after, putStatus (putStatus (wccCleared res) .nfs3Ok) status, []⟩ := by
  simp only [nfs3Mknod, List.length_eq_zero_iff, ready.named, if_false, handlePath_eq,
    ready.judged, not_true, ready.hasName, getPreOpAttr_judged ready.judged, ready.node, makes,
    sets]
  -- Every status but success ends the request there.
  cases status with
  | nfs3Ok => exact absurd rfl unset
  | _ => rfl

/-- A node that was made is described. -/
theorem nfs3Mknod_made {after : Os σ} (res : Mem) (ready : args.Ready k fs mode dev newAttr)
    (makes : (Os.start fs).call (fun _ => .mknod) (k.mknod args.path mode dev) = (.ok (), os))
    (sets : nfsSetSattr3 k env.staleTimes os args.path newAttr = (.nfs3Ok, after)) :
    nfs3Mknod k env fs args res =
      let filled := creationAttributes k after.fs (cstr args.where_.dir) args.path
        (kept k fs (cstr args.where_.dir))
        (setFileHandle env (putStatus (putStatus (wccCleared res) .nfs3Ok) .nfs3Ok) 4 args.path)
      ⟨filled.1, after, filled.2, [(env.address 0, .chars args.path)]⟩ := by
  simp only [nfs3Mknod, List.length_eq_zero_iff, ready.named, if_false, handlePath_eq,
    ready.judged, not_true, ready.hasName, getPreOpAttr_judged ready.judged, ready.node, makes,
    sets]
  rfl

end Mknod

section Removing

variable {object : Diropargs3} {judgeMode : UInt32}
  {unmake : Path → Action (Os σ)} {os : Os σ}

/-- A removal that its directory does not pass is refused. -/
theorem nfs3Removal_refused {res left : Mem}
    (refused : checkDirHandle k env fs object.dir res = .error left) :
    nfs3Removal k env fs object res judgeMode unmake = .refuse fs .nfsReqError left := by
  simp only [nfs3Removal, refused]

/-- An object that is not there, or is of another type, is not removed. -/
theorem nfs3Removal_missing (res : Mem) (names : NamesDir k fs object.dir)
    (missing : judgeFileExit k fs object.path judgeMode = false) :
    nfs3Removal k env fs object res judgeMode unmake =
      outfail k (.start fs) (cstr object.dir) (kept k fs (cstr object.dir)) (putStatus res .nfs3Ok)
        .nfs3errNoent := by
  simp only [nfs3Removal, names.checked, handlePath_eq, missing, Bool.false_eq_true,
    not_false_eq_true, if_true]

/-- An object that could not be removed ends in an error. -/
theorem nfs3Removal_failed {errno : Errno} (res : Mem) (names : NamesDir k fs object.dir)
    (there : judgeFileExit k fs object.path judgeMode = true)
    (fails : unmake object.path (.start fs) = (.error errno, os)) :
    nfs3Removal k env fs object res judgeMode unmake =
      outfail k os (cstr object.dir) (kept k fs (cstr object.dir)) (putStatus res .nfs3Ok)
        .nfs3errIo := by
  simp only [nfs3Removal, names.checked, handlePath_eq, there, not_true, if_false, fails]

/-- An object that was removed ends in the status of examining its directory. -/
theorem nfs3Removal_made (res : Mem) (names : NamesDir k fs object.dir)
    (there : judgeFileExit k fs object.path judgeMode = true)
    (makes : unmake object.path (.start fs) = (.ok (), os)) :
    nfs3Removal k env fs object res judgeMode unmake =
      ⟨rcOf [examined k os.fs (cstr object.dir)], os,
        putReturned (getWccData k os.fs (cstr object.dir) (kept k fs (cstr object.dir))
          (putStatus res .nfs3Ok) 2), []⟩ := by
  simp only [nfs3Removal, names.checked, handlePath_eq, there, not_true, if_false, makes,
    getWccData_fst, putReturned]

end Removing

section Moving

variable {args : Rename3args}

/-- A RENAME that its first directory does not pass is refused. -/
theorem nfs3Rename_refused {res left : Mem}
    (refused : checkDirHandle k env fs args.fromDir.dir res = .error left) :
    nfs3Rename k env fs args res = some (.refuse fs .nfsReqError left) := by
  simp only [nfs3Rename, refused]

/-- A name that is not there is not moved. -/
theorem nfs3Rename_missing (res : Mem) (names : NamesDir k fs args.fromDir.dir)
    (missing : judgeFileExit k fs args.fromDir.path anyType = false) :
    nfs3Rename k env fs args res =
      some (.refuse fs .nfsReqError (putStatus (putStatus res .nfs3Ok) .nfs3errNoent)) := by
  simp only [nfs3Rename, names.checked, handlePath_eq, missing, Bool.false_eq_true,
    not_false_eq_true, if_true]

/-- A name that is there is not moved by an empty handle, which ends the server. -/
theorem nfs3Rename_unnamed (res : Mem) (names : NamesDir k fs args.fromDir.dir)
    (there : judgeFileExit k fs args.fromDir.path anyType = true)
    (unnamed : args.toDir.dir = []) : nfs3Rename k env fs args res = none := by
  -- The second handle is read without a check of its length.
  simp only [nfs3Rename, names.checked, handlePath_eq, there, not_true, if_false, unnamed,
    List.length_nil, if_true]

/-- A name is not moved to anything but a directory. -/
theorem nfs3Rename_other (res : Mem) (names : NamesDir k fs args.fromDir.dir)
    (there : judgeFileExit k fs args.fromDir.path anyType = true) (named : args.toDir.dir ≠ [])
    (other : judgeFileExit k fs (cstr args.toDir.dir) FileType.dir.bits = false) :
    nfs3Rename k env fs args res =
      some (.refuse fs .nfsReqError (putStatus (putStatus res .nfs3Ok) .nfs3errNotdir)) := by
  simp only [nfs3Rename, names.checked, handlePath_eq, there, not_true, if_false,
    List.length_eq_zero_iff, named, checkDirectory_other _ other]

/-- A request that gets as far as moving a name. -/
structure Rename3args.Ready (k : Kernel σ) (fs : σ) (args : Rename3args) : Prop where
  fromNames : NamesDir k fs args.fromDir.dir
  there : judgeFileExit k fs args.fromDir.path anyType = true
  toNames : NamesDir k fs args.toDir.dir

/-- The call that moves the name. -/
def Rename3args.move (k : Kernel σ) (args : Rename3args) : Action σ :=
  k.rename args.fromDir.path args.toDir.path

/-- What a RENAME leaves in its result, given what it found there, whether or not it moved. -/
def Rename3args.examine (k : Kernel σ) (fs after : σ) (args : Rename3args) (res : Mem) : Mem :=
  let fromWcc :=
    getWccData k after (cstr args.fromDir.dir) (kept k fs (cstr args.fromDir.dir)) res 2
  putReturned (getWccData k after (cstr args.toDir.dir) (kept k fs (cstr args.toDir.dir))
    (putReturned fromWcc) 34)

/-- Past the checks, RENAME calls, and examines both directories whatever the call says. -/
theorem nfs3Rename_ready (res : Mem) (ready : args.Ready k fs) :
    ∃ rc, nfs3Rename k env fs args res = some
      ⟨rc, ((Os.start fs).call (fun _ => .rename) (args.move k)).2,
        args.examine k fs (args.move k fs).2
          (if succeeded (args.move k fs).1 then putStatus (putStatus res .nfs3Ok) .nfs3Ok
            else putStatus (putStatus (putStatus res .nfs3Ok) .nfs3Ok) .nfs3errNotempty), []⟩ := by
  -- All three checks pass, and the rest asks nothing.
  simp only [nfs3Rename, ready.fromNames.checked, handlePath_eq, ready.there, not_true, if_false,
    List.length_eq_zero_iff, ready.toNames.named, checkDirectory_judged _ ready.toNames.judged]
  exact ⟨_, rfl⟩

end Moving

section Linking

variable {args : Link3args} {os : Os σ}

/-- A LINK that its directory does not pass is refused. -/
theorem nfs3Link_refused {res left : Mem} (named : args.file ≠ [])
    (refused : checkDirHandle k env fs args.link.dir res = .error left) :
    nfs3Link k env fs args res = .refuse fs .nfsReqError left := by
  simp only [nfs3Link, List.length_eq_zero_iff, named, if_false, refused]

/-- A LINK to an empty handle is refused. -/
theorem nfs3Link_unnamed (res : Mem) (unnamed : args.file = []) :
    nfs3Link k env fs args res = .refuse fs .nfsReqError res := by
  simp only [nfs3Link, unnamed, List.length_nil, if_true]

/-- A request that gets as far as making a link. -/
structure Link3args.Ready (k : Kernel σ) (fs : σ) (args : Link3args) : Prop extends
    NamesDir k fs args.link.dir where
  fileNamed : args.file ≠ []

/-- The call that makes the link. -/
abbrev Link3args.make (k : Kernel σ) (args : Link3args) : Action σ :=
  k.link (cstr args.file) args.link.path

/-- A link that could not be made ends in an error. -/
theorem nfs3Link_failed {errno : Errno} (res : Mem) (ready : args.Ready k fs)
    (fails : (Os.start fs).call (fun _ => .link) (args.make k) = (.error errno, os)) :
    nfs3Link k env fs args res =
      ⟨.nfsReqError, os, (getWccData k os.fs (cstr args.link.dir) (kept k fs (cstr args.link.dir))
        (nfsSetPostOpAttr k os.fs (cstr args.file)
          (putStatus (putStatus res .nfs3Ok) .nfs3errNoent) 2).2 26).2, []⟩ := by
  simp only [nfs3Link, List.length_eq_zero_iff, ready.fileNamed, if_false, ready.checked,
    handlePath_eq, fails]

/-- A link that was made ends in the status of examining its directory. -/
theorem nfs3Link_made (res : Mem) (ready : args.Ready k fs)
    (makes : (Os.start fs).call (fun _ => .link) (args.make k) = (.ok (), os)) :
    ∃ rc, nfs3Link k env fs args res =
      ⟨rc, os, putReturned (getWccData k os.fs (cstr args.link.dir)
        (kept k fs (cstr args.link.dir))
        (putReturned (nfsSetPostOpAttr k os.fs (cstr args.file) (putStatus res .nfs3Ok) 2)) 26),
        []⟩ := by
  simp only [nfs3Link, List.length_eq_zero_iff, ready.fileNamed, if_false, ready.checked,
    handlePath_eq, makes]
  -- The return code is left open.
  exact ⟨_, rfl⟩

end Linking

section Setting

variable {args : Setattr3args} {st : Stat}

/-- An object that is not there is not set. -/
theorem nfs3Setattr_missing {errno : Errno} (res : Mem) (named : args.object ≠ [])
    (missing : k.lstat fs (cstr args.object) = .error errno) :
    nfs3Setattr k env fs args res =
      .refuse fs .nfsReqError (putStatus (wccCleared res) errno.status) := by
  simp only [nfs3Setattr, List.length_eq_zero_iff, named, if_false, handlePath_eq,
    getPreOpAttr_error missing]
  -- No error of the system is a success.
  cases errno <;> rfl

/-- The guard is not to be checked, or names the time the object was last changed. -/
def Setattr3args.GuardPasses (args : Setattr3args) (st : Stat) : Prop :=
  args.guard.isSet = true → fieldOf ⟨0, 0⟩ args.guard = st.wccAttr.ctime

instance (args : Setattr3args) (st : Stat) : Decidable (args.GuardPasses st) :=
  inferInstanceAs (Decidable (_ → _))

/-- The guard is checked against what was kept of the object. -/
theorem guardMismatch_preStored (guard : Sattrguard3) (st : Stat) (preAttr : Mem) :
    guardMismatch guard (preStored st preAttr) = true ↔
      ¬(guard.isSet = true → fieldOf ⟨0, 0⟩ guard = st.wccAttr.ctime) := by
  -- The third time of what was kept is the one the guard names.
  have kept : loadTime (preStored st preAttr) 6 = st.wccAttr.ctime :=
    congrArg WccAttr.ctime (loadWccAttr_preStored st preAttr)
  simp [guardMismatch, kept]

/-- An object that was changed meanwhile is not set. -/
theorem nfs3Setattr_guarded (res : Mem) (named : args.object ≠ [])
    (found : k.lstat fs (cstr args.object) = .ok st) (guarded : ¬args.GuardPasses st) :
    nfs3Setattr k env fs args res =
      .refuse fs .nfsReqOk
        (putStatus (putStatus (wccCleared res) .nfs3Ok) .nfs3errNotSync) := by
  have mismatch := (guardMismatch_preStored args.guard st Mem.zero).mpr guarded
  simp only [nfs3Setattr, List.length_eq_zero_iff, named, if_false, handlePath_eq,
    getPreOpAttr_ok found, mismatch, if_true]
  rfl

/-- Past the checks, SETATTR sets, and examines the object whatever setting it came to. -/
theorem nfs3Setattr_set (res : Mem) (named : args.object ≠ [])
    (found : k.lstat fs (cstr args.object) = .ok st) (passes : args.GuardPasses st) :
    ∃ rc, nfs3Setattr k env fs args res =
      let set := nfsSetSattr3 k env.staleTimes (.start fs) (cstr args.object) args.newAttributes
      ⟨rc, set.2, putReturned (getWccData k set.2.fs (cstr args.object) (preStored st Mem.zero)
        (putStatus (putStatus (wccCleared res) .nfs3Ok) set.1) 2), []⟩ := by
  have matches_ : guardMismatch args.guard (preStored st Mem.zero) = false := by
    rw [← Bool.not_eq_true, guardMismatch_preStored]
    exact not_not.mpr passes
  simp only [nfs3Setattr, List.length_eq_zero_iff, named, if_false, handlePath_eq,
    getPreOpAttr_ok found, matches_, Bool.false_eq_true]
  exact ⟨_, rfl⟩

end Setting

end Dnfs
