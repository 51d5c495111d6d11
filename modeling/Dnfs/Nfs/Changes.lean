import Dnfs.Nfs.Dispatch
import Dnfs.Nfs.NamespaceLaws
import Dnfs.Nfs.SattrLaws

/-! The procedures that change the file system, as what they attempt and what they then report. -/

namespace Dnfs

variable {σ : Type}

section Attempt

/-- A request to change names or attributes. -/
inductive Change where
  | setattr (args : Setattr3args)
  | create (args : Create3args)
  | mkdir (args : Mkdir3args)
  | symlink (args : Symlink3args)
  | mknod (args : Mknod3args)
  | remove (args : Remove3args)
  | rmdir (args : Rmdir3args)
  | rename (args : Rename3args)
  | link (args : Link3args)

namespace Change

/-- The procedure of a change. -/
def proc : Change → Proc
  | setattr _ => .setattr
  | create _ => .create
  | mkdir _ => .mkdir
  | symlink _ => .symlink
  | mknod _ => .mknod
  | remove _ => .remove
  | rmdir _ => .rmdir
  | rename _ => .rename
  | link _ => .link

/-- The arguments of a change. -/
def args : (change : Change) → change.proc.Args
  | setattr args => args
  | create args => args
  | mkdir args => args
  | symlink args => args
  | mknod args => args
  | remove args => args
  | rmdir args => args
  | rename args => args
  | link args => args

/-- Serve a change. -/
def serve (k : Kernel σ) (env : Env) (server : Server σ) (change : Change) (res : Mem) :
    Option (Served σ) :=
  change.proc.serviceFunc k env server change.args res

/-- The handles of the directories a change works in, or of the object SETATTR works on. -/
def dirs : Change → List NfsFh3
  | setattr args => [args.object]
  | create args => [args.where_.dir]
  | mkdir args => [args.where_.dir]
  | symlink args => [args.where_.dir]
  | mknod args => [args.where_.dir]
  | remove args => [args.dir]
  | rmdir args => [args.dir]
  | rename args => [args.fromDir.dir, args.toDir.dir]
  | link args => [args.link.dir]

/-- All handles of a change. -/
def handles : Change → List NfsFh3
  | link args => [args.file, args.link.dir]
  | change => change.dirs

/-- The object whose examination comes last. -/
def watched : Change → Path
  | setattr args => cstr args.object
  | create args => cstr args.where_.dir
  | mkdir args => cstr args.where_.dir
  | symlink args => cstr args.where_.dir
  | mknod args => cstr args.where_.dir
  | remove args => cstr args.dir
  | rmdir args => cstr args.dir
  | rename args => cstr args.toDir.dir
  | link args => cstr args.link.dir

/-- Whether that examination overwrites the error of a call that failed. -/
def overwrites : Change → Bool
  | setattr _ => true
  | mknod _ => true
  | rename _ => true
  | _ => false

end Change

/-- What became of a change. -/
inductive ChangeOutcome (σ : Type) where
  /-- It was refused before any call. -/
  | stopped
  /-- The call that makes it failed, leaving a state behind. -/
  | failed (fs : σ)
  /-- It was made, but attributes could not be set on it, perhaps because a call failed. -/
  | unfinished (callFailed : Bool) (fs : σ)
  | made (fs : σ)

/-- The outcome of a change that one call makes. -/
def outcomeOf : Except Errno Unit × σ → ChangeOutcome σ
  | (.ok _, fs) => .made fs
  | (.error _, fs) => .failed fs

/-- Open a file so that it exists, and close it. -/
def createCall (k : Kernel σ) (filePath : Path) (fs : σ) : Except Errno Unit × σ :=
  match k.openFile filePath .creat fs with
  | (.error errno, after) => (.error errno, after)
  | (.ok fd, after) => (.ok (), k.close fd after)

/-- What becomes of a change within a directory, once the directory is judged. -/
def attemptWithin (k : Kernel σ) (fs : σ) (where_ : Diropargs3)
    (attempt : Path → ChangeOutcome σ) : ChangeOutcome σ :=
  if judgeFileExit k fs (cstr where_.dir) FileType.dir.bits then
    attempt where_.path
  else .stopped

/-- In a directory, the change is tried. -/
theorem attemptWithin_judged {k : Kernel σ} {fs : σ} {where_ : Diropargs3}
    {attempt : Path → ChangeOutcome σ}
    (judged : judgeFileExit k fs (cstr where_.dir) FileType.dir.bits = true) :
    attemptWithin k fs where_ attempt = attempt where_.path :=
  if_pos judged

/-- In anything else, it is not. -/
theorem attemptWithin_other {k : Kernel σ} {fs : σ} {where_ : Diropargs3}
    {attempt : Path → ChangeOutcome σ}
    (other : judgeFileExit k fs (cstr where_.dir) FileType.dir.bits = false) :
    attemptWithin k fs where_ attempt = .stopped := by
  simp only [attemptWithin, other, Bool.false_eq_true, if_false]

/-- What becomes of a SETATTR. -/
def attemptSetattr (k : Kernel σ) (stale : Timespec × Timespec) (fs : σ) (args : Setattr3args) :
    ChangeOutcome σ :=
  match k.lstat fs (cstr args.object) with
  | .error _ => .stopped
  | .ok st =>
    if args.GuardPasses st then
      let set := runCalls (args.newAttributes.calls k stale (cstr args.object)) fs
      if set.1 then .made set.2 else .failed set.2
    else .stopped

/-- What becomes of a node that was made, once its attributes are set. -/
def attemptSetNode (k : Kernel σ) (stale : Timespec × Timespec) (filePath : Path)
    (newAttr : Sattr3) (fs : σ) : ChangeOutcome σ :=
  let set := runCalls (newAttr.calls k stale filePath) fs
  if set.1 ∧ (newAttr.timesCalls k stale filePath).isSome then .made set.2
  else .unfinished (!set.1) set.2

/-- What becomes of a MKNOD. -/
def attemptMknod (k : Kernel σ) (stale : Timespec × Timespec) (fs : σ) (args : Mknod3args) :
    ChangeOutcome σ :=
  attemptWithin k fs args.where_ fun filePath =>
    if cstr args.where_.name = [] then .stopped
    else
      match args.what.node with
      | none => .stopped
      | some (mode, dev, newAttr) =>
        match k.mknod filePath mode dev fs with
        | (.error _, after) => .failed after
        | (.ok _, after) => attemptSetNode k stale filePath newAttr after

/-- What becomes of a RENAME. -/
def attemptRename (k : Kernel σ) (fs : σ) (args : Rename3args) : ChangeOutcome σ :=
  attemptWithin k fs args.fromDir fun src =>
    if judgeFileExit k fs src anyType then
      attemptWithin k fs args.toDir fun dst => outcomeOf (k.rename src dst fs)
    else .stopped

/-- What becomes of a LINK. -/
def attemptLink (k : Kernel σ) (fs : σ) (args : Link3args) : ChangeOutcome σ :=
  if args.file = [] then .stopped
  else attemptWithin k fs args.link fun path => outcomeOf (k.link (cstr args.file) path fs)

/-- What becomes of a change to a file system, told from the calls alone. -/
def Change.attempt (k : Kernel σ) (stale : Timespec × Timespec) (fs : σ) : Change → ChangeOutcome σ
  | setattr args => attemptSetattr k stale fs args
  | create args => attemptWithin k fs args.where_ fun path => outcomeOf (createCall k path fs)
  | mkdir args => attemptWithin k fs args.where_ fun path =>
      outcomeOf (k.mkdir path (fieldOf 0 args.attributes.mode) fs)
  | symlink args => attemptWithin k fs args.where_ fun path =>
      outcomeOf (k.symlink (cstr args.symlink.symlinkData) path fs)
  | mknod args => attemptMknod k stale fs args
  | remove args => attemptWithin k fs args fun path =>
      if judgeFileExit k fs path (FileType.reg.bits ||| FileType.lnk.bits) then
        outcomeOf (k.remove path fs)
      else .stopped
  | rmdir args => attemptWithin k fs args fun path =>
      if judgeFileExit k fs path FileType.dir.bits then outcomeOf (k.rmdir path fs) else .stopped
  | rename args => attemptRename k fs args
  | link args => attemptLink k fs args

namespace ChangeOutcome

/-- The state a change leaves behind. -/
def after (fs : σ) : ChangeOutcome σ → σ
  | stopped => fs
  | failed after => after
  | unfinished _ after => after
  | made after => after

/-- Whether a call failed. -/
def callFailed : ChangeOutcome σ → Bool
  | failed _ => true
  | unfinished callFailed _ => callFailed
  | _ => false

/-- Whether the reply says success. -/
def saysOk (k : Kernel σ) (change : Change) : ChangeOutcome σ → Bool
  | failed fs => change.overwrites && succeeded (k.lstat fs change.watched)
  | made fs => succeeded (k.lstat fs change.watched)
  | _ => false

end ChangeOutcome

end Attempt

section Done

variable {k : Kernel σ} {env : Env} {fs : σ} {change : Change}
variable (res : Mem)

/-- What is left behind is what the call left. -/
theorem outcomeOf_after (fs : σ) (result : Except Errno Unit × σ) :
    (outcomeOf result).after fs = result.2 := by
  rcases result with ⟨_ | _, after⟩ <;> rfl

/-- A call failed if its result is an error. -/
theorem outcomeOf_callFailed (result : Except Errno Unit × σ) :
    (outcomeOf result).callFailed = !succeeded result.1 := by
  rcases result with ⟨_ | _, after⟩ <;> rfl

/-- Where the last examination overwrites errors, it alone tells what the reply says. -/
theorem outcomeOf_saysOk (overwrites : change.overwrites = true) (result : Except Errno Unit × σ) :
    (outcomeOf result).saysOk k change = succeeded (k.lstat result.2 change.watched) := by
  rcases result with ⟨_ | _, after⟩
  · simp [outcomeOf, ChangeOutcome.saysOk, overwrites]
  · rfl

/-- What serving a change leaves behind, given what became of it. -/
structure ChangeDone (k : Kernel σ) (fs : σ) (change : Change) (outcome : ChangeOutcome σ)
    (done : Done σ) : Prop where
  fs : done.os.fs = outcome.after fs
  failed : anyFailed done.os.calls = outcome.callFailed
  status : done.res 0 = 0 ↔ outcome.saysOk k change = true

/-- A refusal with an error. -/
theorem ChangeDone.refuse (rc : NfsReqResult) (res : Mem) {status : Nfsstat3}
    (error : status ≠ .nfs3Ok) :
    ChangeDone k fs change .stopped (.refuse fs rc (putStatus res status)) := by
  refine ⟨rfl, rfl, ?_⟩
  simp [Done.refuse, ChangeOutcome.saysOk, error]

/-- The last examination gives the status. -/
theorem putReturned_getWccData_status {path : Path} (preAttr m : Mem) (at_ : Nat) :
    putReturned (getWccData k fs path preAttr m at_) 0 = 0 ↔
      succeeded (k.lstat fs path) = true := by
  simp [putReturned, examined_eq_ok]

/-- Code that makes a call and notes down whether it failed. -/
structure Performs (make : Action (Os σ)) (call : Action σ) :
    Prop where
  result : ∀ os, (make os).1 = (call os.fs).1
  fs : ∀ os, (make os).2.fs = (call os.fs).2
  failed : ∀ os, anyFailed (make os).2.calls = (anyFailed os.calls || !succeeded (call os.fs).1)

/-- A call that is performed at the start of a request fails or is made. -/
theorem Performs.cases {make : Action (Os σ)} {call : Action σ}
    (performs : Performs make call) (fs : σ) :
    (∃ errno os, make (.start fs) = (.error errno, os) ∧ outcomeOf (call fs) = .failed os.fs ∧
      anyFailed os.calls = true) ∨
    ∃ os, make (.start fs) = (.ok (), os) ∧ outcomeOf (call fs) = .made os.fs ∧
      anyFailed os.calls = false := by
  have result := performs.result (.start fs)
  have after := performs.fs (.start fs)
  have failed := performs.failed (.start fs)
  -- The result of the code is that of the call, so two of the four cases are left.
  rcases made : make (.start fs) with ⟨errno | _, os⟩
  · rw [made] at result after failed
    rcases called : call fs with ⟨_ | _, last⟩
    · rw [show call (Os.start fs).fs = _ from called] at result after failed
      exact .inl ⟨errno, os, rfl, congrArg _ after.symm, failed⟩
    · rw [show call (Os.start fs).fs = _ from called] at result
      cases result
  · rw [made] at result after failed
    rcases called : call fs with ⟨_ | _, last⟩
    · rw [show call (Os.start fs).fs = _ from called] at result
      cases result
    · rw [show call (Os.start fs).fs = _ from called] at result after failed
      exact .inr ⟨os, rfl, congrArg _ after.symm, failed⟩

/-- A call that is noted down is performed. -/
theorem performs_call (sys : Sys) (call : Action σ) :
    Performs (fun os => os.call (fun _ => sys) call) call where
  result := fun _ => rfl
  fs := fun _ => rfl
  failed := fun os => by simp [anyFailed, Bool.or_comm]

/-- Opening a file and closing it again performs the creation. -/
theorem performs_openAndClose (filePath : Path) :
    Performs (openAndClose k filePath) (createCall k filePath) := by
  constructor <;> intro os <;> unfold openAndClose createCall Os.call <;>
    rcases opened : k.openFile filePath .creat os.fs with ⟨_ | _, after⟩ <;>
    simp [anyFailed, succeeded]

/-- A creation leaves behind what follows from its call. -/
theorem nfs3Creation_done {where_ : Diropargs3} {failure : Nfsstat3}
    {make : Path → Action (Os σ)} {call : Path → Action σ}
    (named : where_.dir ≠ []) (performs : ∀ path, Performs (make path) (call path))
    (error : failure ≠ .nfs3Ok) (watched : change.watched = cstr where_.dir)
    (keeps : change.overwrites = false) :
    ChangeDone k fs change
      (attemptWithin k fs where_ fun path => outcomeOf (call path fs))
      (nfs3Creation k env fs where_ res failure make) := by
  cases judged : judgeFileExit k fs (cstr where_.dir) FileType.dir.bits with
  | false =>
    rw [nfs3Creation_refused (checkDirHandle_other res named judged), attemptWithin_other judged]
    exact .refuse _ _ (by decide)
  | true =>
    simp only [attemptWithin_judged judged]
    -- An error of the call is kept, otherwise the directory gives the status.
    rcases (performs where_.path).cases fs with
      ⟨errno, os, makes, outcome, failed⟩ | ⟨os, makes, outcome, failed⟩
    · rw [nfs3Creation_failed res ⟨named, judged⟩ makes, outcome]
      refine ⟨rfl, failed, ?_⟩
      rw [outfail_status]
      simp [ChangeOutcome.saysOk, keeps, error]
    · rw [nfs3Creation_made res ⟨named, judged⟩ makes, outcome]
      refine ⟨rfl, failed, ?_⟩
      simp only [creationAttributes_status, ChangeOutcome.saysOk, watched, Nfsstat3.code_eq_zero,
        examined_eq_ok]

/-- A removal leaves behind what follows from its call. -/
theorem nfs3Removal_done {object : Diropargs3} {judgeMode : UInt32}
    {unmake : Path → Action (Os σ)} {call : Path → Action σ}
    (named : object.dir ≠ []) (performs : ∀ path, Performs (unmake path) (call path))
    (watched : change.watched = cstr object.dir) (keeps : change.overwrites = false) :
    ChangeDone k fs change
      (attemptWithin k fs object fun path =>
        if judgeFileExit k fs path judgeMode then outcomeOf (call path fs) else .stopped)
      (nfs3Removal k env fs object res judgeMode unmake) := by
  cases judged : judgeFileExit k fs (cstr object.dir) FileType.dir.bits with
  | false =>
    rw [nfs3Removal_refused (checkDirHandle_other res named judged), attemptWithin_other judged]
    exact .refuse _ _ (by decide)
  | true =>
    simp only [attemptWithin_judged judged]
    cases there : judgeFileExit k fs object.path judgeMode with
    | false =>
      rw [nfs3Removal_missing res ⟨named, judged⟩ there]
      refine ⟨rfl, rfl, ?_⟩
      rw [outfail_status]
      simp [ChangeOutcome.saysOk]
    | true =>
      -- An error of the call is kept, otherwise the directory gives the status.
      rcases (performs object.path).cases fs with
        ⟨errno, os, makes, outcome, failed⟩ | ⟨os, makes, outcome, failed⟩
      · rw [nfs3Removal_failed res ⟨named, judged⟩ there makes, if_pos rfl, outcome]
        refine ⟨rfl, failed, ?_⟩
        rw [outfail_status]
        simp [ChangeOutcome.saysOk, keeps]
      · rw [nfs3Removal_made res ⟨named, judged⟩ there makes, if_pos rfl, outcome]
        refine ⟨rfl, failed, ?_⟩
        rw [putReturned_getWccData_status, ChangeOutcome.saysOk, watched]

/-- A node that was made leaves behind what follows from setting its attributes. -/
theorem nfs3Mknod_set {args : Mknod3args} {mode : UInt32} {dev : UInt64} {newAttr : Sattr3}
    {after : σ} (ready : args.Ready k fs mode dev newAttr)
    (makes : (Os.start fs).call (fun _ => .mknod) (k.mknod args.path mode dev)
      = (.ok (), ⟨after, [⟨.mknod, true⟩]⟩)) :
    ChangeDone k fs (.mknod args) (attemptSetNode k env.staleTimes args.path newAttr after)
      (nfs3Mknod k env fs args res) := by
  obtain ⟨ok, ran, success⟩ : ∃ ok, Ran (newAttr.calls k env.staleTimes args.path)
      ⟨after, [⟨.mknod, true⟩]⟩ ok _ ∧ _ := nfsSetSattr3_ran
  rcases sets : nfsSetSattr3 k env.staleTimes ⟨after, [⟨.mknod, true⟩]⟩ args.path newAttr
    with ⟨status, last⟩
  rw [sets] at ran success
  have failed : anyFailed last.calls = !ok := by simpa [anyFailed] using ran.failed
  simp only [attemptSetNode, ran.outcome, ← success]
  -- Where an attribute can not be set, that is the status.
  by_cases done : status = .nfs3Ok
  · obtain rfl : ok = true := (success.mp done).1
    subst done
    rw [nfs3Mknod_made res ready makes sets, if_pos rfl]
    refine ⟨rfl, failed, ?_⟩
    simp only [creationAttributes_status, ChangeOutcome.saysOk, Nfsstat3.code_eq_zero,
      examined_eq_ok]
    rfl
  · rw [nfs3Mknod_unset res ready makes sets done, if_neg done]
    refine ⟨rfl, failed, ?_⟩
    simp [ChangeOutcome.saysOk, done]

/-- MKNOD leaves behind what follows from its calls. -/
theorem nfs3Mknod_done {args : Mknod3args} (named : args.where_.dir ≠ []) :
    ChangeDone k fs (.mknod args) (attemptMknod k env.staleTimes fs args)
      (nfs3Mknod k env fs args res) := by
  unfold attemptMknod
  cases judged : judgeFileExit k fs (cstr args.where_.dir) FileType.dir.bits with
  | false =>
    rw [nfs3Mknod_other res named judged, attemptWithin_other judged]
    exact .refuse _ _ (by decide)
  | true =>
    simp only [attemptWithin_judged judged]
    by_cases nameless : cstr args.where_.name = []
    · rw [nfs3Mknod_nameless res ⟨named, judged⟩ nameless, if_pos nameless]
      exact .refuse _ _ (by decide)
    rw [if_neg nameless]
    rcases node : args.what.node with _ | ⟨mode, dev, newAttr⟩
    · rw [nfs3Mknod_badtype res ⟨named, judged⟩ nameless node]
      exact .refuse _ _ (by decide)
    have ready : args.Ready k fs mode dev newAttr := ⟨⟨named, judged⟩, nameless, node⟩
    -- The attributes are set only on a node that was made.
    rcases called : k.mknod args.path mode dev fs with ⟨errno | _, after⟩
    · have fails : (Os.start fs).call (fun _ => .mknod) (k.mknod args.path mode dev)
          = (.error errno, ⟨after, [⟨.mknod, false⟩]⟩) := by
        simp [Os.call, Os.start, called, succeeded]
      unfold Mknod3args.path at called
      simp only [nfs3Mknod_failed res ready fails, called]
      refine ⟨rfl, rfl, ?_⟩
      rw [putReturned_getWccData_status]
      rfl
    · have makes : (Os.start fs).call (fun _ => .mknod) (k.mknod args.path mode dev)
          = (.ok (), ⟨after, [⟨.mknod, true⟩]⟩) := by
        simp [Os.call, Os.start, called, succeeded]
      unfold Mknod3args.path at called
      simp only [called]
      exact nfs3Mknod_set res ready makes

/-- RENAME leaves behind what follows from its call. -/
theorem nfs3Rename_done {args : Rename3args} (fromNamed : args.fromDir.dir ≠ [])
    (toNamed : args.toDir.dir ≠ []) :
    ∃ done, nfs3Rename k env fs args res = some done ∧
      ChangeDone k fs (.rename args) (attemptRename k fs args) done := by
  unfold attemptRename
  cases judged : judgeFileExit k fs (cstr args.fromDir.dir) FileType.dir.bits with
  | false =>
    rw [nfs3Rename_refused (checkDirHandle_other res fromNamed judged), attemptWithin_other judged]
    exact ⟨_, rfl, .refuse _ _ (by decide)⟩
  | true =>
    simp only [attemptWithin_judged judged]
    cases there : judgeFileExit k fs args.fromDir.path anyType
    with
    | false =>
      rw [nfs3Rename_missing res ⟨fromNamed, judged⟩ there]
      exact ⟨_, rfl, .refuse _ _ (by decide)⟩
    | true =>
      rw [if_pos rfl]
      cases toJudged : judgeFileExit k fs (cstr args.toDir.dir) FileType.dir.bits with
      | false =>
        rw [nfs3Rename_other res ⟨fromNamed, judged⟩ there toNamed toJudged,
          attemptWithin_other toJudged]
        exact ⟨_, rfl, .refuse _ _ (by decide)⟩
      | true =>
        simp only [attemptWithin_judged toJudged]
        obtain ⟨rc, serves⟩ := nfs3Rename_ready res
          ⟨⟨fromNamed, judged⟩, there, ⟨toNamed, toJudged⟩⟩
        refine ⟨_, serves, ?_⟩
        -- Whatever the call says, the status is that of examining the second directory.
        show ChangeDone k fs _ (outcomeOf (args.move k fs)) _
        refine ⟨(outcomeOf_after _ _).symm, ?_, ?_⟩
        · rw [outcomeOf_callFailed]
          exact Bool.or_false _
        · rw [Rename3args.examine, putReturned_getWccData_status,
            outcomeOf_saysOk (show Change.overwrites _ = true from rfl)]
          rfl

/-- LINK leaves behind what follows from its call. -/
theorem nfs3Link_done {args : Link3args} (fileNamed : args.file ≠ []) (named : args.link.dir ≠ []) :
    ChangeDone k fs (.link args) (attemptLink k fs args) (nfs3Link k env fs args res) := by
  rw [attemptLink, if_neg fileNamed]
  cases judged : judgeFileExit k fs (cstr args.link.dir) FileType.dir.bits with
  | false =>
    rw [nfs3Link_refused fileNamed (checkDirHandle_other res named judged),
      attemptWithin_other judged]
    exact .refuse _ _ (by decide)
  | true =>
    have ready : args.Ready k fs := ⟨⟨named, judged⟩, fileNamed⟩
    simp only [attemptWithin_judged judged]
    show ChangeDone k fs _ (outcomeOf (args.make k fs)) _
    rcases (performs_call .link (args.make k)).cases fs with
      ⟨errno, os, makes, outcome, failed⟩ | ⟨os, makes, outcome, failed⟩
    · -- The error was stored before anything was looked at.
      rw [nfs3Link_failed res ready makes, outcome]
      refine ⟨rfl, failed, ?_⟩
      simp only [getWccData_status _ _ _ (show 0 < 26 by decide),
        nfsSetPostOpAttr_status _ _ (show 0 < 2 by decide)]
      simp [ChangeOutcome.saysOk, Change.overwrites]
    · obtain ⟨rc, serves⟩ : ∃ rc, nfs3Link k env fs args res = _ := nfs3Link_made res ready makes
      rw [serves, outcome]
      refine ⟨rfl, failed, ?_⟩
      rw [putReturned_getWccData_status]
      rfl

/-- SETATTR leaves behind what follows from its calls. -/
theorem nfs3Setattr_done {args : Setattr3args} (named : args.object ≠ []) :
    ChangeDone k fs (.setattr args) (attemptSetattr k env.staleTimes fs args)
      (nfs3Setattr k env fs args res) := by
  unfold attemptSetattr
  cases found : k.lstat fs (cstr args.object) with
  | error errno =>
    rw [nfs3Setattr_missing res named found]
    exact .refuse _ _ errno.status_ne_ok
  | ok st =>
    by_cases passes : args.GuardPasses st
    · obtain ⟨rc, serves⟩ : ∃ rc, nfs3Setattr k env fs args res = _ :=
        nfs3Setattr_set res named found passes
      obtain ⟨ok, ran, _⟩ : ∃ ok, Ran (args.newAttributes.calls k env.staleTimes (cstr args.object))
          (.start fs) ok _ ∧ _ := nfsSetSattr3_ran
      have outcome : runCalls _ fs = _ := ran.outcome
      have failed := ran.failed
      rw [show anyFailed (Os.start fs).calls = false from rfl, Bool.false_or] at failed
      simp only [serves, outcome, if_pos passes]
      -- Whether or not a call failed, the status is that of examining the object.
      cases ok with
      | false | true =>
        refine ⟨rfl, failed, ?_⟩
        rw [putReturned_getWccData_status]
        rfl
    · rw [nfs3Setattr_guarded res named found passes]
      simp only [if_neg passes]
      exact .refuse _ _ (by decide)

/-- Every change is served, and leaves behind what follows from what became of it. -/
theorem Change.served {server : Server σ} (change : Change) (res : Mem)
    (named : ∀ handle ∈ change.handles, handle ≠ []) :
    ∃ done, change.serve k env server res = some (server.done done) ∧
      ChangeDone k server.fs change (change.attempt k env.staleTimes server.fs) done := by
  -- Creations and removals differ only in their call.
  cases change with
  | setattr args =>
    have object : args.object ≠ [] := named _ List.mem_cons_self
    exact ⟨_, rfl, nfs3Setattr_done res object⟩
  | create args =>
    have dir : args.where_.dir ≠ [] := named _ List.mem_cons_self
    have error : Nfsstat3.nfs3errNoent ≠ .nfs3Ok := by decide
    exact ⟨_, rfl, nfs3Creation_done res dir performs_openAndClose error rfl rfl⟩
  | mkdir args =>
    have dir : args.where_.dir ≠ [] := named _ List.mem_cons_self
    have error : Nfsstat3.nfs3errNotdir ≠ .nfs3Ok := by decide
    exact ⟨_, rfl, nfs3Creation_done res dir
      (fun path => performs_call .mkdir (k.mkdir path (fieldOf 0 args.attributes.mode))) error rfl
      rfl⟩
  | symlink args =>
    have dir : args.where_.dir ≠ [] := named _ List.mem_cons_self
    have error : Nfsstat3.nfs3errNoent ≠ .nfs3Ok := by decide
    exact ⟨_, rfl, nfs3Creation_done res dir
      (fun path => performs_call .symlink (k.symlink (cstr args.symlink.symlinkData) path)) error
      rfl rfl⟩
  | mknod args =>
    have dir : args.where_.dir ≠ [] := named _ List.mem_cons_self
    exact ⟨_, rfl, nfs3Mknod_done res dir⟩
  | remove args =>
    have dir : args.dir ≠ [] := named _ List.mem_cons_self
    exact ⟨_, rfl, nfs3Removal_done res dir (fun path => performs_call .remove (k.remove path)) rfl
      rfl⟩
  | rmdir args =>
    have dir : args.dir ≠ [] := named _ List.mem_cons_self
    exact ⟨_, rfl, nfs3Removal_done res dir (fun path => performs_call .rmdir (k.rmdir path)) rfl
      rfl⟩
  | rename args =>
    have fromNamed : args.fromDir.dir ≠ [] := named _ List.mem_cons_self
    have toNamed : args.toDir.dir ≠ [] := named _ (List.mem_cons_of_mem _ List.mem_cons_self)
    obtain ⟨done, serves, follows⟩ : ∃ done, nfs3Rename k env server.fs args res = some done ∧ _ :=
      nfs3Rename_done res fromNamed toNamed
    exact ⟨done, congrArg (Option.map server.done) serves, follows⟩
  | link args =>
    have file : args.file ≠ [] := named _ List.mem_cons_self
    have dir : args.link.dir ≠ [] := named _ (List.mem_cons_of_mem _ List.mem_cons_self)
    exact ⟨_, rfl, nfs3Link_done res file dir⟩

end Done

end Dnfs
