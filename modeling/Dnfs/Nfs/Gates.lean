import Dnfs.Nfs.Confinement
import Dnfs.Nfs.Dispatch

/-! The checks of an object's type that the procedures make, and which types they mistake. -/

namespace Dnfs

variable {σ : Type}

section Gates

/-- What a check of an object's type is for. -/
inductive Gate where
  /-- A file that can be written. -/
  | regular
  | symlink
  | directory
  /-- Anything that can be removed by its name. -/
  | removable
  /-- Anything that is there. -/
  | existing
  deriving DecidableEq, Repr

/-- The mode a check is made with. -/
def Gate.judgeMode : Gate → UInt32
  | regular => FileType.reg.bits
  | symlink => FileType.lnk.bits
  | directory => FileType.dir.bits
  | removable => FileType.reg.bits ||| FileType.lnk.bits
  | existing => anyType

/-- The types a check is for. -/
def Gate.wants : Gate → FileType → Bool
  | regular, type => type = .reg
  | symlink, type => type = .lnk
  | directory, type => type = .dir
  | removable, type => type ≠ .dir
  | existing, _ => true

/-- The types a check mistakes, since their modes share a bit with its own, or share none. -/
def Gate.mistakes : Gate → FileType → Bool
  | regular, type => type = .lnk ∨ type = .sock
  | symlink, type => type = .reg ∨ type = .sock ∨ type = .chr ∨ type = .blk
  | directory, type => type = .blk ∨ type = .sock
  | removable, type => type = .fifo
  | existing, _ => false

/-- A check a request goes through, and the status it is refused with. -/
structure TypeCheck where
  gate : Gate
  path : Path
  refusal : Nfsstat3

/-- The object passes. -/
def TypeCheck.passes (k : Kernel σ) (fs : σ) (check : TypeCheck) : Bool :=
  judgeFileExit k fs check.path check.gate.judgeMode

/-- The directory a handle names. -/
def dirCheck (dir : NfsFh3) : TypeCheck := ⟨.directory, cstr dir, .nfs3errNotdir⟩

/-- The object of a name in a directory. -/
def childCheck (gate : Gate) (slot : Diropargs3) : TypeCheck :=
  ⟨gate, slot.path, .nfs3errNoent⟩

/-- The checks a request goes through, in order. -/
def Proc.typeChecks : (p : Proc) → p.Args → List TypeCheck
  | lookup, args => [dirCheck (Diropargs3.dir args), childCheck .existing args]
  | readlink, args => [⟨.symlink, cstr args, .nfs3errNoent⟩]
  | write, args => [⟨.regular, cstr args.file, .nfs3errInval⟩]
  | create, args => [dirCheck args.where_.dir]
  | mkdir, args => [dirCheck args.where_.dir]
  | symlink, args => [dirCheck args.where_.dir]
  | mknod, args => [dirCheck args.where_.dir]
  | remove, args => [dirCheck (Diropargs3.dir args), childCheck .removable args]
  | rmdir, args => [dirCheck (Diropargs3.dir args), childCheck .directory args]
  | rename, args =>
    [dirCheck args.fromDir.dir, childCheck .existing args.fromDir, dirCheck args.toDir.dir]
  | link, args => [dirCheck args.link.dir]
  | commit, args => [⟨.regular, cstr args.file, .nfs3errNoent⟩]
  | _, _ => []

/-- A check passes just the bits it is made with. -/
theorem judgeMode_and (gate : Gate) (type : FileType) :
    (type.bits &&& gate.judgeMode ≠ 0) ↔ (gate.wants type = true ↔ gate.mistakes type = false) := by
  cases gate <;> cases type <;> decide

/-- An object that is there passes a check if its bits do. -/
theorem passes_iff {k : Kernel σ} {fs : σ} {check : TypeCheck} {st : Stat}
    (found : k.lstat fs check.path = .ok st) :
    check.passes k fs = true ↔ st.type.bits &&& check.gate.judgeMode ≠ 0 := by
  -- Every mode is made of bits of the type, which are above those of the permissions.
  have high : check.gate.judgeMode.toNat % 2 ^ 12 = 0 := by cases check.gate <;> decide
  rw [TypeCheck.passes, judgeFileExit_iff high, found]
  simp

/-- A check tells the types it is for from the others unless it mistakes the type. -/
theorem check_exact_iff {k : Kernel σ} {fs : σ} {check : TypeCheck} {st : Stat}
    (found : k.lstat fs check.path = .ok st) :
    (check.passes k fs = true ↔ check.gate.wants st.type = true) ↔
      check.gate.mistakes st.type = false := by
  rw [passes_iff found, judgeMode_and]
  cases check.gate.wants st.type <;> cases check.gate.mistakes st.type <;> simp

/--
The checks of a request tell the types they are for from the others if and only if none of its
objects is of a type that its check mistakes.
-/
theorem typeChecks_exact_iff (k : Kernel σ) (fs : σ) (p : Proc) (args : p.Args) :
    (∀ check ∈ p.typeChecks args, ∀ st, k.lstat fs check.path = .ok st →
      (check.passes k fs = true ↔ check.gate.wants st.type = true)) ↔
    ∀ check ∈ p.typeChecks args, ∀ st, k.lstat fs check.path = .ok st →
      check.gate.mistakes st.type = false := by
  constructor
  · intro exact_ check mem st found
    exact (check_exact_iff found).mp (exact_ check mem st found)
  · intro unmistaken check mem st found
    exact (check_exact_iff found).mpr (unmistaken check mem st found)

end Gates

section TurnedAway

variable {k : Kernel σ} {env : Env} {server : Server σ} {fs : σ} {res : Mem}
variable {checks : List TypeCheck} {calls : List Call}

/-- A request ended without a call, in the status of one of its checks. -/
def TurnedAway (checks : List TypeCheck) (calls : List Call) (res : Mem) : Prop :=
  calls = [] ∧ ∃ check ∈ checks, res 0 = check.refusal.code

/-- Some check fails. -/
def AnyFails (k : Kernel σ) (fs : σ) (checks : List TypeCheck) : Prop :=
  ∃ check ∈ checks, check.passes k fs = false

/-- A request is turned away just if one of its checks fails. -/
abbrev Obeys (k : Kernel σ) (fs : σ) (checks : List TypeCheck) (calls : List Call) (res : Mem) :
    Prop :=
  TurnedAway checks calls res ↔ AnyFails k fs checks

/-- A request whose first checks pass is turned away by the next. -/
theorem turnedAway_of_refusal (check : TypeCheck) (mem : check ∈ checks)
    (fails : check.passes k fs = false) (none : calls = []) (status : res 0 = check.refusal.code) :
    Obeys k fs checks calls res :=
  iff_of_true ⟨none, check, mem, status⟩ ⟨check, mem, fails⟩

/-- What is no directory turns a request away before anything else is checked. -/
theorem turnedAway_of_dir {dir : NfsFh3}
    (judged : judgeFileExit k fs (cstr dir) FileType.dir.bits = false) :
    Obeys k fs (dirCheck dir :: checks) [] (putStatus res .nfs3errNotdir) :=
  turnedAway_of_refusal (dirCheck dir) List.mem_cons_self judged rfl (putStatus_zero ..)

/-- A request that made a call was not turned away, so no check may have failed. -/
theorem not_turnedAway_of_call (made : calls ≠ [])
    (pass : ∀ check ∈ checks, check.passes k fs = true) : Obeys k fs checks calls res := by
  refine iff_of_false (fun away => made away.1) ?_
  rintro ⟨check, mem, fails⟩
  simp [pass check mem] at fails

/-- Neither was one that ended in another status. -/
theorem not_turnedAway_of_status (status : ∀ check ∈ checks, res 0 ≠ check.refusal.code)
    (pass : ∀ check ∈ checks, check.passes k fs = true) : Obeys k fs checks calls res := by
  refine iff_of_false (fun away => ?_) ?_
  · obtain ⟨-, check, mem, same⟩ := away
    exact status check mem same
  · rintro ⟨check, mem, fails⟩
    simp [pass check mem] at fails

/-- A request with no other check than that of its directory passes them all. -/
theorem passes_dirCheck {dir : NfsFh3}
    (judged : judgeFileExit k fs (cstr dir) FileType.dir.bits = true) :
    ∀ check ∈ [dirCheck dir], check.passes k fs = true := by
  intro check mem
  rw [List.mem_singleton.mp mem]
  exact judged

/-- Opening a file is noted down, whether or not it succeeds. -/
theorem openAndClose_calls (k : Kernel σ) (path : Path) (os : Os σ) :
    (openAndClose k path os).2.calls ≠ [] := by
  have noted : (os.call (fun _ => .openFile) (k.openFile path .creat)).2.calls ≠ [] :=
    List.cons_ne_nil _ _
  unfold openAndClose
  rcases opened : os.call (fun _ => .openFile) (k.openFile path .creat) with ⟨_ | _, after⟩ <;>
    rw [opened] at noted
  · exact noted
  · exact noted

/-- A creation is turned away by its directory and by nothing else. -/
theorem nfs3Creation_turnedAway {where_ : Diropargs3} {failure : Nfsstat3}
    {make : Path → Action (Os σ)} (named : where_.dir ≠ [])
    (calls : ∀ path os, (make path os).2.calls ≠ []) :
    Obeys k fs [dirCheck where_.dir] (nfs3Creation k env fs where_ res failure make).os.calls
      (nfs3Creation k env fs where_ res failure make).res := by
  cases judged : judgeFileExit k fs (cstr where_.dir) FileType.dir.bits with
  | false =>
    rw [nfs3Creation_refused (checkDirHandle_other res named judged)]
    exact turnedAway_of_dir judged
  | true =>
    have names : NamesDir k fs where_.dir := ⟨named, judged⟩
    have pass := passes_dirCheck judged
    have made := calls where_.path (.start fs)
    -- Whether the object was made or not, the call is noted down.
    rcases ran : make where_.path (.start fs) with ⟨errno | _, os⟩ <;> rw [ran] at made
    · rw [nfs3Creation_failed res names ran]
      exact not_turnedAway_of_call made pass
    · rw [nfs3Creation_made res names ran]
      exact not_turnedAway_of_call made pass

/-- A removal is turned away by its directory, by its object, and by nothing else. -/
theorem nfs3Removal_turnedAway {object : Diropargs3} {gate : Gate}
    {unmake : Path → Action (Os σ)} (named : object.dir ≠ [])
    (calls : ∀ path os, (unmake path os).2.calls ≠ []) :
    Obeys k fs [dirCheck object.dir, childCheck gate object]
      (nfs3Removal k env fs object res gate.judgeMode unmake).os.calls
      (nfs3Removal k env fs object res gate.judgeMode unmake).res := by
  -- The directory is checked before the object in it.
  cases judged : judgeFileExit k fs (cstr object.dir) FileType.dir.bits with
  | false =>
    rw [nfs3Removal_refused (checkDirHandle_other res named judged)]
    exact turnedAway_of_dir judged
  | true =>
    have names : NamesDir k fs object.dir := ⟨named, judged⟩
    cases there : judgeFileExit k fs object.path gate.judgeMode with
    | false =>
      rw [nfs3Removal_missing res names there]
      refine turnedAway_of_refusal (childCheck gate object) (by simp) there rfl ?_
      rw [outfail_status]
      rfl
    | true =>
      have pass : ∀ check ∈ [dirCheck object.dir, childCheck gate object],
          check.passes k fs = true := by
        simpa [TypeCheck.passes, dirCheck, childCheck, Gate.judgeMode] using ⟨judged, there⟩
      have made := calls object.path (.start fs)
      rcases ran : unmake object.path (.start fs) with ⟨errno | _, os⟩ <;> rw [ran] at made
      · rw [nfs3Removal_failed res names there ran]
        exact not_turnedAway_of_call made pass
      · rw [nfs3Removal_made res names there ran]
        exact not_turnedAway_of_call made pass

/-- LOOKUP is turned away by its directory, by its object, and by nothing else. -/
theorem nfs3Lookup_turnedAway {args : Lookup3args} (named : args.dir ≠ []) :
    Obeys k fs [dirCheck args.dir, childCheck .existing args]
      (nfs3Lookup k env fs args res).os.calls (nfs3Lookup k env fs args res).res := by
  cases judged : judgeFileExit k fs (cstr args.dir) FileType.dir.bits with
  | false =>
    rw [nfs3Lookup_other res named judged]
    exact turnedAway_of_dir judged
  | true =>
    obtain ⟨dir, foundDir⟩ := judged_lstat judged
    cases there : judgeFileExit k fs args.path anyType with
    | false =>
      -- The directory is shown behind the status.
      rw [nfs3Lookup_missing res named judged foundDir there]
      refine turnedAway_of_refusal (childCheck .existing args) (by simp) there rfl ?_
      have status : (nfsSetPostOpAttr k fs (cstr args.dir) (putStatus res .nfs3errNoent) 2).2 0 =
          putStatus res .nfs3errNoent 0 := nfsSetPostOpAttr_status _ _ (by decide)
      rw [nfsSetPostOpAttr_ok foundDir] at status
      exact status.trans (putStatus_zero res .nfs3errNoent)
    | true =>
      obtain ⟨st, found⟩ := judged_lstat there
      rw [nfs3Lookup_found res named judged foundDir there found]
      refine not_turnedAway_of_status ?_ ?_
      · simp [dirCheck, childCheck]
        decide
      · simpa [TypeCheck.passes, dirCheck, childCheck, Gate.judgeMode] using ⟨judged, there⟩

/-- READLINK is turned away by its object, and by nothing else. -/
theorem nfs3Readlink_turnedAway {args : Readlink3args} (named : args ≠ []) :
    Obeys k fs [⟨.symlink, cstr args, .nfs3errNoent⟩]
      (nfs3Readlink k env fs args res).os.calls (nfs3Readlink k env fs args res).res := by
  cases judged : judgeFileExit k fs (cstr args) FileType.lnk.bits with
  | false =>
    rw [nfs3Readlink_other res named judged]
    exact turnedAway_of_refusal ⟨.symlink, cstr args, .nfs3errNoent⟩ (by simp) judged rfl
      (putStatus_zero res .nfs3errNoent)
  | true =>
    obtain ⟨st, found⟩ := judged_lstat judged
    -- A link that can not be read is told of in another status.
    refine not_turnedAway_of_status ?_ ?_
    · simp only [List.mem_singleton, forall_eq]
      cases reads : k.readlink fs (cstr args) ((attrStored st Mem.zero 0).getU64 8) with
      | error errno =>
        rw [nfs3Readlink_unreadable res named judged found reads]
        simp
        decide
      | ok target =>
        rw [nfs3Readlink_read res named judged found reads]
        simp
        decide
    · simpa [TypeCheck.passes, Gate.judgeMode] using judged

/-- Examining an object never ends in the status for an invalid argument. -/
theorem examined_ne_inval (k : Kernel σ) (fs : σ) (path : Path) :
    (examined k fs path).code ≠ Nfsstat3.nfs3errInval.code := by
  unfold examined
  cases k.lstat fs path with
  | ok _ => simp [Nfsstat3.code]
  | error errno => cases errno <;> simp [Errno.status] <;> decide

/-- Nor does what is stored of examining it. -/
theorem returned_ne_inval (k : Kernel σ) (fs : σ) (path : Path) (preAttr res : Mem) (at_ : Nat) :
    putReturned (getWccData k fs path preAttr res at_) 0 ≠ Nfsstat3.nfs3errInval.code := by
  rw [putReturned, putStatus_zero, getWccData_fst]
  exact examined_ne_inval k fs path

/-- WRITE, with all its data there, is turned away by its object and by nothing else. -/
theorem nfs3Write_turnedAway {args : Write3args} (named : args.file ≠ [])
    (fits : args.count.toNat ≤ args.data.length) :
    Obeys k server.fs [⟨.regular, cstr args.file, .nfs3errInval⟩]
      (nfs3Write k env server args res).calls (nfs3Write k env server args res).res := by
  cases judged : judgeFileExit k server.fs (cstr args.file) FileType.reg.bits with
  | false =>
    rw [nfs3Write_invalid res named (by simp [judged])]
    exact turnedAway_of_refusal ⟨.regular, cstr args.file, .nfs3errInval⟩ (by simp) judged rfl
      (putStatus_zero res .nfs3errInval)
  | true =>
    refine not_turnedAway_of_status ?_ (by simpa [TypeCheck.passes, Gate.judgeMode] using judged)
    simp only [List.mem_singleton, forall_eq]
    by_cases idle : args.count = 0
    · rw [nfs3Write_idle res named judged idle]
      exact returned_ne_inval _ _ _ _ _ _
    · have served := nfs3Write_served env res ⟨named, judged, fits, idle⟩
      rw [served.res, WriteOutcome.reply_eq]
      -- What is filled in lies behind the status.
      cases (writeAttempt k server args).1.amount with
      | none => exact returned_ne_inval _ _ _ _ _ _
      | some count => simpa using returned_ne_inval _ _ _ _ _ _

/-- Closing a handle is not noted down. -/
theorem closeHandle_calls (k : Kernel σ) (os : Os σ) (fileHandle : FHandle) :
    (closeHandle k os fileHandle).1.calls = os.calls := by
  unfold closeHandle
  cases fileHandle.handle <;> rfl

/-- Flushing a file is noted down. -/
theorem commitOpened_calls (k : Kernel σ) (os : Os σ) (fileHandle : FHandle) (fd : Fd)
    (filePath : Path) (res : Mem) :
    (commitOpened k os fileHandle fd filePath res).2.1.calls ≠ [] := by
  have noted : (os.fsync k fd).2.calls ≠ [] := List.cons_ne_nil _ _
  unfold commitOpened
  rcases flushed : os.fsync k fd with ⟨_ | _, after⟩ <;> rw [flushed] at noted <;> exact noted

/-- COMMIT is turned away by its object, and by nothing else. -/
theorem nfs3Commit_turnedAway {args : Commit3args} (named : args.file ≠ []) :
    Obeys k server.fs [⟨.regular, cstr args.file, .nfs3errNoent⟩]
      (nfs3Commit k env server args res).calls (nfs3Commit k env server args res).res := by
  cases judged : judgeFileExit k server.fs (cstr args.file) FileType.reg.bits with
  | false =>
    refine turnedAway_of_refusal ⟨.regular, cstr args.file, .nfs3errNoent⟩ (by simp) judged ?_ ?_
    · simp [nfs3Commit, named, judged, Server.refuse, Server.done, Done.refuse, Os.start]
    · simp [nfs3Commit, named, judged, Server.refuse, Server.done, Done.refuse]
  | true =>
    have pass : ∀ check ∈ [(⟨.regular, cstr args.file, .nfs3errNoent⟩ : TypeCheck)],
        check.passes k server.fs = true := by
      simpa [TypeCheck.passes, Gate.judgeMode] using judged
    obtain ⟨st, found⟩ := judged_lstat judged
    have closed : putReturned (getWccData k server.fs (cstr args.file) Mem.zero
        (putStatus res .nfs3errIo) 2) 0 = Nfsstat3.nfs3Ok.code := by
      rw [putReturned, putStatus_zero, getWccData_fst, examined, found]
    have idle : (server.handleMap (cstr args.file)).bind FHandle.handle = none →
        (nfs3Commit k env server args res).res 0 = Nfsstat3.nfs3Ok.code := by
      intro none
      cases entry : server.handleMap (cstr args.file) with
      | none =>
        simpa [nfs3Commit, named, judged, justGetHandle, entry, Server.refuse, Server.done,
          Done.refuse] using closed
      | some fileHandle =>
        rw [entry, Option.bind_some] at none
        simpa [nfs3Commit, named, judged, justGetHandle, entry, none, Server.refuse, Server.done,
          Done.refuse] using closed
    cases opened : (server.handleMap (cstr args.file)).bind FHandle.handle with
    | none =>
      refine not_turnedAway_of_status ?_ pass
      rw [idle opened]
      simp
      decide
    | some fd =>
      -- The file is flushed, whether or not that succeeds.
      refine not_turnedAway_of_call ?_ pass
      obtain ⟨fileHandle, entry, handle⟩ := Option.bind_eq_some_iff.mp opened
      simp only [nfs3Commit, List.length_eq_zero_iff, named, judged, justGetHandle, entry, handle,
        handlePath_eq, not_true_eq_false, if_false, closeHandle_calls]
      exact commitOpened_calls _ _ _ _ _ _

/-- MKNOD is turned away by its directory, and by nothing else. -/
theorem nfs3Mknod_turnedAway {args : Mknod3args} (named : args.where_.dir ≠ []) :
    Obeys k fs [dirCheck args.where_.dir] (nfs3Mknod k env fs args res).os.calls
      (nfs3Mknod k env fs args res).res := by
  cases judged : judgeFileExit k fs (cstr args.where_.dir) FileType.dir.bits with
  | false =>
    rw [nfs3Mknod_other res named judged]
    exact turnedAway_of_dir judged
  | true =>
    have names : NamesDir k fs args.where_.dir := ⟨named, judged⟩
    have pass := passes_dirCheck judged
    by_cases nameless : cstr args.where_.name = []
    · rw [nfs3Mknod_nameless res names nameless]
      refine not_turnedAway_of_status ?_ pass
      simp [dirCheck, Done.refuse]
      decide
    · cases node : args.what.node with
      | none =>
        rw [nfs3Mknod_badtype res names nameless node]
        refine not_turnedAway_of_status ?_ pass
        simp [dirCheck, Done.refuse]
        decide
      | some made =>
        obtain ⟨mode, dev, newAttr⟩ := made
        have ready : args.Ready k fs mode dev newAttr := ⟨names, nameless, node⟩
        have noted : ((Os.start fs).call (fun _ => .mknod) (k.mknod args.path mode dev)).2.calls
            ≠ [] := List.cons_ne_nil _ _
        rcases ran : (Os.start fs).call (fun _ => .mknod) (k.mknod args.path mode dev)
          with ⟨errno | _, os⟩ <;> rw [ran] at noted
        · rw [nfs3Mknod_failed res ready ran]
          exact not_turnedAway_of_call noted pass
        · -- Setting the attributes forgets no call.
          have suffix := nfsSetSattr3_suffix k env.staleTimes os args.path newAttr
          rcases sets : nfsSetSattr3 k env.staleTimes os args.path newAttr with ⟨status, after⟩
          rw [sets] at suffix
          have later : after.calls ≠ [] := fun empty => noted (by simpa [empty] using suffix)
          by_cases unset : status = .nfs3Ok
          · subst unset
            rw [nfs3Mknod_made res ready ran sets]
            exact not_turnedAway_of_call later pass
          · rw [nfs3Mknod_unset res ready ran sets unset]
            exact not_turnedAway_of_call later pass

/-- LINK is turned away by its directory, and by nothing else. -/
theorem nfs3Link_turnedAway {args : Link3args} (namedFile : args.file ≠ [])
    (named : args.link.dir ≠ []) :
    Obeys k fs [dirCheck args.link.dir] (nfs3Link k env fs args res).os.calls
      (nfs3Link k env fs args res).res := by
  cases judged : judgeFileExit k fs (cstr args.link.dir) FileType.dir.bits with
  | false =>
    rw [nfs3Link_refused namedFile (checkDirHandle_other res named judged)]
    exact turnedAway_of_dir judged
  | true =>
    have pass := passes_dirCheck judged
    have ready : args.Ready k fs := ⟨⟨named, judged⟩, namedFile⟩
    have noted : ((Os.start fs).call (fun _ => .link) (args.make k)).2.calls ≠ [] :=
      List.cons_ne_nil _ _
    -- The file itself is not checked at all.
    rcases ran : (Os.start fs).call (fun _ => .link) (args.make k) with ⟨errno | _, os⟩ <;>
      rw [ran] at noted
    · rw [nfs3Link_failed res ready ran]
      exact not_turnedAway_of_call noted pass
    · obtain ⟨rc, served⟩ : ∃ rc, nfs3Link k env fs args res = ⟨rc, os, _, _⟩ :=
        nfs3Link_made res ready ran
      rw [served]
      exact not_turnedAway_of_call noted pass

/-- RENAME is turned away by either directory, by its source, and by nothing else. -/
theorem nfs3Rename_turnedAway {args : Rename3args} (namedFrom : args.fromDir.dir ≠ [])
    (namedTo : args.toDir.dir ≠ []) :
    ∃ done, nfs3Rename k env fs args res = some done ∧
      Obeys k fs (Proc.typeChecks .rename args) done.os.calls done.res := by
  cases judged : judgeFileExit k fs (cstr args.fromDir.dir) FileType.dir.bits with
  | false =>
    refine ⟨_, nfs3Rename_refused (checkDirHandle_other res namedFrom judged), ?_⟩
    exact turnedAway_of_dir judged
  | true =>
    have names : NamesDir k fs args.fromDir.dir := ⟨namedFrom, judged⟩
    cases there : judgeFileExit k fs args.fromDir.path anyType with
    | false =>
      refine ⟨_, nfs3Rename_missing res names there, ?_⟩
      exact turnedAway_of_refusal (childCheck .existing args.fromDir) (by simp [Proc.typeChecks])
        there rfl (putStatus_zero (putStatus res .nfs3Ok) .nfs3errNoent)
    | true =>
      cases toJudged : judgeFileExit k fs (cstr args.toDir.dir) FileType.dir.bits with
      | false =>
        refine ⟨_, nfs3Rename_other res names there namedTo toJudged, ?_⟩
        exact turnedAway_of_refusal (dirCheck args.toDir.dir) (by simp [Proc.typeChecks]) toJudged
          rfl (putStatus_zero (putStatus res .nfs3Ok) .nfs3errNotdir)
      | true =>
        -- All three pass, and the call is made.
        obtain ⟨rc, served⟩ := nfs3Rename_ready res ⟨names, there, namedTo, toJudged⟩
        refine ⟨_, served, not_turnedAway_of_call (List.cons_ne_nil _ _) ?_⟩
        simpa [Proc.typeChecks, TypeCheck.passes, dirCheck, childCheck, Gate.judgeMode] using
          ⟨judged, there, toJudged⟩

/-- The handles of a request are not empty, and a WRITE has the data it counts. -/
def Proc.Whole : (p : Proc) → p.Args → Prop
  | lookup, args => Diropargs3.dir args ≠ []
  | readlink, args => args ≠ ([] : Bytes)
  | write, args => args.file ≠ [] ∧ args.count.toNat ≤ args.data.length
  | create, args => args.where_.dir ≠ []
  | mkdir, args => args.where_.dir ≠ []
  | symlink, args => args.where_.dir ≠ []
  | mknod, args => args.where_.dir ≠ []
  | remove, args => Diropargs3.dir args ≠ []
  | rmdir, args => Diropargs3.dir args ≠ []
  | rename, args => args.fromDir.dir ≠ [] ∧ args.toDir.dir ≠ []
  | link, args => args.file ≠ [] ∧ args.link.dir ≠ []
  | commit, args => args.file ≠ []
  | _, _ => True

/-- A request is turned away if and only if one of its checks fails. -/
theorem serviceFunc_turnedAway_iff (k : Kernel σ) (env : Env) (server : Server σ) (p : Proc)
    (args : p.Args) (res : Mem) (whole : p.Whole args) :
    ∃ served, p.serviceFunc k env server args res = some served ∧
      (TurnedAway (p.typeChecks args) served.calls served.res ↔
        AnyFails k server.fs (p.typeChecks args)) := by
  cases p with
  | lookup => exact ⟨_, rfl, nfs3Lookup_turnedAway whole⟩
  | readlink => exact ⟨_, rfl, nfs3Readlink_turnedAway whole⟩
  | write => exact ⟨_, rfl, nfs3Write_turnedAway whole.1 whole.2⟩
  | create => exact ⟨_, rfl, nfs3Creation_turnedAway whole (openAndClose_calls k)⟩
  | mkdir | symlink => exact ⟨_, rfl, nfs3Creation_turnedAway whole fun _ _ => List.cons_ne_nil _ _⟩
  | mknod => exact ⟨_, rfl, nfs3Mknod_turnedAway whole⟩
  | remove | rmdir => exact ⟨_, rfl, nfs3Removal_turnedAway whole fun _ _ => List.cons_ne_nil _ _⟩
  | rename =>
    obtain ⟨done, served, iff⟩ := nfs3Rename_turnedAway whole.1 whole.2
    refine ⟨server.done done, ?_, iff⟩
    rw [Proc.serviceFunc, served]
    rfl
  | link => exact ⟨_, rfl, nfs3Link_turnedAway whole.1 whole.2⟩
  | commit => exact ⟨_, rfl, nfs3Commit_turnedAway whole⟩
  | _ => exact ⟨_, rfl, by simp [TurnedAway, AnyFails, Proc.typeChecks]⟩

/-- A FIFO in a directory. -/
def fifoTree : MemFs :=
  ⟨[(MemFs.demoDir, .plain .dir 1), (MemFs.demoDir ++ 0x2f :: MemFs.demoName, .plain .fifo 2)], [],
    [], []⟩

/-- A FIFO can be looked up, but REMOVE is turned away from it and leaves it there. -/
theorem remove_turnedAway_fifo :
    let slot : Diropargs3 := ⟨MemFs.demoDir, MemFs.demoName⟩
    (childCheck .removable slot).passes memKernel fifoTree = false ∧
      Gate.removable.wants .fifo = true ∧
      (nfs3Remove memKernel default fifoTree slot Mem.zero).os = .start fifoTree ∧
      (nfs3Remove memKernel default fifoTree slot Mem.zero).res 0 = Nfsstat3.nfs3errNoent.code := by
  decide

/-- A REMOVE of the FIFO is turned away. -/
theorem serviceFunc_turnedAway_fifo :
    let slot : Diropargs3 := ⟨MemFs.demoDir, MemFs.demoName⟩
    ∃ served, Proc.remove.serviceFunc memKernel default (Server.load fifoTree) slot Mem.zero
      = some served ∧ TurnedAway (Proc.remove.typeChecks slot) served.calls served.res := by
  intro slot
  obtain ⟨served, serves, turned⟩ := serviceFunc_turnedAway_iff memKernel default
    (Server.load fifoTree) .remove slot Mem.zero (show MemFs.demoDir ≠ [] by decide)
  exact ⟨served, serves, turned.mpr ⟨_, List.mem_cons_of_mem _ List.mem_cons_self, by decide⟩⟩

end TurnedAway

end Dnfs
