import Dnfs.Nfs.Changes
import Dnfs.Os.MemFs

/-! Whether the reply to a change says that it failed, and whether a change that failed is none. -/

namespace Dnfs

variable {σ : Type}

section Reported

/-- If a call failed, the reply is an error. -/
def Served.Honest (served : Served σ) : Prop := anyFailed served.calls = true → served.res 0 ≠ 0

/--
The call of a SETATTR, MKNOD or RENAME fails, and what is examined last can be examined.

These three let that examination overwrite their error.
-/
def FailureHidden (k : Kernel σ) (stale : Timespec × Timespec) (fs : σ) (change : Change) : Prop :=
  change.overwrites = true ∧ ∃ after, change.attempt k stale fs = .failed after ∧
    ∃ st, k.lstat after change.watched = .ok st

/-- Whether an object can be examined, as the reply tells it. -/
theorem succeeded_lstat {k : Kernel σ} {fs : σ} {path : Path} :
    succeeded (k.lstat fs path) = true ↔ ∃ st, k.lstat fs path = .ok st := by
  cases k.lstat fs path with
  | error errno | ok st => simp [succeeded]

/-- The reply to a change is honest unless its failure is hidden. -/
theorem change_honest_iff {k : Kernel σ} {env : Env} {server : Server σ} {change : Change}
    {res : Mem} {served : Served σ} (named : ∀ handle ∈ change.handles, handle ≠ [])
    (serves : change.serve k env server res = some served) :
    served.Honest ↔ ¬FailureHidden k env.staleTimes server.fs change := by
  obtain ⟨done, same, follows⟩ : ∃ done, change.serve k env server res = _ ∧ _ :=
    change.served res named
  obtain rfl : served = server.done done := Option.some.inj (serves.symm.trans same)
  show (anyFailed done.os.calls = true → done.res 0 ≠ 0) ↔ _
  rw [follows.failed, ne_eq, follows.status]
  unfold FailureHidden
  -- Only a call that makes the change can fail and be overwritten.
  cases change.attempt k env.staleTimes server.fs with
  | stopped => simp [ChangeOutcome.callFailed]
  | failed after => simp [ChangeOutcome.callFailed, ChangeOutcome.saysOk, succeeded_lstat]
  | unfinished callFailed after => simp [ChangeOutcome.saysOk]
  | made after => simp [ChangeOutcome.callFailed]

/-- A request to rename the file in the directory. -/
def demoRename : Change :=
  .rename ⟨⟨MemFs.demoDir, MemFs.demoName⟩, ⟨MemFs.demoDir, [0x67]⟩⟩

/-- A request to make a directory in the directory. -/
def demoMkdir : Change := .mkdir ⟨⟨MemFs.demoDir, [0x67]⟩, default⟩

/-- Serve a change on a small file system where some calls fail. -/
def demoChange (faults : List Fault) (change : Change) : Option (Served MemFs) :=
  change.serve memKernel default (Server.load (MemFs.demoTree faults)) Mem.zero

/-- A RENAME that failed is reported as done. -/
theorem rename_failure_hidden : ∃ served, demoChange [.rename] demoRename = some served ∧
    served.calls = [⟨.rename, false⟩] ∧ served.res 0 = 0 :=
  ⟨_, rfl, by decide, by decide⟩

/-- A MKDIR that failed is not. -/
theorem change_honest_mkdir : ∃ served, demoChange [.mkdir] demoMkdir = some served ∧
    anyFailed served.calls = true ∧ served.Honest := by
  have serves : demoChange [.mkdir] demoMkdir = some _ := rfl
  refine ⟨_, serves, by decide, (change_honest_iff ?_ serves).mpr fun hidden => ?_⟩
  · intro handle member
    obtain rfl : handle = MemFs.demoDir := List.mem_singleton.mp member
    decide
  · exact Bool.false_ne_true hidden.1

end Reported

section Atomic

/-- If the reply is an error, the tree of names is what it was. -/
def Served.Atomic {k : Kernel σ} (tree : Tree k) (server : Server σ) (served : Served σ) : Prop :=
  served.res 0 ≠ 0 → tree.view served.server.fs = tree.view server.fs

/--
The change was made and altered the tree, and something failed afterwards.

For MKNOD this can be setting attributes, and for all of them examining the directory, which the
change itself may have moved or which may have become unreadable.
-/
def LateFailure {k : Kernel σ} (tree : Tree k) (stale : Timespec × Timespec) (fs : σ)
    (change : Change) : Prop :=
  ∃ after, tree.view after ≠ tree.view fs ∧
    ((∃ callFailed, change.attempt k stale fs = .unfinished callFailed after) ∨
      (change.attempt k stale fs = .made after ∧
        ∃ errno, k.lstat after change.watched = .error errno))

variable {k : Kernel σ} (tree : Tree k) {fs : σ}

/-- Opening and closing a file leaves the tree alone if the file could not be opened. -/
theorem createCall_failed {path : Path} (failed : succeeded (createCall k path fs).1 = false) :
    tree.view (createCall k path fs).2 = tree.view fs := by
  have opens := tree.openFile path .creat fs
  unfold createCall at failed ⊢
  rcases opened : k.openFile path .creat fs with ⟨errno | fd, after⟩
  · rw [opened] at opens
    exact opens rfl
  · rw [opened] at failed
    cases failed

/-- If the call of a change failed, it left the tree alone. -/
def ChangeOutcome.FailsSafe (fs : σ) : ChangeOutcome σ → Prop
  | failed after => tree.view after = tree.view fs
  | _ => True

/-- A call fails safe if its failure keeps the tree. -/
theorem failsSafe_outcomeOf {result : Except Errno Unit × σ}
    (keeps : succeeded result.1 = false → tree.view result.2 = tree.view fs) :
    (outcomeOf result).FailsSafe tree fs := by
  rcases result with ⟨errno | _, after⟩
  · exact keeps rfl
  · trivial

/-- Looking at the directory first changes nothing about that. -/
theorem failsSafe_within {where_ : Diropargs3} {attempt : Path → ChangeOutcome σ}
    (safe : ∀ path, (attempt path).FailsSafe tree fs) :
    (attemptWithin k fs where_ attempt).FailsSafe tree fs := by
  unfold attemptWithin
  split
  · exact safe _
  · trivial

/-- Nor does stopping before the call. -/
theorem failsSafe_ite {judged : Prop} [Decidable judged] {outcome : ChangeOutcome σ}
    (safe : outcome.FailsSafe tree fs) :
    (if judged then outcome else .stopped).FailsSafe tree fs := by
  split
  · exact safe
  · trivial

/-- A MKNOD whose call fails leaves the tree alone. -/
theorem attemptMknod_failsSafe {args : Mknod3args} {stale : Timespec × Timespec} :
    (attemptMknod k stale fs args).FailsSafe tree fs := by
  refine failsSafe_within tree fun path => ?_
  split
  · trivial
  · rcases args.what.node with _ | ⟨mode, dev, newAttr⟩
    · trivial
    · have keeps := tree.mknod path mode dev fs
      dsimp only
      rcases called : k.mknod path mode dev fs with ⟨errno | _, after⟩ <;> rw [called] at keeps
      · exact keeps rfl
      · -- Past the call nothing counts as its failure.
        dsimp only [attemptSetNode]
        split <;> trivial

/-- Every change but SETATTR leaves the tree alone when its call fails. -/
theorem Change.attempt_failsSafe {change : Change} {stale : Timespec × Timespec}
    (names : change.proc ≠ .setattr) : (change.attempt k stale fs).FailsSafe tree fs := by
  -- A call that fails leaves the tree, and whatever comes before it only looks.
  cases change with
  | setattr args => exact absurd rfl names
  | create args =>
    exact failsSafe_within tree fun path => failsSafe_outcomeOf tree (createCall_failed tree)
  | mkdir args =>
    exact failsSafe_within tree fun path => failsSafe_outcomeOf tree (tree.mkdir _ _ _)
  | symlink args =>
    exact failsSafe_within tree fun path => failsSafe_outcomeOf tree (tree.symlink _ _ _)
  | mknod args => exact attemptMknod_failsSafe tree
  | remove args =>
    exact failsSafe_within tree fun path =>
      failsSafe_ite tree (failsSafe_outcomeOf tree (tree.remove _ _))
  | rmdir args =>
    exact failsSafe_within tree fun path =>
      failsSafe_ite tree (failsSafe_outcomeOf tree (tree.rmdir _ _))
  | rename args =>
    exact failsSafe_within tree fun src => failsSafe_ite tree <|
      failsSafe_within tree fun dst => failsSafe_outcomeOf tree (tree.rename _ _ _)
  | link args =>
    show (attemptLink k fs args).FailsSafe tree fs
    unfold attemptLink
    split
    · trivial
    · exact failsSafe_within tree fun path => failsSafe_outcomeOf tree (tree.link _ _ _)

/-- What a change that was made, or not, says about its tree. -/
theorem ChangeOutcome.atomic_iff {change : Change} {outcome : ChangeOutcome σ}
    (safe : outcome.FailsSafe tree fs) :
    (outcome.saysOk k change ≠ true → tree.view (outcome.after fs) = tree.view fs) ↔
      ¬∃ after, tree.view after ≠ tree.view fs ∧
        ((∃ callFailed, outcome = .unfinished callFailed after) ∨
          (outcome = .made after ∧ ∃ errno, k.lstat after change.watched = .error errno)) := by
  cases outcome with
  | stopped => simp [ChangeOutcome.after]
  | failed after =>
    have same : tree.view after = tree.view fs := safe
    simp [ChangeOutcome.after, same]
  | unfinished callFailed after => simp [ChangeOutcome.after, ChangeOutcome.saysOk]
  | made after =>
    cases found : k.lstat after change.watched with
    | ok st => simp [ChangeOutcome.saysOk, found, succeeded]
    | error errno => simp [ChangeOutcome.after, ChangeOutcome.saysOk, found, succeeded]

/-- A change within directories that have handles is served whole, but for a LINK to no file. -/
theorem Change.handles_named {change : Change} (named : ∀ dir ∈ change.dirs, dir ≠ []) :
    (∀ handle ∈ change.handles, handle ≠ []) ∨ ∃ args, change = .link args ∧ args.file = [] := by
  cases change with
  | link args =>
    by_cases file : args.file = []
    · exact .inr ⟨args, rfl, file⟩
    · refine .inl fun handle member => ?_
      rcases List.mem_cons.mp member with rfl | dir
      · exact file
      · exact named handle dir
  | _ => exact .inl named

/-- A change that is reported as failed left the tree alone unless it failed late. -/
theorem change_atomic_iff {env : Env} {server : Server σ} {change : Change} {res : Mem}
    {served : Served σ} (names : change.proc ≠ .setattr) (named : ∀ dir ∈ change.dirs, dir ≠ [])
    (serves : change.serve k env server res = some served) :
    served.Atomic tree server ↔ ¬LateFailure tree env.staleTimes server.fs change := by
  have safe : (change.attempt k env.staleTimes server.fs).FailsSafe tree server.fs :=
    change.attempt_failsSafe tree names
  rcases change.handles_named named with allNamed | ⟨args, rfl, unnamed⟩
  · obtain ⟨done, same, follows⟩ : ∃ done, change.serve k env server res = _ ∧ _ :=
      change.served res allNamed
    obtain rfl : served = server.done done := Option.some.inj (serves.symm.trans same)
    show (done.res 0 ≠ 0 → tree.view done.os.fs = tree.view server.fs) ↔ _
    rw [follows.fs, ne_eq, follows.status]
    exact ChangeOutcome.atomic_iff tree safe
  · -- Such a LINK is refused, whatever its result says.
    obtain rfl : served = server.done (nfs3Link k env server.fs args res) :=
      (Option.some.inj serves).symm
    have stopped : (Change.link args).attempt k env.staleTimes server.fs = .stopped :=
      if_pos unnamed
    rw [nfs3Link_unnamed res unnamed]
    refine ⟨fun _ late => ?_, fun _ _ => rfl⟩
    obtain ⟨after, _, ⟨_, unfinished⟩ | ⟨made, _⟩⟩ := late
    · rw [stopped] at unfinished
      cases unfinished
    · rw [stopped] at made
      cases made

/-- A request to make a pipe in the directory, with permissions to be set. -/
def demoMknod : Change :=
  .mknod ⟨⟨MemFs.demoDir, [0x67]⟩, .fifo { (default : Sattr3) with mode := .present 0o600 }⟩

/-- A MKNOD that cannot set permissions is reported as failed, and leaves a new name behind. -/
theorem mknod_leaves_node : ∃ served, demoChange [.chmod] demoMknod = some served ∧
    served.res 0 = Nfsstat3.nfs3errInval.code ∧
    memTree.view served.server.fs ≠ memTree.view (MemFs.demoTree [.chmod]) := by
  refine ⟨_, rfl, by decide, ?_⟩
  -- There is one object more than before.
  intro same
  have count : (3 : Nat) = 2 := congrArg List.length same
  omega

/-- A MKDIR that fails leaves nothing behind. -/
theorem change_atomic_mkdir : ∃ served, demoChange [.mkdir] demoMkdir = some served ∧
    served.res 0 ≠ 0 ∧
    served.Atomic memTree (Server.load (MemFs.demoTree [.mkdir])) := by
  have serves : demoChange [.mkdir] demoMkdir = some _ := rfl
  have failed : demoMkdir.attempt memKernel (default : Env).staleTimes
      (Server.load (MemFs.demoTree [.mkdir])).fs = .failed (MemFs.demoTree [.mkdir]) := rfl
  refine ⟨_, serves, by decide, (change_atomic_iff memTree (by decide) ?_ serves).mpr ?_⟩
  · intro handle member
    obtain rfl : handle = MemFs.demoDir := List.mem_singleton.mp member
    decide
  · rintro ⟨after, _, ⟨_, unfinished⟩ | ⟨made, _⟩⟩
    · cases failed.symm.trans unfinished
    · cases failed.symm.trans made

end Atomic

end Dnfs
