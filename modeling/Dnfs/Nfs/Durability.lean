import Dnfs.Nfs.WriteLaws
import Dnfs.Run.Trace

/-! Whether data that WRITE acknowledged are on disk once COMMIT says so. -/

namespace Dnfs

variable {σ : Type}

section Runs

/-- A request to write data or to commit them. -/
inductive IoRequest where
  | write (args : Write3args)
  | commit (args : Commit3args)
  deriving DecidableEq, Repr

/-- The path a request works on. -/
def IoRequest.path : IoRequest → Path
  | write args => cstr args.file
  | commit args => cstr args.file

/-- Serve a request to write data or to commit them. -/
def ioServe (k : Kernel σ) (env : Env) (server : Server σ) (request : IoRequest) (res : Mem) :
    Served σ :=
  match request with
  | .write args => nfs3Write k env server args res
  | .commit args => nfs3Commit k env server args res

/-- A request that was served, the server that it found, and what serving it left behind. -/
structure IoEvent (σ : Type) where
  before : Server σ
  request : IoRequest
  served : Served σ

/-- Serving one request after another, each from whatever memory its result is given. -/
def IoStep (k : Kernel σ) (server : Server σ) (event : IoEvent σ) (after : Server σ) : Prop :=
  ∃ env request res,
    event = ⟨server, request, ioServe k env server request res⟩ ∧ after = event.served.server

end Runs

section Durable

/-- A WRITE that was acknowledged as done but not yet on disk. -/
def IoEvent.Unstable (event : IoEvent σ) (args : Write3args) (ok : Write3resok) : Prop :=
  event.request = .write args ∧ loadWrite3res event.served.res = .ok ok ∧
    ok.committed = StableHow.unstable.code ∧ 0 < ok.count.toNat

/--
The bytes a WRITE acknowledged were written to a file that was flushed afterwards.

Both lists of calls are newest first, so what comes after the write stands before it.
-/
def Flushed (newer : List (IoEvent σ)) (event : IoEvent σ) (args : Write3args)
    (ok : Write3resok) : Prop :=
  ∃ file after before,
    event.served.calls = after ++ ⟨.pwritev file args.offset ok.count.toNat, true⟩ :: before ∧
      ⟨.fsync file, true⟩ ∈ newer.flatMap (·.served.calls) ++ after

/-- Everything of the committed path that was acknowledged before is on disk. -/
def Durable (commit : IoEvent σ) (older : List (IoEvent σ)) : Prop :=
  ∀ newer event rest args ok, older = newer ++ event :: rest →
    event.request.path = commit.request.path → event.Unstable args ok →
      Flushed (commit :: newer) event args ok

/-- A WRITE that gets its data into a file. -/
def IoEvent.Writes (k : Kernel σ) (event : IoEvent σ) (args : Write3args) (file count : Nat) :
    Prop :=
  event.request = .write args ∧ args.Reaches k event.before.fs ∧
    (writeAttempt k event.before args).1 = .written file count

/--
Every earlier WRITE on the committed path got its data into a file, and each that was not to be
stable was followed by one that was, on the same file.
-/
def FlushedLater (k : Kernel σ) (commit : IoEvent σ) (older : List (IoEvent σ)) : Prop :=
  ∀ newer event rest args, older = newer ++ event :: rest → event.request = .write args →
    cstr args.file = commit.request.path → ∃ file count, event.Writes k args file count ∧
      (args.fsalStable = false → ∃ later ∈ newer, ∃ stable other,
        later.Writes k stable file other ∧ stable.fsalStable = true)

end Durable

section Invariant

variable {server : Server σ} {k : Kernel σ} {past : List (IoEvent σ)}

/-- No handle is open. -/
def HandleMap.Closed (handleMap : HandleMap) : Prop :=
  ∀ path fileHandle, handleMap path = some fileHandle → fileHandle.handle = none

/-- COMMIT finds the handle closed, and leaves the server as it is. -/
theorem nfs3Commit_closed (k : Kernel σ) (env : Env) (args : Commit3args) (res : Mem)
    (closed : server.handleMap.Closed) : (nfs3Commit k env server args res).server = server := by
  unfold nfs3Commit
  by_cases empty : args.file.length = 0
  · simp only [empty, if_true]
    rfl
  · simp only [empty, if_false]
    split
    · rfl
    · -- Whether the handle is missing or closed, the same exit is taken.
      unfold justGetHandle
      cases entry : server.handleMap (handlePath env.around args.file) with
      | none => rfl
      | some fileHandle =>
        simp only [closed _ _ entry]
        rfl

/-- A WRITE closes the handle it opened. -/
theorem nfs3Write_closed {env : Env} {args : Write3args} {res : Mem}
    (closed : server.handleMap.Closed) :
    (nfs3Write k env server args res).server.handleMap.Closed := by
  by_cases reaches : args.Reaches k server.fs
  · have served := nfs3Write_served env res reaches
    intro path fileHandle entry
    by_cases same : path = cstr args.file
    · rw [same] at entry
      exact served.closed fileHandle entry
    · rw [served.others path same] at entry
      exact closed path fileHandle entry
  · rw [(nfs3Write_stopped reaches).1]
    exact closed

/-- Between requests no handle is open, and every request was served from the server it found. -/
structure IoInv (k : Kernel σ) (past : List (IoEvent σ)) (server : Server σ) : Prop where
  closed : server.handleMap.Closed
  served : ∀ event ∈ past, ∃ env res,
    event.served = ioServe k env event.before event.request res

/-- Serving one more request keeps the handles closed. -/
theorem IoInv.step {after : Server σ} {event : IoEvent σ} (inv : IoInv k past server)
    (taken : IoStep k server event after) : IoInv k (event :: past) after := by
  obtain ⟨env, request, res, rfl, rfl⟩ := taken
  constructor
  · cases request with
    | write args => exact nfs3Write_closed inv.closed
    | commit args =>
      change (nfs3Commit k env server args res).server.handleMap.Closed
      rw [nfs3Commit_closed k env args res inv.closed]
      exact inv.closed
  · intro event member
    rcases List.mem_cons.mp member with rfl | older
    · exact ⟨env, res, rfl⟩
    · exact inv.served event older

/-- In every run from a start without handles the invariant holds. -/
theorem ioInv_of_run {start : Server σ} (fresh : start.handleMap = .empty)
    (run : Run (IoStep k) start past server) : IoInv k past server := by
  refine run.invariant (IoInv k) ⟨?_, by simp⟩ fun past s event t inv taken =>
    inv.step taken
  intro path fileHandle entry
  rw [fresh] at entry
  cases entry

/-- In a run, what a WRITE that got its data into a file left behind follows from its outcome. -/
theorem IoInv.writeServed {event : IoEvent σ} {args : Write3args} {file count : Nat}
    (inv : IoInv k past server) (member : event ∈ past) (writes : event.Writes k args file count) :
    ∃ res, WriteServed k event.before args res event.served := by
  obtain ⟨isWrite, reaches, _⟩ := writes
  obtain ⟨env, res, served⟩ := inv.served event member
  rw [isWrite] at served
  exact ⟨res, served ▸ nfs3Write_served env res reaches⟩

end Invariant

section Commit

/--
What COMMIT says is on disk is on disk if later WRITE requests put it there.

COMMIT never flushes, so this takes a WRITE that is to be stable, after every one that is not and
on the same file.
-/
theorem commit_durable {k : Kernel σ} {epoch : UInt64} {fs : σ} {commit : IoEvent σ}
    {older : List (IoEvent σ)} {server : Server σ} {args : Commit3args} {ok : Commit3resok}
    (run : Run (IoStep k) (dnfsInitSvc epoch (Server.load fs)) (commit :: older) server)
    (_isCommit : commit.request = .commit args)
    (_said : loadCommit3res commit.served.res = .ok ok)
    (flushed : FlushedLater k commit older) : Durable commit older := by
  have inv := ioInv_of_run rfl run
  intro newer event rest args ok split samePath unstable
  obtain ⟨isWrite, replied, saidUnstable, _⟩ := unstable
  have path : cstr args.file = commit.request.path := by
    rw [← samePath, isWrite]
    rfl
  have member : event ∈ commit :: older := by simp [split]
  obtain ⟨file, count, writes, later⟩ := flushed newer event rest args split isWrite path
  obtain ⟨res, served⟩ := inv.writeServed member writes
  obtain ⟨opens, calls⟩ := served.written_calls writes.2.2
  obtain ⟨counted, committed⟩ := served.written_reply writes.2.2 replied
  -- Only a WRITE that was not to be stable is acknowledged as unstable.
  have isUnstable : args.fsalStable = false := by
    cases stable : args.fsalStable with
    | false => rfl
    | true =>
      rw [saidUnstable, stable] at committed
      exact absurd committed (by decide)
  obtain ⟨flusher, among, stable, other, stableWrites, isStable⟩ := later isUnstable
  have inRun : flusher ∈ commit :: older := by simp [split, among]
  obtain ⟨_, flusherServed⟩ := inv.writeServed inRun stableWrites
  obtain ⟨_, flusherCalls⟩ := flusherServed.written_calls stableWrites.2.2
  refine ⟨file, [], opens, ?_, ?_⟩
  · simpa [isUnstable, counted] using calls
  · rw [List.append_nil]
    refine List.mem_flatMap.mpr ⟨flusher, List.mem_cons_of_mem _ among, ?_⟩
    simp [flusherCalls, isStable]

/-- Serve a request and note down that it was served. -/
def demoEvent (server : Server MemFs) (request : IoRequest) : IoEvent MemFs :=
  ⟨server, request, ioServe memKernel default server request Mem.zero⟩

/-- The state after requests that are served one after another, newest first. -/
def demoRun : List IoRequest → List (IoEvent MemFs) × Server MemFs
  | [] => ([], demoServer 1)
  | request :: past =>
    let event := demoEvent (demoRun past).2 request
    (event :: (demoRun past).1, event.served.server)

/-- Serving the requests in order is a run. -/
theorem demoRun_run (requests : List IoRequest) :
    Run (IoStep memKernel) (demoServer 1) (demoRun requests).1 (demoRun requests).2 := by
  induction requests with
  | nil => exact .nil
  | cons request past ih => exact .cons ih ⟨default, request, Mem.zero, rfl, rfl⟩

/-- One byte is written, acknowledged as unstable and committed, and never flushed. -/
theorem commit_leaves_unflushed :
    ∃ (commit write : IoEvent MemFs) (server : Server MemFs) (args : Commit3args),
      Run (IoStep memKernel) (demoServer 1) [commit, write] server ∧
        commit.request = .commit args ∧ (∃ ok, loadCommit3res commit.served.res = .ok ok) ∧
        ¬Durable commit [write] := by
  let requests : List IoRequest := [.commit ⟨MemFs.demoPath, 0, 1⟩, .write (demoWrite .unstable)]
  refine ⟨_, _, _, _, demoRun_run requests, rfl, ⟨_, loadStatus_eq_ok.mpr ⟨by decide, rfl⟩⟩, ?_⟩
  intro durable
  obtain ⟨file, after, before, calls, flushed⟩ := durable [] _ [] (demoWrite .unstable) _ rfl rfl
    ⟨rfl, loadStatus_eq_ok.mpr ⟨by decide, rfl⟩, by decide, by decide⟩
  -- The WRITE opened the file and wrote, and the COMMIT made no call at all.
  have wrote : (demoEvent (demoServer 1) (.write (demoWrite .unstable))).served.calls
      = [⟨.pwritev 7 0 1, true⟩, ⟨.openFile, true⟩] := rfl
  have within : ⟨.fsync file, true⟩ ∈ after := flushed
  have member : ⟨.fsync file, true⟩ ∈ after ++ ⟨.pwritev file 0 1, true⟩ :: before :=
    List.mem_append_left _ within
  rw [← show _ = after ++ ⟨.pwritev file 0 1, true⟩ :: before from calls] at member
  change _ ∈ (demoEvent (demoServer 1) (.write (demoWrite .unstable))).served.calls at member
  rw [wrote] at member
  simp at member

/-- A later WRITE that is to be stable flushes what COMMIT does not. -/
theorem commit_durable_afterStableWrite :
    ∃ (commit stable unstable : IoEvent MemFs) (server : Server MemFs),
      Run (IoStep memKernel) (demoServer 1) [commit, stable, unstable] server ∧
        Durable commit [stable, unstable] := by
  let requests : List IoRequest :=
    [.commit ⟨MemFs.demoPath, 0, 1⟩, .write (demoWrite .fileSync), .write (demoWrite .unstable)]
  refine ⟨_, _, _, _, demoRun_run requests, commit_durable (demoRun_run requests) rfl
    (loadStatus_eq_ok.mpr ⟨by decide, rfl⟩) ?_⟩
  intro newer event rest args split isWrite _
  rcases newer with _ | ⟨first, newer⟩
  · -- The stable WRITE needs nobody after it.
    obtain rfl : _ = event := (List.cons.inj split).1
    obtain rfl : demoWrite .fileSync = args := IoRequest.write.inj isWrite
    exact ⟨7, 1, ⟨rfl, by decide, by decide⟩, fun unstable => absurd unstable (by decide)⟩
  · rcases newer with _ | ⟨second, newer⟩
    · obtain ⟨rfl, later⟩ := List.cons.inj split
      obtain rfl : _ = event := (List.cons.inj later).1
      obtain rfl : demoWrite .unstable = args := IoRequest.write.inj isWrite
      exact ⟨7, 1, ⟨rfl, by decide, by decide⟩, fun _ =>
        ⟨_, List.mem_cons_self, demoWrite .fileSync, 1, ⟨rfl, by decide, by decide⟩, by decide⟩⟩
    · -- No more than two requests came before.
      have counted : 2 = (first :: second :: newer ++ event :: rest).length :=
        congrArg List.length split
      simp at counted

end Commit

end Dnfs
