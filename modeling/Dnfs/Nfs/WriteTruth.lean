import Dnfs.Nfs.WriteLaws

/-! Whether the reply to a WRITE tells what became of the data. -/

namespace Dnfs

variable {σ : Type}

section Truth

/-- The file opened, and was reserved against writing. -/
def ShareRefused (k : Kernel σ) (server : Server σ) (args : Write3args) : Prop :=
  args.Reaches k server.fs ∧
    (openDescriptor (getHandle k server.os server.handleMap (cstr args.file)).1).isSome ∧
    checkShareConflict (server.handleMap.held (cstr args.file)).2 fsalOWrite false
      = .errFsalShareDenied

/--
A reply tells the truth about the data.

If it says success, the bytes it counts are in the file and nothing else changed, and they are on
disk if it says so. If the file was reserved or a call failed, it does not say success.
-/
structure WriteTruthful (k : Kernel σ) (contents : Contents k) (server : Server σ)
    (args : Write3args) (served : Served σ) : Prop where
  wrote : ∀ ok, loadWrite3res served.res = .ok ok → args.count ≠ 0 → ∃ file,
    ⟨.pwritev file args.offset ok.count.toNat, true⟩ ∈ served.calls ∧
      (∀ other, contents.read served.server.fs other =
        if other = file then
          splice (contents.read server.fs other) args.offset.toNat
            (args.data.take ok.count.toNat)
        else contents.read server.fs other) ∧
      (ok.committed = StableHow.fileSync.code → ⟨.fsync file, true⟩ ∈ served.calls)
  reported : ShareRefused k server args ∨ losesIo served.calls = true →
    ∀ ok, loadWrite3res served.res ≠ .ok ok

/-- The data did not get where they were to go, and yet the file can be examined. -/
def WriteUnreported (k : Kernel σ) (server : Server σ) (args : Write3args) : Prop :=
  args.Reaches k server.fs ∧
    (∀ file count, (writeAttempt k server args).1 ≠ .written file count) ∧
    ∃ st, k.lstat (writeAttempt k server args).2.fs (cstr args.file) = .ok st

end Truth

section Written

variable {k : Kernel σ} (contents : Contents k)

/-- Writing through a descriptor places the bytes it wrote, and flushing changes nothing. -/
theorem ioAttempt_contents {os : Os σ} {share : FsalShare} {fd : Fd} {fsalStable : Bool}
    {iov : Bytes} {offset : UInt64} {file count : Nat}
    (written : (ioAttempt k os share fd fsalStable iov offset).1 = .written file count) :
    ∀ other,
      contents.read (ioAttempt k os share fd fsalStable iov offset).2.fs other =
        if other = file then splice (contents.read os.fs other) offset.toNat (iov.take count)
        else contents.read os.fs other := by
  unfold ioAttempt at written ⊢
  by_cases conflict : checkShareConflict share fsalOWrite false = .errFsalShareDenied
  · simp [conflict] at written
  · rcases wrote : k.pwritev fd iov offset os.fs with ⟨errno | placed, fs⟩
    · simp [conflict, Os.pwritev, Os.call, wrote] at written
    · have places := contents.pwritev_ok fd iov offset os.fs placed (by rw [wrote])
      rw [wrote] at places
      -- A flush changes no contents.
      cases fsalStable with
      | false =>
        obtain ⟨rfl, rfl⟩ : fd.file = file ∧ (placed : Nat) = count := by
          simpa [conflict, Os.pwritev, Os.call, wrote] using written
        intro other
        simpa [conflict, Os.pwritev, Os.call, wrote] using places other
      | true =>
        rcases synced : k.fsync fd fs with ⟨errno | _, after⟩
        · simp [conflict, Os.pwritev, Os.fsync, Os.call, wrote, synced] at written
        · obtain ⟨rfl, rfl⟩ : fd.file = file ∧ (placed : Nat) = count := by
            simpa [conflict, Os.pwritev, Os.fsync, Os.call, wrote, synced] using written
          have same : contents.read after = contents.read fs := by
            rw [← contents.fsync fd fs, synced]
          intro other
          simpa [conflict, Os.pwritev, Os.fsync, Os.call, wrote, synced, same] using places other

/-- Getting a handle changes no bytes. -/
theorem getHandle_contents (os : Os σ) (handleMap : HandleMap) (path : Path) :
    contents.read (getHandle k os handleMap path).2.1.fs = contents.read os.fs := by
  have opened := contents.openFile path .creatWronly os.fs
  unfold getHandle pushHandle
  cases entry : handleMap path with
  | some fileHandle =>
    cases handle : fileHandle.handle with
    | some fd => simp [handle]
    | none => simpa [handle] using opened
  | none =>
    simp only [judgeHandleExist, entry, Option.isSome_none, Bool.false_eq_true, if_false]
    rcases outcome : k.openFile path .creatWronly os.fs with ⟨errno | fd, fs⟩
    · rw [outcome] at opened
      simpa [Os.call, outcome] using opened
    · rw [outcome] at opened
      simpa [Os.call, outcome] using opened

/-- A request that wrote placed the first bytes of its data, in the file its calls name. -/
theorem writeAttempt_contents {server : Server σ} {args : Write3args} {file count : Nat}
    (written : (writeAttempt k server args).1 = .written file count) :
    ∀ other, contents.read (writeAttempt k server args).2.fs other =
        if other = file then
          splice (contents.read server.fs other) args.offset.toNat (args.data.take count)
        else contents.read server.fs other := by
  rcases got : getHandle k server.os server.handleMap (cstr args.file)
    with ⟨fileHandle, os, handleMap⟩
  have opened := getHandle_contents contents server.os server.handleMap (cstr args.file)
  rw [got] at opened
  cases descriptor : openDescriptor fileHandle with
  | none => simp [writeAttempt, got, descriptor] at written
  | some fd =>
    have attempt : writeAttempt k server args = ioAttempt k os
        (server.handleMap.held (cstr args.file)).2 fd args.fsalStable args.iov args.offset := by
      simp only [writeAttempt, got, descriptor]
    -- Cutting what was cut before is cutting once.
    have front : args.iov.take count = args.data.take count := by
      rw [Write3args.iov, List.take_take, Nat.min_eq_left (writeAttempt_bound written)]
    rw [attempt] at written ⊢
    intro other
    rw [ioAttempt_contents contents written other, opened, front]
    rfl

end Written

section Reply

variable {server : Server σ} {args : Write3args} {res : Mem} {served : Served σ}

/-- A regular file is judged to be one. -/
theorem judgeFileExit_reg {k : Kernel σ} {fs : σ} {path : Path} {st : Stat}
    (found : k.lstat fs path = .ok st) (regular : st.type = .reg) :
    judgeFileExit k fs path FileType.reg.bits = true := by
  rw [judgeFileExit_iff (by decide)]
  exact ⟨st, found, by rw [regular]; decide⟩

/-- A request for more bytes than it brings is refused. -/
theorem nfs3Write_overlong {k : Kernel σ} {env : Env} (named : args.file ≠ [])
    (judged : judgeFileExit k server.fs (cstr args.file) FileType.reg.bits = true)
    (exceeds : args.data.length < args.count.toNat) :
    (nfs3Write k env server args res).res 0 = Nfsstat3.nfs3errInval.code := by
  have empty : ¬args.file.length = 0 := fun none => named (List.length_eq_zero_iff.mp none)
  unfold nfs3Write
  simp only [empty, if_false, handlePath_eq, judged, not_true, gt_iff_lt, exceeds, if_true]
  rfl

/-- A reply says success exactly if its status does. -/
theorem loadWrite3res_ok_iff (m : Mem) : (∃ ok, loadWrite3res m = .ok ok) ↔ m 0 = 0 := by
  constructor
  · rintro ⟨ok, replied⟩
    exact (loadStatus_eq_ok.mp replied).1
  · intro zero
    exact ⟨_, loadStatus_eq_ok.mpr ⟨zero, rfl⟩⟩

/-- A refused reservation is the outcome of the request that asked for it. -/
theorem ShareRefused.outcome {k : Kernel σ} (refused : ShareRefused k server args) :
    (writeAttempt k server args).1 = .denied := by
  obtain ⟨_, opened, conflict⟩ := refused
  rcases got : getHandle k server.os server.handleMap (cstr args.file)
    with ⟨fileHandle, os, handleMap⟩
  rw [got] at opened
  obtain ⟨fd, descriptor⟩ := Option.isSome_iff_exists.mp opened
  change openDescriptor fileHandle = some fd at descriptor
  simp [writeAttempt, got, descriptor, ioAttempt, conflict]

/-- A request that wrote has a truthful reply. -/
theorem written_truthful {k : Kernel σ} {contents : Contents k} {file count : Nat}
    (outcome : WriteServed k server args res served)
    (written : (writeAttempt k server args).1 = .written file count) :
    WriteTruthful k contents server args served := by
  obtain ⟨opens, calls⟩ := outcome.written_calls written
  -- Closing the handle changes no bytes.
  have final : contents.read served.server.fs
      = contents.read (writeAttempt k server args).2.fs := by
    rcases outcome.fs with same | ⟨fd, closed⟩
    · rw [same]
    · rw [closed, contents.close]
  constructor
  · intro ok replied _
    obtain ⟨counted, committed⟩ := outcome.written_reply written replied
    refine ⟨file, ?_, fun other => ?_, fun synced => ?_⟩
    · simp [calls, counted]
    · rw [final, writeAttempt_contents contents written other, counted]
    · cases stable : args.fsalStable with
      | true => simp [calls, stable]
      | false =>
        rw [committed, stable] at synced
        exact absurd synced (by decide)
  · rintro (refused | failed)
    · rw [refused.outcome] at written
      cases written
    · rw [outcome.losesIo, written] at failed
      cases failed

/-- A reply that does not say success tells no lie. -/
theorem failed_truthful {k : Kernel σ} {contents : Contents k} (status : served.res 0 ≠ 0) :
    WriteTruthful k contents server args served := by
  have never : ∀ ok, loadWrite3res served.res ≠ .ok ok := fun ok replied =>
    status ((loadWrite3res_ok_iff _).mp ⟨ok, replied⟩)
  exact ⟨fun ok replied => absurd replied (never ok), fun _ => never⟩

/-- A request whose data did not get where they were to go has a reply that lies. -/
theorem unreported_not_truthful {k : Kernel σ} {contents : Contents k}
    (outcome : WriteServed k server args res served) (unreported : WriteUnreported k server args) :
    ¬WriteTruthful k contents server args served := by
  intro truthful
  obtain ⟨reaches, unwritten, examined⟩ := unreported
  have status : served.res 0 = 0 := by
    rw [outcome.res]
    exact (WriteOutcome.reply_status _ _ _ _ _ _ _).mpr examined
  obtain ⟨ok, replied⟩ := (loadWrite3res_ok_iff _).mpr status
  -- A call that failed is not reported.
  have kept : (writeAttempt k server args).1.leaks = false := by
    rw [← outcome.losesIo]
    by_contra failed
    exact truthful.reported (.inr (by simpa using failed)) ok replied
  -- In what is left no call to write succeeded, which the reply claims.
  obtain ⟨file, wrote, _⟩ := truthful.wrote ok replied reaches.asks
  obtain ⟨_, opens, openOnly, calls⟩ := writeAttempt_calls k server args
  rw [outcome.calls, calls, List.mem_append] at wrote
  rcases wrote with mine | opening
  · cases what : (writeAttempt k server args).1 with
    | written file count => exact unwritten file count what
    | unopened | denied => simp [what, WriteOutcome.ioCalls] at mine
    | unwritten | unsynced file count => simp [what, WriteOutcome.leaks] at kept
  · exact absurd (openOnly _ opening) (by simp)

/--
The reply to a WRITE to a regular file tells the truth exactly if the data got where they were to
go, or the file can no longer be examined.

Whatever fails, the status of the reply is that of examining the file at the end.
-/
theorem write_truthful_iff {k : Kernel σ} (contents : Contents k) (env : Env) (server : Server σ)
    (args : Write3args) (res : Mem) {st : Stat} (named : args.file ≠ [])
    (found : k.lstat server.fs (cstr args.file) = .ok st) (regular : st.type = .reg) :
    WriteTruthful k contents server args (nfs3Write k env server args res) ↔
      ¬WriteUnreported k server args := by
  have judged := judgeFileExit_reg found regular
  by_cases reaches : args.Reaches k server.fs
  · have outcome := nfs3Write_served env res reaches
    constructor
    · intro truthful unreported
      exact unreported_not_truthful outcome unreported truthful
    · intro reported
      by_cases wrote : ∃ file count, (writeAttempt k server args).1 = .written file count
      · obtain ⟨file, count, wrote⟩ := wrote
        exact written_truthful outcome wrote
      · -- Then the file could not be examined, and the reply says so.
        refine failed_truthful fun status => reported ⟨reaches, ?_, ?_⟩
        · exact fun file count written => wrote ⟨file, count, written⟩
        · rw [outcome.res] at status
          exact (WriteOutcome.reply_status _ _ _ _ _ _ _).mp status
  · refine iff_of_true ?_ fun unreported => reaches unreported.1
    by_cases exceeds : args.data.length < args.count.toNat
    · refine failed_truthful ?_
      rw [nfs3Write_overlong named judged exceeds]
      decide
    · -- What is left asks for nothing to be written, and makes no call.
      have none : args.count = 0 := by
        by_contra asks
        exact reaches ⟨named, judged, Nat.not_lt.mp exceeds, asks⟩
      refine ⟨fun ok _ asks => absurd none asks, ?_⟩
      rintro (refused | failed)
      · exact absurd refused.1 reaches
      · rw [(nfs3Write_stopped reaches).2] at failed
        cases failed

/-- A server on a file system that cannot be flushed. -/
def unflushable : Server MemFs := Server.load (MemFs.demo [.fsync])

/-- Flushing fails, and the reply says success. -/
theorem write_unflushed_untruthful :
    let served := nfs3Write memKernel default unflushable (demoWrite .fileSync) Mem.zero
    losesIo served.calls = true ∧ (∃ ok, loadWrite3res served.res = .ok ok) ∧
      ¬WriteTruthful memKernel memContents unflushable (demoWrite .fileSync) served := by
  intro served
  have failed : losesIo served.calls = true := by decide
  have replied : ∃ ok, loadWrite3res served.res = .ok ok :=
    (loadWrite3res_ok_iff _).mpr (by decide)
  refine ⟨failed, replied, fun truthful => ?_⟩
  obtain ⟨ok, replied⟩ := replied
  exact truthful.reported (.inr failed) ok replied

/-- Where nothing fails, the byte is written and the reply tells so. -/
theorem write_truthful_demo :
    WriteTruthful memKernel memContents (Server.load (MemFs.demo [])) (demoWrite .fileSync)
      (nfs3Write memKernel default (Server.load (MemFs.demo [])) (demoWrite .fileSync)
        Mem.zero) := by
  refine (write_truthful_iff memContents default (Server.load (MemFs.demo []))
    (demoWrite .fileSync) Mem.zero (by decide)
    (show memKernel.lstat _ _ = .ok (.plain .reg 7) from rfl) rfl).mpr ?_
  rintro ⟨_, unwritten, _⟩
  exact unwritten 7 1 (by decide)

end Reply

end Dnfs
