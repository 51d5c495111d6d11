import Dnfs.Nfs.Write
import Dnfs.Os.MemFs

/-! What becomes of the data of a WRITE, and how reply and handle follow from it. -/

namespace Dnfs

variable {σ : Type}

/-- What became of the data of a request. -/
inductive WriteOutcome where
  /-- The file could not be opened. -/
  | unopened
  /-- The file was reserved against writing. -/
  | denied
  /-- Writing failed. -/
  | unwritten
  /-- Bytes were written to a file, and flushing them failed. -/
  | unsynced (file count : Nat)
  /-- Bytes were written to a file, and flushed if they were to be. -/
  | written (file count : Nat)
  deriving DecidableEq, Repr

namespace WriteOutcome

/-- The outcomes after which the file keeps the reservation and the count of the request. -/
def leaks : WriteOutcome → Bool
  | unwritten => true
  | unsynced _ _ => true
  | _ => false

end WriteOutcome

section Undoing

/-- A flag that writing does not set is counted neither up nor down. -/
private theorem flagInc_apart {flag : FsalOpenflags} (apart : fsalOWrite.has flag = false) :
    flagInc fsalOClosed fsalOWrite flag = 0 ∧ flagInc fsalOWrite fsalOClosed flag = 0 := by
  simp [flagInc, flagCount, apart]

/-- Writing sets none of the other four flags that are counted. -/
private theorem write_apart :
    fsalOWrite.has fsalORead = false ∧ fsalOWrite.has fsalODenyRead = false ∧
      fsalOWrite.has fsalODenyWrite = false ∧ fsalOWrite.has fsalODenyWriteMand = false := by
  decide

private theorem ofInt_zero : UInt32.ofInt 0 = 0 := rfl

/-- Reserving for writing moves one counter, up by one. -/
theorem updateShareCounters_write (share : FsalShare) :
    updateShareCounters share fsalOClosed fsalOWrite
      = { share with shareAccessWrite := share.shareAccessWrite + 1 } := by
  obtain ⟨read, denyRead, denyWrite, denyWriteMand⟩ := write_apart
  have up : flagInc fsalOClosed fsalOWrite fsalOWrite = 1 := by decide
  simp [updateShareCounters, up, flagInc_apart read, flagInc_apart denyRead,
    flagInc_apart denyWrite, flagInc_apart denyWriteMand, ofInt_zero]

/-- Giving a reservation for writing back moves the same counter, down by one. -/
theorem updateShareCounters_closed (share : FsalShare) :
    updateShareCounters share fsalOWrite fsalOClosed
      = { share with shareAccessWrite := share.shareAccessWrite + UInt32.ofInt (-1) } := by
  obtain ⟨read, denyRead, denyWrite, denyWriteMand⟩ := write_apart
  have down : flagInc fsalOWrite fsalOClosed fsalOWrite = -1 := by decide
  simp only [updateShareCounters, down, flagInc_apart read, flagInc_apart denyRead,
    flagInc_apart denyWrite, flagInc_apart denyWriteMand, ofInt_zero, UInt32.add_zero,
    Int.add_zero]

/-- Giving a reservation for writing back undoes making it. -/
theorem updateShareCounters_undo (share : FsalShare) :
    updateShareCounters (updateShareCounters share fsalOClosed fsalOWrite) fsalOWrite fsalOClosed
      = share := by
  have back : share.shareAccessWrite + 1 + UInt32.ofInt (-1) = share.shareAccessWrite := by
    rw [UInt32.add_assoc]
    exact UInt32.add_zero _
  rw [updateShareCounters_write, updateShareCounters_closed]
  simp only [back]

end Undoing

section Opening

/-- What a path has counted and reserved, nothing where it has no handle. -/
def HandleMap.held (handleMap : HandleMap) (path : Path) : Int32 × FsalShare :=
  match handleMap path with
  | some fileHandle => (fileHandle.ioWork, fileHandle.share)
  | none => (0, .zero)

/-- What serving a request can do to the table on the way to an open handle. -/
structure Opening (k : Kernel σ) (os : Os σ) (handleMap : HandleMap) (path : Path)
    (got : Option FHandle × Os σ × HandleMap) : Prop where
  /-- The handle that is returned is the one in the table. -/
  inTable : got.1 = got.2.2 path
  /-- What the path has counted and reserved stays. -/
  held : got.2.2.held path = handleMap.held path
  /-- Other paths are not touched. -/
  others : ∀ other, other ≠ path → got.2.2 other = handleMap other
  /-- At most the file is opened. -/
  calls : got.2.1.calls = os.calls ∨ ∃ ok, got.2.1.calls = ⟨.openFile, ok⟩ :: os.calls

/-- Getting a handle does no more than that, whether or not it opens. -/
theorem getHandle_opening (k : Kernel σ) (os : Os σ) (handleMap : HandleMap) (path : Path) :
    Opening k os handleMap path (getHandle k os handleMap path) := by
  -- A handle is open, or closed, or missing, and the latter two open the file.
  unfold getHandle
  cases entry : handleMap path with
  | some fileHandle =>
    cases opened : fileHandle.handle with
    | some fd =>
      simp only [opened]
      exact ⟨entry.symm, rfl, fun _ _ => rfl, .inl rfl⟩
    | none =>
      simp only [opened]
      refine ⟨?_, ?_, fun other distinct => ?_, .inr ⟨_, rfl⟩⟩
      · simp
      · simp [HandleMap.held, entry]
      · exact handleMap.set_other _ distinct
  | none =>
    unfold pushHandle
    simp only [judgeHandleExist, entry, Option.isSome_none, Bool.false_eq_true, if_false]
    cases outcome : k.openFile path .creatWronly os.fs with
    | mk result fs =>
      cases result with
      | error errno =>
        simp only [Os.call, outcome]
        exact ⟨entry.symm, rfl, fun _ _ => rfl, .inr ⟨_, rfl⟩⟩
      | ok fd =>
        simp only [Os.call, outcome]
        refine ⟨rfl, ?_, fun other distinct => ?_, .inr ⟨_, rfl⟩⟩
        · simp [HandleMap.held, entry]
        · exact handleMap.set_other _ distinct

end Opening

section Attempt

variable (fileHandle : FHandle)

/-- What becomes of data written through a descriptor. -/
def ioAttempt (k : Kernel σ) (os : Os σ) (share : FsalShare) (fd : Fd) (fsalStable : Bool)
    (iov : Bytes) (offset : UInt64) : WriteOutcome × Os σ :=
  if checkShareConflict share fsalOWrite false = .errFsalShareDenied then (.denied, os)
  else
    match os.pwritev k fd iov offset with
    | (.error _, os) => (.unwritten, os)
    | (.ok count, os) =>
      if fsalStable then
        match os.fsync k fd with
        | (.error _, os) => (.unsynced fd.file count, os)
        | (.ok _, os) => (.written fd.file count, os)
      else (.written fd.file count, os)

/-- What the function that writes hands on, by outcome. -/
def WriteOutcome.data (res : Mem) : WriteOutcome → Nfs3WriteData
  | unopened => ⟨.nfsReqOk, 0, res⟩
  | denied => ⟨.nfsReqOk, 0, res⟩
  | unwritten => ⟨.nfsReqError, -1, putStatus res .nfs3errIo⟩
  | unsynced _ count => ⟨.nfsReqError, UInt64.ofNat count, putStatus res .nfs3errIo⟩
  | written _ count => ⟨.nfsReqOk, UInt64.ofNat count, res⟩

/-- A handle with one more at work and one more writer than before. -/
def FHandle.leaked : FHandle :=
  waitToStartIo
    { fileHandle with share := updateShareCounters fileHandle.share fsalOClosed fsalOWrite }

/-- What is left on the handle, by outcome. -/
def WriteOutcome.handle (outcome : WriteOutcome) : FHandle :=
  if outcome.leaks then fileHandle.leaked else fileHandle

/-- Starting to write counts and reserves, unless the file is reserved against it. -/
theorem fsalStartIo_write :
    fsalStartIo fileHandle false fsalOWrite false =
      if checkShareConflict fileHandle.share fsalOWrite false = .errFsalShareDenied then
        (.errFsalShareDenied, fileHandle)
      else (.errFsalNoError, fileHandle.leaked) := by
  -- Writing is not the same as any access, so the reservation is always asked for.
  have asks : ¬fsalOWrite = fsalOAny := by decide
  unfold fsalStartIo fsalStartGlobalIo checkShareConflictAndUpdate
  cases verdict : checkShareConflict fileHandle.share fsalOWrite false
  · simp [asks, verdict, FHandle.leaked]
  · simp [asks, verdict]

/-- Completing work and giving the reservation back undoes starting it. -/
theorem complete_leaked :
    updateShareCountersLocked (fsalCompleteIo fileHandle.leaked) fsalOWrite fsalOClosed
      = fileHandle := by
  rw [FHandle.leaked, fsalCompleteIo_waitToStartIo, updateShareCountersLocked]
  simp only [updateShareCounters_undo]

/-- The function that writes, by outcome. -/
theorem nfsWriteBuff_eq (k : Kernel σ) (os : Os σ) (fileHandle : FHandle) (fd : Fd)
    (fsalStable : Bool) (iov : Bytes) (offset : UInt64) (res : Mem) :
    nfsWriteBuff k os fileHandle fd fsalStable iov offset res =
      let attempt := ioAttempt k os fileHandle.share fd fsalStable iov offset
      (attempt.1.data res, attempt.2, attempt.1.handle fileHandle) := by
  unfold nfsWriteBuff ioAttempt
  rw [fsalStartIo_write]
  by_cases conflict : checkShareConflict fileHandle.share fsalOWrite false = .errFsalShareDenied
  · simp [conflict, WriteOutcome.data, WriteOutcome.handle, WriteOutcome.leaks]
  · -- Past the reservation it is the two calls that decide.
    simp only [conflict, if_false]
    rcases os.pwritev k fd iov offset with ⟨errno | count, os⟩
    · simp [WriteOutcome.data, WriteOutcome.handle, WriteOutcome.leaks]
    · cases fsalStable with
      | false => simp [WriteOutcome.data, WriteOutcome.handle, WriteOutcome.leaks, complete_leaked]
      | true =>
        simp only [if_true]
        rcases os.fsync k fd with ⟨errno | _, os⟩
        · simp [WriteOutcome.data, WriteOutcome.handle, WriteOutcome.leaks]
        · simp [WriteOutcome.data, WriteOutcome.handle, WriteOutcome.leaks, complete_leaked]

end Attempt

section Serving

variable {k : Kernel σ} {env : Env} {server : Server σ} {args : Write3args}

/-- A request that gets as far as the file it names. -/
structure Write3args.Reaches (k : Kernel σ) (fs : σ) (args : Write3args) : Prop where
  named : args.file ≠ []
  judged : judgeFileExit k fs (cstr args.file) FileType.reg.bits = true
  fits : args.count.toNat ≤ args.data.length
  asks : args.count ≠ 0

instance (k : Kernel σ) (fs : σ) (args : Write3args) : Decidable (args.Reaches k fs) :=
  decidable_of_iff
    (args.file ≠ [] ∧ judgeFileExit k fs (cstr args.file) FileType.reg.bits = true ∧
      args.count.toNat ≤ args.data.length ∧ args.count ≠ 0)
    ⟨fun ⟨named, judged, fits, asks⟩ => ⟨named, judged, fits, asks⟩,
      fun reaches => ⟨reaches.named, reaches.judged, reaches.fits, reaches.asks⟩⟩

/-- Cutting a count never leaves nothing of something. -/
theorem Write3args.clamped_eq_zero (args : Write3args) : args.clamped = 0 ↔ args.count = 0 := by
  unfold Write3args.clamped
  by_cases exceeds : args.count > writeReadMax
  · -- A count above the bound is not zero, and neither is the bound.
    have nonzero : args.count ≠ 0 := by
      rintro zero
      rw [zero] at exceeds
      exact absurd exceeds (by decide)
    simp only [if_pos exceeds, nonzero, iff_false]
    decide
  · simp only [if_neg exceeds]

/-- What becomes of the data of a request that gets as far as the file. -/
def writeAttempt (k : Kernel σ) (server : Server σ) (args : Write3args) : WriteOutcome × Os σ :=
  let filePath := cstr args.file
  match getHandle k server.os server.handleMap filePath with
  | (fileHandle, os, _) =>
    match openDescriptor fileHandle with
    | none => (.unopened, os)
    | some fd =>
      ioAttempt k os (server.handleMap.held filePath).2 fd args.fsalStable args.iov args.offset

/-- The reply to a request that gets as far as the file, by what became of its data. -/
def WriteOutcome.reply (k : Kernel σ) (fs : σ) (verifier : UInt64) (filePath : Path)
    (fsalStable : Bool) (res : Mem) (outcome : WriteOutcome) : Mem :=
  match outcome with
  | unopened => putReturned (getWccData k fs filePath Mem.zero (putStatus res .nfs3errNoent) 2)
  | outcome => (nfs3CompleteWrite k fs verifier filePath fsalStable (outcome.data res)).2

/-- What a path has counted and reserved once one more request kept what it took. -/
def heldMore (held : Int32 × FsalShare) : Int32 × FsalShare :=
  (held.1 + 1, { held.2 with shareAccessWrite := held.2.shareAccessWrite + 1 })

/-- What a path has counted and reserved after a request, by what became of its data. -/
def WriteOutcome.holds (outcome : WriteOutcome) (held : Int32 × FsalShare) : Int32 × FsalShare :=
  if outcome.leaks then heldMore held else held

/-- Everything a request that gets as far as the file leaves behind. -/
structure WriteServed (k : Kernel σ) (server : Server σ) (args : Write3args) (res : Mem)
    (served : Served σ) : Prop where
  rc : served.rc = .nfsReqOk
  calls : served.calls = (writeAttempt k server args).2.calls
  res : served.res = (writeAttempt k server args).1.reply k (writeAttempt k server args).2.fs
    (server.nfs3WriteVerifier .nfsWrite) (cstr args.file) args.fsalStable res
  stored : served.stored = []
  /-- Closing is all that happens to the file system after the reply is built. -/
  fs : served.server.fs = (writeAttempt k server args).2.fs ∨
    ∃ fd, served.server.fs = k.close fd (writeAttempt k server args).2.fs
  /-- The handle is closed, if there is one. -/
  closed : ∀ fileHandle, served.server.handleMap (cstr args.file) = some fileHandle →
    fileHandle.handle = none
  held : served.server.handleMap.held (cstr args.file)
    = (writeAttempt k server args).1.holds (server.handleMap.held (cstr args.file))
  others : ∀ other, other ≠ cstr args.file →
    served.server.handleMap other = server.handleMap other
  verifier : served.server.nfs3WriteVerifier = server.nfs3WriteVerifier

/-- An empty handle leaves even the status alone. -/
theorem nfs3Write_unnamed (res : Mem) (unnamed : args.file = []) :
    nfs3Write k env server args res = server.refuse .nfsReqOk res := by
  simp [nfs3Write, unnamed]

/-- A missing file, or a count that the data do not reach, is invalid. -/
theorem nfs3Write_invalid (res : Mem) (named : args.file ≠ [])
    (invalid : judgeFileExit k server.fs (cstr args.file) FileType.reg.bits = true →
      args.count.toNat > args.data.length) :
    nfs3Write k env server args res = server.refuse .nfsReqOk (putStatus res .nfs3errInval) := by
  by_cases judged : judgeFileExit k server.fs (cstr args.file) FileType.reg.bits = true
  · simp [nfs3Write, named, judged, invalid judged]
  · simp [nfs3Write, named, judged]

/-- A request for no bytes only examines the file. -/
theorem nfs3Write_idle (res : Mem) (named : args.file ≠ [])
    (judged : judgeFileExit k server.fs (cstr args.file) FileType.reg.bits = true)
    (idle : args.count = 0) :
    nfs3Write k env server args res = server.refuse .nfsReqOk
      (putReturned
        (getWccData k server.fs (cstr args.file) Mem.zero (putStatus res .nfs3Ok) 2)) := by
  have none : args.clamped = 0 := args.clamped_eq_zero.mpr idle
  simp [nfs3Write, named, judged, idle, none]

/-- The ways a request does not get as far as the file. -/
theorem Write3args.stopped_cases {fs : σ} (stopped : ¬args.Reaches k fs) :
    args.file = [] ∨
      (args.file ≠ [] ∧ (judgeFileExit k fs (cstr args.file) FileType.reg.bits = true →
        args.count.toNat > args.data.length)) ∨
      (args.file ≠ [] ∧ judgeFileExit k fs (cstr args.file) FileType.reg.bits = true ∧
        args.count = 0) := by
  by_cases named : args.file = []
  · exact .inl named
  · by_cases invalid : judgeFileExit k fs (cstr args.file) FileType.reg.bits = true →
        args.count.toNat > args.data.length
    · exact .inr (.inl ⟨named, invalid⟩)
    · push Not at invalid
      refine .inr (.inr ⟨named, invalid.1, ?_⟩)
      by_contra asks
      exact stopped ⟨named, invalid.1, invalid.2, asks⟩

/-- A request that does not get as far as the file makes no call and leaves the server alone. -/
theorem nfs3Write_stopped {res : Mem} (stopped : ¬args.Reaches k server.fs) :
    (nfs3Write k env server args res).server = server ∧
      (nfs3Write k env server args res).calls = [] := by
  rcases Write3args.stopped_cases stopped with unnamed | ⟨named, invalid⟩ | ⟨named, judged, idle⟩
  · rw [nfs3Write_unnamed res unnamed]
    exact ⟨rfl, rfl⟩
  · rw [nfs3Write_invalid res named invalid]
    exact ⟨rfl, rfl⟩
  · rw [nfs3Write_idle res named judged idle]
    exact ⟨rfl, rfl⟩

/-- Past the checks, serving a request is getting the handle and writing through it. -/
private theorem nfs3Write_past (res : Mem) (reaches : args.Reaches k server.fs)
    {fileHandle : Option FHandle} {os : Os σ} {handleMap : HandleMap}
    (got : getHandle k server.os server.handleMap (cstr args.file) = (fileHandle, os, handleMap)) :
    nfs3Write k env server args res =
      match fileHandle, openDescriptor fileHandle with
      | some fileHandle, some fd =>
        let written := writeOpened k (server.nfs3WriteVerifier .nfsWrite) os fileHandle fd
          (cstr args.file) args.fsalStable args.iov args.offset res
        { rc := written.1.1
          server :=
            { server with
              fs := written.2.1.fs
              handleMap := handleMap.set (cstr args.file) written.2.2 }
          calls := written.2.1.calls
          res := written.1.2
          stored := [] }
      | _, _ =>
        { rc := .nfsReqOk
          server := { server with fs := os.fs, handleMap }
          calls := os.calls
          res := putReturned
            (getWccData k os.fs (cstr args.file) Mem.zero (putStatus res .nfs3errNoent) 2)
          stored := [] } := by
  have empty : ¬args.file.length = 0 := fun none => reaches.named (List.length_eq_zero_iff.mp none)
  have fits : ¬args.count.toNat > args.data.length := Nat.not_lt.mpr reaches.fits
  have asks : ¬args.clamped = 0 := fun none => reaches.asks (args.clamped_eq_zero.mp none)
  unfold nfs3Write
  simp only [empty, if_false, handlePath_eq, reaches.judged, not_true, fits, asks, got]
  -- The two matches differ only in the order in which they look.
  cases fileHandle with
  | none => rfl
  | some fileHandle =>
    cases opened : fileHandle.handle with
    | none | some fd => simp only [openDescriptor, Option.bind_some, opened]

/-- What an open handle has counted and reserved after it was written through and closed. -/
private theorem writeOpened_closed {verifier : UInt64} {os : Os σ} {fileHandle : FHandle} {fd : Fd}
    {filePath : Path} {fsalStable : Bool} {iov : Bytes} {offset : UInt64} {res : Mem}
    (opened : fileHandle.handle = some fd) :
    let attempt := ioAttempt k os fileHandle.share fd fsalStable iov offset
    writeOpened k verifier os fileHandle fd filePath fsalStable iov offset res =
      (nfs3CompleteWrite k attempt.2.fs verifier filePath fsalStable (attempt.1.data res),
        { attempt.2 with fs := k.close fd attempt.2.fs },
        { attempt.1.handle fileHandle with handle := none }) := by
  intro attempt
  -- Nothing on the way changes the descriptor of the handle.
  have still : (attempt.1.handle fileHandle).handle = some fd := by
    unfold WriteOutcome.handle
    split <;> exact opened
  rw [writeOpened, nfsWriteBuff_eq]
  simp only [closeHandle]
  rw [still]

/-- What a handle has counted and reserved by what became of the data. -/
private theorem WriteOutcome.handle_holds (outcome : WriteOutcome) (fileHandle : FHandle) :
    ((outcome.handle fileHandle).ioWork, (outcome.handle fileHandle).share)
      = outcome.holds (fileHandle.ioWork, fileHandle.share) := by
  unfold WriteOutcome.handle WriteOutcome.holds
  cases outcome.leaks with
  | true =>
    simp only [if_true, FHandle.leaked, waitToStartIo, updateShareCounters_write, heldMore]
  | false => rfl

/-- Whatever becomes of the data, the reply is complete. -/
private theorem completeWrite_rc (k : Kernel σ) (fs : σ) (verifier : UInt64) (filePath : Path)
    (fsalStable : Bool) (res : Mem) (outcome : WriteOutcome) :
    (nfs3CompleteWrite k fs verifier filePath fsalStable (outcome.data res)).1 = .nfsReqOk := by
  cases outcome <;> rfl

/-- Once a file is open, the write is denied or fails, or places no more than there is. -/
theorem ioAttempt_cases (k : Kernel σ) (os : Os σ) (share : FsalShare) (fd : Fd)
    (fsalStable : Bool) (iov : Bytes) (offset : UInt64) :
    let outcome := (ioAttempt k os share fd fsalStable iov offset).1
    outcome = .denied ∨ outcome = .unwritten ∨ ∃ count ≤ iov.length,
      outcome = .unsynced fd.file count ∨ outcome = .written fd.file count := by
  unfold ioAttempt
  split
  · exact .inl rfl
  · rcases os.pwritev k fd iov offset with ⟨errno | placed, os⟩
    · exact .inr (.inl rfl)
    · refine .inr (.inr ⟨placed, Nat.le_of_lt_succ placed.isLt, ?_⟩)
      cases fsalStable with
      | false => exact .inr rfl
      | true => rcases flushed : os.fsync k fd with ⟨errno | _, os⟩ <;> simp [flushed]

/-- Once a file is open, the reply is built by the function that completes the write. -/
private theorem WriteOutcome.reply_opened {fs : σ} {verifier : UInt64} {filePath : Path}
    {fsalStable : Bool} {res : Mem} {outcome : WriteOutcome}
    (opened : outcome ≠ .unopened) :
    outcome.reply k fs verifier filePath fsalStable res
      = (nfs3CompleteWrite k fs verifier filePath fsalStable (outcome.data res)).2 := by
  cases outcome with
  | unopened => exact absurd rfl opened
  | _ => rfl

/-- A request whose file did not open leaves the table as getting the handle left it. -/
private theorem unopened_served {res : Mem} {fileHandle : Option FHandle} {os : Os σ}
    {handleMap : HandleMap} (attempt : writeAttempt k server args = (.unopened, os))
    (opening : Opening k server.os server.handleMap (cstr args.file) (fileHandle, os, handleMap))
    (closed : ∀ found, handleMap (cstr args.file) = some found → found.handle = none) :
    WriteServed k server args res
      { rc := .nfsReqOk
        server := { server with fs := os.fs, handleMap }
        calls := os.calls
        res := putReturned
          (getWccData k os.fs (cstr args.file) Mem.zero (putStatus res .nfs3errNoent) 2)
        stored := [] } := by
  refine ⟨rfl, ?_, ?_, rfl, .inl ?_, closed, ?_, opening.others, rfl⟩
  · rw [attempt]
  · rw [attempt]
    rfl
  · rw [attempt]
  · rw [attempt]
    exact opening.held

/-- A request that gets as far as the file leaves behind what follows from its outcome. -/
theorem nfs3Write_served (env : Env) (res : Mem) (reaches : args.Reaches k server.fs) :
    WriteServed k server args res (nfs3Write k env server args res) := by
  rcases got : getHandle k server.os server.handleMap (cstr args.file)
    with ⟨fileHandle, os, handleMap⟩
  have opening := getHandle_opening k server.os server.handleMap (cstr args.file)
  rw [got] at opening
  have inTable : fileHandle = handleMap (cstr args.file) := opening.inTable
  have held : handleMap.held (cstr args.file) = server.handleMap.held (cstr args.file) :=
    opening.held
  rw [nfs3Write_past res reaches got]
  cases fileHandle with
  | none =>
    have attempt : writeAttempt k server args = (.unopened, os) := by
      simp only [writeAttempt, got, openDescriptor, Option.bind_none]
    exact unopened_served attempt opening (by simp [← inTable])
  | some fileHandle =>
    cases opened : fileHandle.handle with
    | none =>
      have attempt : writeAttempt k server args = (.unopened, os) := by
        simp only [writeAttempt, got, openDescriptor, Option.bind_some, opened]
      simp only [openDescriptor, Option.bind_some, opened]
      exact unopened_served attempt opening (by simp [← inTable, opened])
    | some fd =>
      -- The counters the attempt looks at are those of the handle that was opened.
      have counters : server.handleMap.held (cstr args.file)
          = (fileHandle.ioWork, fileHandle.share) := by
        rw [← held, HandleMap.held, ← inTable]
      have attempt : writeAttempt k server args
          = ioAttempt k os fileHandle.share fd args.fsalStable args.iov args.offset := by
        simp only [writeAttempt, got, openDescriptor, Option.bind_some, opened, counters]
      have notUnopened : (ioAttempt k os fileHandle.share fd args.fsalStable args.iov
          args.offset).1 ≠ .unopened := by
        rcases ioAttempt_cases k os fileHandle.share fd args.fsalStable args.iov args.offset
          with denied | unwritten | ⟨_, _, unsynced | written⟩ <;> simp [*]
      simp only [openDescriptor, Option.bind_some, opened, writeOpened_closed opened, ← attempt]
        at notUnopened ⊢
      refine ⟨completeWrite_rc _ _ _ _ _ _ _, rfl, ?_, rfl, .inr ⟨fd, rfl⟩, ?_, ?_, ?_, rfl⟩
      · exact (WriteOutcome.reply_opened notUnopened).symm
      · intro found entry
        obtain rfl : _ = found := by simpa using entry
        rfl
      · simp only [HandleMap.held, HandleMap.set_self]
        rw [← HandleMap.held, counters]
        exact WriteOutcome.handle_holds _ fileHandle
      · intro other distinct
        exact (handleMap.set_other _ distinct).trans (opening.others other distinct)

end Serving

section Calls

/-- The calls made through an open handle, newest first, by what became of the data. -/
def WriteOutcome.ioCalls (opened : Nat) (offset : UInt64) (fsalStable : Bool) :
    WriteOutcome → List Call
  | unopened => []
  | denied => []
  | unwritten => [⟨.pwritev opened offset 0, false⟩]
  | unsynced file count => [⟨.fsync file, false⟩, ⟨.pwritev file offset count, true⟩]
  | written file count =>
    (if fsalStable then [⟨.fsync file, true⟩] else []) ++ [⟨.pwritev file offset count, true⟩]

/-- Writing makes the calls of its outcome. -/
theorem ioAttempt_calls (k : Kernel σ) (os : Os σ) (share : FsalShare) (fd : Fd)
    (fsalStable : Bool) (iov : Bytes) (offset : UInt64) :
    let attempt := ioAttempt k os share fd fsalStable iov offset
    attempt.2.calls = attempt.1.ioCalls fd.file offset fsalStable ++ os.calls := by
  unfold ioAttempt
  split
  · rfl
  · unfold Os.pwritev Os.call
    rcases k.pwritev fd iov offset os.fs with ⟨errno | count, fs⟩
    · rfl
    · cases fsalStable with
      | false => rfl
      | true =>
        rcases synced : k.fsync fd fs with ⟨errno | _, after⟩
        · simp [Os.fsync, Os.call, synced, WriteOutcome.ioCalls, writtenCount, succeeded]
        · simp [Os.fsync, Os.call, synced, WriteOutcome.ioCalls, writtenCount, succeeded]

/-- A request makes the calls of its outcome, after at most opening the file. -/
theorem writeAttempt_calls (k : Kernel σ) (server : Server σ) (args : Write3args) :
    ∃ opened opens, (∀ call ∈ opens, call.sys = .openFile) ∧
      (writeAttempt k server args).2.calls
        = (writeAttempt k server args).1.ioCalls opened args.offset args.fsalStable ++ opens := by
  rcases got : getHandle k server.os server.handleMap (cstr args.file)
    with ⟨fileHandle, os, handleMap⟩
  have opening := getHandle_opening k server.os server.handleMap (cstr args.file)
  rw [got] at opening
  -- Getting the handle opens the file at most.
  have opens : ∀ call ∈ os.calls, call.sys = .openFile := by
    rcases opening.calls with same | ⟨ok, one⟩
    · simp [show os.calls = [] from same]
    · simp [show os.calls = [⟨.openFile, ok⟩] from one]
  cases opened : openDescriptor fileHandle with
  | none =>
    refine ⟨0, os.calls, opens, ?_⟩
    simp only [writeAttempt, got, opened]
    rfl
  | some fd =>
    refine ⟨fd.file, os.calls, opens, ?_⟩
    simp only [writeAttempt, got, opened]
    exact ioAttempt_calls k os _ fd _ _ _

/-- A call that writes or flushes. -/
def Sys.isIo : Sys → Bool
  | pwritev _ _ _ => true
  | fsync _ => true
  | _ => false

/-- Whether a write or a flush failed among some calls. -/
def losesIo (calls : List Call) : Bool := calls.any fun call => call.sys.isIo && !call.ok

/-- The outcomes that leave something behind are those where a call failed. -/
theorem WriteOutcome.losesIo_ioCalls (outcome : WriteOutcome) (opened : Nat) (offset : UInt64)
    (fsalStable : Bool) {opens : List Call} (openOnly : ∀ call ∈ opens, call.sys = .openFile) :
    losesIo (outcome.ioCalls opened offset fsalStable ++ opens) = outcome.leaks := by
  -- Opening neither writes nor flushes.
  have opensKeep : losesIo opens = false := by
    rw [losesIo, List.any_eq_false]
    intro call member
    simp [openOnly call member, Sys.isIo]
  rw [losesIo, List.any_append, ← losesIo, ← losesIo, opensKeep, Bool.or_false]
  cases outcome with
  | written file count =>
    cases fsalStable <;> simp [WriteOutcome.ioCalls, WriteOutcome.leaks, losesIo, Sys.isIo]
  | _ => simp [WriteOutcome.ioCalls, WriteOutcome.leaks, losesIo, Sys.isIo]

/-- A request has a call fail exactly if its outcome is one that leaves something behind. -/
theorem WriteServed.losesIo {k : Kernel σ} {server : Server σ} {args : Write3args} {res : Mem}
    {served : Served σ} (outcome : WriteServed k server args res served) :
    losesIo served.calls = (writeAttempt k server args).1.leaks := by
  obtain ⟨opened, opens, openOnly, calls⟩ := writeAttempt_calls k server args
  rw [outcome.calls, calls, WriteOutcome.losesIo_ioCalls _ _ _ _ openOnly]

end Calls

section Replies

variable {count file : Nat} {k : Kernel σ} {server : Server σ} {args : Write3args}

/-- The count the reply is given, if it is given any. -/
def WriteOutcome.amount : WriteOutcome → Option Nat
  | denied => some 0
  | written _ count => some count
  -- The other outcomes leave the count, the stability and the verifier as memory had them.
  | _ => none

/-- The memory a reply starts from, by what became of the data. -/
def WriteOutcome.noted (res : Mem) : WriteOutcome → Mem
  | unopened => putStatus res .nfs3errNoent
  | unwritten => putStatus res .nfs3errIo
  | unsynced _ _ => putStatus res .nfs3errIo
  | _ => res

/-- A reply is the examined file, and what is filled in behind it. -/
theorem WriteOutcome.reply_eq (k : Kernel σ) (fs : σ) (verifier : UInt64) (filePath : Path)
    (fsalStable : Bool) (res : Mem) (outcome : WriteOutcome) :
    outcome.reply k fs verifier filePath fsalStable res =
      let examined := putReturned (getWccData k fs filePath Mem.zero (outcome.noted res) 2)
      match outcome.amount with
      | none => examined
      | some count =>
        ((examined.put 34 (UInt64.ofNat count).toUInt32).put 35
          (if fsalStable then StableHow.fileSync.code else StableHow.unstable.code)).putU64 36
            verifier := by
  cases outcome <;> rfl

/-- The attributes WRITE reports: none from before, and the file as it is. -/
def Stat.writeWcc (st : Stat) : WccData := ⟨.absent, .present (st.fattr3 ⟨0, 0⟩)⟩

/-- The status of a reply only says whether the file could be examined. -/
theorem WriteOutcome.reply_status (k : Kernel σ) (fs : σ) (verifier : UInt64) (filePath : Path)
    (fsalStable : Bool) (res : Mem) (outcome : WriteOutcome) :
    outcome.reply k fs verifier filePath fsalStable res 0 = 0 ↔
      ∃ st, k.lstat fs filePath = .ok st := by
  have examined : putReturned (getWccData k fs filePath Mem.zero (outcome.noted res) 2) 0 = 0 ↔
      ∃ st, k.lstat fs filePath = .ok st := by
    cases found : k.lstat fs filePath with
    | error errno => simp [putReturned, getWccData_error found]
    | ok st => simp [putReturned, getWccData_ok found]
  rw [WriteOutcome.reply_eq]
  cases outcome.amount with
  | none => exact examined
  | some count => simpa using examined

/-- Noting an error down touches nothing behind the status. -/
theorem WriteOutcome.noted_agree (outcome : WriteOutcome) (res : Mem) {start : Nat}
    (behind : 0 < start) : (outcome.noted res).Agree res start count := by
  cases outcome with
  | unopened | unwritten | unsynced _ _ => exact putStatus_agree res _ behind
  | denied | written _ _ => exact fun _ _ _ => rfl

/-- A reply that says success is read as the file, with what is filled in or was there before. -/
theorem WriteOutcome.load_reply {fs : σ} {filePath : Path} {st : Stat}
    (found : k.lstat fs filePath = .ok st) (verifier : UInt64) (fsalStable : Bool) (res : Mem)
    (outcome : WriteOutcome) :
    loadWrite3res (outcome.reply k fs verifier filePath fsalStable res) =
      .ok (match outcome.amount with
        | none => ⟨st.writeWcc, res 34, res 35, res.getU64 36⟩
        | some count =>
          { fileWcc := st.writeWcc
            count := (UInt64.ofNat count).toUInt32
            committed := if fsalStable then StableHow.fileSync.code else StableHow.unstable.code
            verf := verifier }) := by
  have status := (outcome.reply_status k fs verifier filePath fsalStable res).mpr ⟨st, found⟩
  rw [loadWrite3res, loadStatus, dif_pos status, WriteOutcome.reply_eq]
  simp only [putReturned, getWccData_ok found]
  generalize base : putStatus (wccStored st Mem.zero (outcome.noted res) 2) .nfs3Ok = examined
  -- Storing the status leaves the attributes where they were stored.
  have wcc : loadWccData examined 2 = st.writeWcc := by
    rw [← base, loadWccData_congr (putStatus_agree _ _ (by decide)), loadWccData_wccStored]
    rfl
  have behind : examined.Agree res 34 4 := by
    rw [← base]
    exact (putStatus_agree _ _ (by decide)).trans
      ((wccStored_agree _ _ _ (.inl (by decide))).trans (outcome.noted_agree res (by decide)))
  cases outcome.amount with
  | none =>
    show StatusUnion.ok (loadWrite3resok examined) = _
    rw [loadWrite3resok, wcc, behind.word (by decide) (by decide),
      behind.word (by decide) (by decide), behind.getU64 (by decide) (by decide)]
  | some count =>
    -- What is filled in lies behind the attributes.
    have filled : ((((examined.put 34 (UInt64.ofNat count).toUInt32).put 35
        (if fsalStable then StableHow.fileSync.code else StableHow.unstable.code)).putU64 36
          verifier)).Agree examined 2 32 := by
      intro i low high
      have apart : i ≠ 34 ∧ i ≠ 35 ∧ i ≠ 36 ∧ i ≠ 37 := by omega
      simp [apart]
    rw [loadWrite3resok, loadWccData_congr filled, wcc]
    simp [Mem.getU64]

/-- What one request may write is bounded. -/
theorem Write3args.clamped_le (args : Write3args) : args.clamped.toNat ≤ 64 * 1024 * 1024 := by
  have bound : args.clamped ≤ writeReadMax := by
    unfold Write3args.clamped
    by_cases exceeds : args.count > writeReadMax
    · rw [if_pos exceeds]
      exact UInt32.le_refl _
    · rw [if_neg exceeds]
      exact UInt32.not_lt.mp exceeds
  exact UInt32.le_iff_toNat_le.mp bound

/-- No more is written than there was to write. -/
theorem ioAttempt_bound {os : Os σ} {share : FsalShare} {fd : Fd} {fsalStable : Bool} {iov : Bytes}
    {offset : UInt64}
    (written : (ioAttempt k os share fd fsalStable iov offset).1 = .written file count) :
    count ≤ iov.length := by
  rcases ioAttempt_cases k os share fd fsalStable iov offset
    with denied | unwritten | ⟨placed, bound, unsynced | placedAll⟩
  · exact absurd (written.symm.trans denied) (by simp)
  · exact absurd (written.symm.trans unwritten) (by simp)
  · exact absurd (written.symm.trans unsynced) (by simp)
  · obtain ⟨_, rfl⟩ := WriteOutcome.written.inj (written.symm.trans placedAll)
    exact bound

/-- No more is written than a request may write. -/
theorem writeAttempt_bound (written : (writeAttempt k server args).1 = .written file count) :
    count ≤ args.clamped.toNat := by
  have cut : args.iov.length ≤ args.clamped.toNat := by
    rw [Write3args.iov, List.length_take]
    exact Nat.min_le_left _ _
  rcases got : getHandle k server.os server.handleMap (cstr args.file)
    with ⟨fileHandle, os, handleMap⟩
  cases descriptor : openDescriptor fileHandle with
  | none => simp [writeAttempt, got, descriptor] at written
  | some fd =>
    simp only [writeAttempt, got, descriptor] at written
    exact Nat.le_trans (ioAttempt_bound written) cut

/-- A reply that says success after a write counts what was written, and tells how stable it is. -/
theorem WriteServed.written_reply {res : Mem} {served : Served σ} {ok : Write3resok}
    (outcome : WriteServed k server args res served)
    (written : (writeAttempt k server args).1 = .written file count)
    (replied : loadWrite3res served.res = .ok ok) :
    ok.count.toNat = count ∧ ok.committed
      = if args.fsalStable then StableHow.fileSync.code else StableHow.unstable.code := by
  have status : served.res 0 = 0 := (loadStatus_eq_ok.mp replied).1
  rw [outcome.res] at status replied
  obtain ⟨st, found⟩ := (WriteOutcome.reply_status _ _ _ _ _ _ _).mp status
  rw [WriteOutcome.load_reply found, written] at replied
  have loaded := StatusUnion.ok.inj replied
  -- The count is small enough to survive both conversions.
  have bound := writeAttempt_bound written
  have small := args.clamped_le
  rw [← loaded]
  refine ⟨?_, rfl⟩
  simp only [WriteOutcome.amount, UInt64.toNat_toUInt32, UInt64.toNat_ofNat']
  omega

/-- The calls of a request that wrote, up to those that opened the file. -/
theorem WriteServed.written_calls {res : Mem} {served : Served σ}
    (outcome : WriteServed k server args res served)
    (written : (writeAttempt k server args).1 = .written file count) :
    ∃ opens, served.calls = (if args.fsalStable then [⟨.fsync file, true⟩] else []) ++
      ⟨.pwritev file args.offset count, true⟩ :: opens := by
  obtain ⟨_, opens, _, calls⟩ := writeAttempt_calls k server args
  refine ⟨opens, ?_⟩
  rw [outcome.calls, calls, written, WriteOutcome.ioCalls, List.append_assoc]
  rfl

end Replies

section Demo

/-- A server of that epoch on a file system with one file. -/
def demoServer (epoch : UInt64) : Server MemFs := dnfsInitSvc epoch (Server.load (MemFs.demo []))

/-- A request to write one byte to the file. -/
def demoWrite (stable : StableHow) : Write3args := ⟨MemFs.demoPath, 0, 1, stable.code, [0x61]⟩

end Demo

end Dnfs
