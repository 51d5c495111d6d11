import Dnfs.Nfs.WriteSteps
import Dnfs.Os.Clock

/-! Whether WRITE and COMMIT requests leave each other the descriptors they use. -/

namespace Dnfs

variable {ι σ : Type} {k : Kernel σ} {path : Path}

section Laws

/-- A view of the open descriptors, and what each was opened on, that the calls respect. -/
structure Descriptors (k : Kernel σ) where
  on : σ → Nat → Option Path
  /-- A number that is in use is not given out again. -/
  opened : ∀ path mode fs fd, (k.openFile path mode fs).1 = .ok fd → on fs fd.number = none ∧
    ∀ n, on (k.openFile path mode fs).2 n = if n = fd.number then some path else on fs n
  refused : ∀ path mode fs errno, (k.openFile path mode fs).1 = .error errno →
    on (k.openFile path mode fs).2 = on fs
  close : ∀ fd fs n, on (k.close fd fs) n = if n = fd.number then none else on fs n
  pwritev : ∀ fd data offset fs, on (k.pwritev fd data offset fs).2 = on fs
  fsync : ∀ fd fs, on (k.fsync fd fs).2 = on fs

/-- Every descriptor in a handle is open on the path of the handle. -/
def Descriptors.Tidy (descriptors : Descriptors k) (server : Server σ) : Prop :=
  ∀ path fileHandle fd, server.handleMap path = some fileHandle → fileHandle.handle = some fd →
    descriptors.on server.fs fd.number = some path

/-- A request that goes through a handle. -/
inductive FileRequest where
  | write (args : Write3args)
  | commit (args : Commit3args)

/-- The procedure, one access at a time. -/
def FileRequest.steps (k : Kernel σ) (env : Env) (res : Mem) : FileRequest → FileSteps σ Answer
  | write args => nfs3WriteSteps k env args res
  | commit args => nfs3CommitSteps k env args res

/-- Any number of requests on any paths. -/
structure FileRequests (ι : Type) where
  request : ι → FileRequest
  env : ι → Env
  /-- What each result holds before it is written to. -/
  res : ι → Mem

/-- All requests at their beginning. -/
def FileRequests.start (k : Kernel σ) (requests : FileRequests ι) (server : Server σ) :
    Crew ι (Server σ) FileStage Answer where
  state := server
  tasks := fun i => (requests.request i).steps k (requests.env i) (requests.res i)

/-- A request counts as at work on a handle: it has started, and neither completed nor closed. -/
def HoldsIo (path : Path) (own : List (Turn (Server σ) FileStage)) : Prop :=
  (∃ turn ∈ own, turn.what = .startIo path true) ∧
    ∀ turn ∈ own, turn.what ≠ .completeIo path ∧ turn.what ≠ .closeHandle path

variable [DecidableEq ι]

/-- No descriptor is closed under a request that is using it. -/
structure KeptOpen (descriptors : Descriptors k) (past : List (ι × Turn (Server σ) FileStage)) :
    Prop where
  /-- Whoever writes or flushes goes through an open descriptor of the path. -/
  used : ∀ i turn path, (i, turn) ∈ past → turn.what = .io path → ∃ fileHandle fd,
    turn.before.handleMap path = some fileHandle ∧ fileHandle.handle = some fd ∧
      descriptors.on turn.before.fs fd.number = some path
  /-- Whoever closes a handle is the only one at work on it. -/
  closed : ∀ later i turn earlier path, past = later ++ (i, turn) :: earlier →
    turn.what = .closeHandle path → ∀ j, j ≠ i → ¬HoldsIo path (turnsOf j earlier)

/-- A request has looked up the handle of a path, and has yet to close it. -/
def InProgress (path : Path) (own : List (Turn (Server σ) FileStage)) : Prop :=
  (∃ turn ∈ own, ∃ found, turn.what = .lookUp path found ∧ found ≠ .missing) ∧
    ∀ turn ∈ own, turn.what ≠ .closeHandle path

/-- No handle is looked up while another request on it is in progress. -/
def OneAtATime (past : List (ι × Turn (Server σ) FileStage)) : Prop :=
  ∀ later i turn earlier path found, past = later ++ (i, turn) :: earlier →
    turn.what = .lookUp path found → ∀ j, j ≠ i → ¬InProgress path (turnsOf j earlier)

end Laws

section Effects

/-- The path whose handle a step gets at. -/
def FileStage.path? : FileStage → Option Path
  | look => none
  | lookUp path _ => some path
  | startIo path _ => some path
  | io path => some path
  | completeIo path => some path
  | share path => some path
  | closeHandle path => some path

/-- What every step does to the handles. -/
structure FileTurn (descriptors : Descriptors k) (turn : Turn (Server σ) FileStage) : Prop where
  /-- The handles of other paths stay as they are. -/
  others : ∀ path, turn.what.path? ≠ some path →
    turn.after.handleMap path = turn.before.handleMap path
  /-- A handle that is found open is open. -/
  found : ∀ path, turn.what = .lookUp path .opened →
    openDescriptor (turn.after.handleMap path) ≠ none
  /-- Nothing but looking up and closing changes which descriptor is open. -/
  kept : ∀ path, (∀ found, turn.what ≠ .lookUp path found) → turn.what ≠ .closeHandle path →
    openDescriptor (turn.after.handleMap path) = openDescriptor (turn.before.handleMap path)
  tidy : descriptors.Tidy turn.before → descriptors.Tidy turn.after

variable {descriptors : Descriptors k}

/-- A descriptor in a handle of a tidy server. -/
theorem Descriptors.Tidy.on {server : Server σ} (tidy : descriptors.Tidy server) {fd : Fd}
    (open_ : openDescriptor (server.handleMap path) = some fd) :
    descriptors.on server.fs fd.number = some path := by
  unfold openDescriptor at open_
  obtain ⟨fileHandle, has, handle⟩ := Option.bind_eq_some_iff.mp open_
  exact tidy path fileHandle fd has handle

/-- A server is tidy by its descriptors alone. -/
theorem Descriptors.tidy_iff {server : Server σ} : descriptors.Tidy server ↔
    ∀ path fd, openDescriptor (server.handleMap path) = some fd →
      descriptors.on server.fs fd.number = some path := by
  constructor
  · intro tidy path fd open_
    exact tidy.on open_
  · intro each path fileHandle fd has handle
    exact each path fd (by rw [has]; exact handle)

/-- A server without handles is tidy. -/
theorem Descriptors.tidy_load (fs : σ) : descriptors.Tidy (.load fs) := by
  intro path fileHandle fd has
  cases has

/-- A step that neither opens nor closes anything. -/
theorem fileTurn_of_kept {turn : Turn (Server σ) FileStage}
    (others : ∀ path, turn.what.path? ≠ some path →
      turn.after.handleMap path = turn.before.handleMap path)
    (noLookUp : ∀ path, turn.what ≠ .lookUp path .opened)
    (same : ∀ path, openDescriptor (turn.after.handleMap path)
      = openDescriptor (turn.before.handleMap path))
    (on : descriptors.on turn.after.fs = descriptors.on turn.before.fs) :
    FileTurn descriptors turn where
  others := others
  found := fun path looks => absurd looks (noLookUp path)
  kept := fun path _ _ => same path
  tidy := by
    intro tidy
    rw [Descriptors.tidy_iff]
    intro path fd open_
    rw [on]
    rw [same] at open_
    exact tidy.on open_

/-- Looking touches nothing. -/
theorem fileTurn_look (server : Server σ) : FileTurn descriptors ⟨.look, server, server⟩ :=
  fileTurn_of_kept (fun _ _ => rfl) (fun _ looks => by cases looks) (fun _ => rfl) rfl

/-- Setting a handle to one with the same descriptor. -/
theorem openDescriptor_set {handleMap : HandleMap} {fileHandle changed : FHandle}
    (has : handleMap path = some fileHandle) (same : changed.handle = fileHandle.handle)
    (other : Path) : openDescriptor (handleMap.set path changed other)
      = openDescriptor (handleMap other) := by
  by_cases mine : other = path
  · subst mine
    rw [HandleMap.set_self, has]
    exact same
  · rw [handleMap.set_other changed mine]

/-- Changing a handle but not its descriptor. -/
theorem fileTurn_onHandle (label : FileStage) (change : FHandle → FHandle)
    (touches : label.path? = some path) (noLookUp : ∀ path, label ≠ .lookUp path .opened)
    (keeps : ∀ fileHandle, (change fileHandle).handle = fileHandle.handle) (server : Server σ) :
    FileTurn descriptors ⟨label, server, server.onHandle path change⟩ := by
  unfold Server.onHandle
  -- Without a handle nothing happens.
  cases has : server.handleMap path with
  | none => exact fileTurn_of_kept (fun _ _ => rfl) noLookUp (fun _ => rfl) rfl
  | some fileHandle =>
    refine fileTurn_of_kept ?_ noLookUp (openDescriptor_set has (keeps fileHandle)) rfl
    intro other apart
    exact server.handleMap.set_other _ fun same => apart (by rw [same]; exact touches)

/-- Starting work, if that does not change the descriptor. -/
theorem fileTurn_startIo {start : FHandle → FsalErrors × FHandle}
    (keeps : ∀ fileHandle, (start fileHandle).2.handle = fileHandle.handle) (server : Server σ) :
    FileTurn descriptors
      ⟨.startIo path (server.startIo start path).1, server, (server.startIo start path).2⟩ := by
  -- Whether or not it starts, only the handle of the path is changed.
  have same : (server.startIo start path).2 = server.onHandle path fun h => (start h).2 := by
    unfold Server.startIo Server.onHandle
    cases server.handleMap path <;> rfl
  rw [same]
  exact fileTurn_onHandle (.startIo path _) _ rfl (fun _ looks => by cases looks) keeps server

/-- Writing leaves the handles alone. -/
theorem fileTurn_pwritev (iov : Bytes) (offset : UInt64) (server : Server σ) :
    FileTurn descriptors ⟨.io path, server, (server.pwritev k path iov offset).2⟩ := by
  unfold Server.pwritev
  -- Without a descriptor the call is not even made.
  cases openDescriptor (server.handleMap path) with
  | none =>
    exact fileTurn_of_kept (fun _ _ => rfl) (fun _ looks => by cases looks) (fun _ => rfl) rfl
  | some fd =>
    exact fileTurn_of_kept (fun _ _ => rfl) (fun _ looks => by cases looks) (fun _ => rfl)
      (descriptors.pwritev fd iov offset server.fs)

/-- Flushing leaves the handles alone. -/
theorem fileTurn_fsync (server : Server σ) :
    FileTurn descriptors ⟨.io path, server, (server.fsync k path).2⟩ := by
  unfold Server.fsync
  cases openDescriptor (server.handleMap path) with
  | none =>
    exact fileTurn_of_kept (fun _ _ => rfl) (fun _ looks => by cases looks) (fun _ => rfl) rfl
  | some fd =>
    exact fileTurn_of_kept (fun _ _ => rfl) (fun _ looks => by cases looks) (fun _ => rfl)
      (descriptors.fsync fd server.fs)

/-- A handle that is found open has a descriptor. -/
theorem openDescriptor_of_found {fileHandle : Option FHandle}
    (found : Found.ofHandle fileHandle = .opened) : openDescriptor fileHandle ≠ none := by
  cases fileHandle with
  | none => cases found
  | some fileHandle =>
    unfold Found.ofHandle at found
    cases handle : fileHandle.handle with
    | none => simp [handle] at found
    | some fd => simp [openDescriptor, handle]

/-- Looking a handle up as it is. -/
theorem fileTurn_justGetHandle (server : Server σ) :
    FileTurn descriptors ⟨.lookUp path (.ofHandle (justGetHandle server.handleMap path)), server,
      server⟩ where
  others := fun _ _ => rfl
  found := by
    intro other looks
    obtain ⟨rfl, found⟩ := FileStage.lookUp.inj looks
    exact openDescriptor_of_found found
  kept := fun _ _ _ => rfl
  tidy := id

/-- A new descriptor in a handle is open on its path, and takes no other handle's number. -/
theorem Descriptors.Tidy.opens {server : Server σ} (tidy : descriptors.Tidy server)
    {mode : OpenMode}
    {fd : Fd} {fs : σ} (opened : k.openFile path mode server.fs = (.ok fd, fs))
    {fileHandle : FHandle} (handle : fileHandle.handle = some fd) :
    descriptors.Tidy { server with fs, handleMap := server.handleMap.set path fileHandle } := by
  have law := descriptors.opened path mode server.fs fd (by rw [opened])
  rw [opened] at law
  rw [Descriptors.tidy_iff]
  intro other fd' open_
  dsimp only at open_ ⊢
  rw [law.2]
  -- Only the handle of the path has the new number.
  by_cases mine : other = path
  · subst mine
    rw [HandleMap.set_self] at open_
    have same : fd = fd' := Option.some.inj (handle.symm.trans open_)
    rw [if_pos (by rw [same])]
  · rw [server.handleMap.set_other fileHandle mine] at open_
    have on := tidy.on open_
    -- A number that is in use is not the new one.
    rw [if_neg, on]
    intro same
    rw [same, law.1] at on
    cases on

/-- A handle without a descriptor cannot be untidy. -/
theorem Descriptors.Tidy.shuts {server : Server σ} (tidy : descriptors.Tidy server) {fs : σ}
    (on : ∀ other fd, other ≠ path → descriptors.on server.fs fd = some other →
      descriptors.on fs fd = some other)
    {fileHandle : FHandle} (handle : fileHandle.handle = none) :
    descriptors.Tidy { server with fs, handleMap := server.handleMap.set path fileHandle } := by
  rw [Descriptors.tidy_iff]
  intro other fd open_
  dsimp only at open_ ⊢
  by_cases mine : other = path
  · subst mine
    rw [HandleMap.set_self] at open_
    have none_ : none = some fd := handle.symm.trans open_
    cases none_
  · rw [server.handleMap.set_other fileHandle mine] at open_
    exact on other fd.number mine (tidy.on open_)

/-- Getting a handle keeps a server tidy, whether or not it opens. -/
theorem getHandle_tidy {server : Server σ} (tidy : descriptors.Tidy server) :
    descriptors.Tidy (server.getHandle k path).2 := by
  unfold Server.getHandle getHandle
  have opening := descriptors.refused path .creatWronly server.fs
  -- The handle may be there and open, there and closed, or missing.
  cases has : server.handleMap path with
  | some fileHandle =>
    cases handle : fileHandle.handle with
    | some fd =>
      simp only [handle]
      exact tidy
    | none =>
      simp only [handle, Os.call, Server.os, Os.start]
      rcases opened : k.openFile path .creatWronly server.fs with ⟨errno | fd, fs⟩
      · rw [opened] at opening
        simp only [opened]
        refine tidy.shuts (fun other fd _ on => ?_) rfl
        rw [opening errno rfl]
        exact on
      · simp only [opened]
        exact tidy.opens opened rfl
  | none =>
    simp only [pushHandle, judgeHandleExist, has, Option.isSome_none, Bool.false_eq_true, if_false,
      Os.call, Server.os, Os.start]
    rcases opened : k.openFile path .creatWronly server.fs with ⟨errno | fd, fs⟩
    · rw [opened] at opening
      simp only [opened]
      rw [Descriptors.tidy_iff]
      intro other fd open_
      dsimp only
      rw [opening errno rfl]
      exact tidy.on open_
    · simp only [opened]
      exact tidy.opens opened rfl

/-- Looking a handle up and opening it. -/
theorem fileTurn_getHandle (server : Server σ) :
    FileTurn descriptors
      ⟨.lookUp path (server.getHandle k path).1, server, (server.getHandle k path).2⟩ := by
  have opening := getHandle_opening k server.os server.handleMap path
  refine ⟨?_, ?_, ?_, getHandle_tidy⟩
  · intro other apart
    exact opening.others other fun same => apart (by rw [same]; rfl)
  · intro other looks
    obtain ⟨rfl, found⟩ := FileStage.lookUp.inj looks
    have has : openDescriptor (getHandle k server.os server.handleMap path).1 ≠ none :=
      openDescriptor_of_found found
    rw [opening.inTable] at has
    exact has
  · -- A step that looks up another path does not get at this handle.
    intro other noLookUp _
    have apart : other ≠ path := fun same => noLookUp _ (by rw [same])
    dsimp only
    rw [show (server.getHandle k path).2.handleMap other = server.handleMap other from
      opening.others other apart]

/-- Closing a handle closes no descriptor of another path. -/
theorem fileTurn_closeHandle (server : Server σ) :
    FileTurn descriptors ⟨.closeHandle path, server, server.closeHandle k path⟩ := by
  unfold Server.closeHandle closeHandle
  cases has : server.handleMap path with
  | none =>
    exact fileTurn_of_kept (fun _ _ => rfl) (fun _ looks => by cases looks) (fun _ => rfl) rfl
  | some fileHandle =>
    cases handle : fileHandle.handle with
    | none =>
      simp only [handle]
      refine fileTurn_of_kept ?_ (fun _ looks => by cases looks) (openDescriptor_set has rfl) rfl
      exact fun other apart => server.handleMap.set_other _ fun same => apart (by rw [same]; rfl)
    | some fd =>
      simp only [handle]
      have others : ∀ other, other ≠ path → (server.handleMap.set path
          { fileHandle with handle := none }) other = server.handleMap other :=
        fun other apart => server.handleMap.set_other _ apart
      refine ⟨?_, fun _ looks => (by cases looks), ?_, ?_⟩
      · exact fun other apart => others other fun same => apart (by rw [same]; rfl)
      · intro other _ noClose
        dsimp only
        rw [others other fun same => noClose (by rw [same])]
      · intro tidy
        refine tidy.shuts ?_ rfl
        intro other n apart on
        -- The number that is closed is open on this path, not on the other.
        rw [
          show descriptors.on (k.close fd server.os.fs) n = _ from descriptors.close fd server.fs n,
          if_neg, on]
        intro same
        have mine := tidy path fileHandle fd has handle
        rw [← same, on] at mine
        exact apart (Option.some.inj mine)

end Effects

section Order

variable {own : List (Turn (Server σ) FileStage)} {descriptors : Descriptors k}

/-- The handle of a path was found open, and has yet to be closed. -/
def Ready (path : Path) (own : List (Turn (Server σ) FileStage)) : Prop :=
  (∃ turn ∈ own, turn.what = .lookUp path .opened) ∧ ∀ turn ∈ own, turn.what ≠ .closeHandle path

/-- What was found open is in progress. -/
theorem Ready.inProgress (ready : Ready path own) : InProgress path own := by
  obtain ⟨⟨turn, within, what⟩, open_⟩ := ready
  exact ⟨⟨turn, within, .opened, what, by decide⟩, open_⟩

/-- Another step but closing leaves it so. -/
theorem Ready.cons (ready : Ready path own) {turn : Turn (Server σ) FileStage}
    (open_ : turn.what ≠ .closeHandle path) : Ready path (turn :: own) := by
  obtain ⟨⟨found, within, what⟩, before⟩ := ready
  exact ⟨⟨found, List.mem_cons_of_mem _ within, what⟩, List.forall_mem_cons.mpr ⟨open_, before⟩⟩

/-- Another step but closing leaves a request in progress. -/
theorem InProgress.cons (inProgress : InProgress path own) {turn : Turn (Server σ) FileStage}
    (open_ : turn.what ≠ .closeHandle path) : InProgress path (turn :: own) := by
  obtain ⟨⟨found, within, what⟩, before⟩ := inProgress
  exact ⟨⟨found, List.mem_cons_of_mem _ within, what⟩, List.forall_mem_cons.mpr ⟨open_, before⟩⟩

/-- When a request takes its steps, given those it took before. -/
def Ordered (own : List (Turn (Server σ) FileStage)) (turn : Turn (Server σ) FileStage) : Prop :=
  match turn.what with
  | .look => True
  -- A handle is looked up once, before anything else is done to it.
  | .lookUp _ _ => ∀ earlier ∈ own, earlier.what = .look
  | .startIo path _ => Ready path own
  | .io path => Ready path own
  | .completeIo path => Ready path own
  | .share path => Ready path own
  | .closeHandle path => InProgress path own

section Inversion

variable {turn : Turn (Server σ) FileStage} (ordered : Ordered own turn)

include ordered

/-- Before a handle is looked up, the request only looks. -/
theorem Ordered.of_lookUp {found : Found} (what : turn.what = .lookUp path found) :
    ∀ earlier ∈ own, earlier.what = .look := by
  simpa only [Ordered, what] using ordered

/-- Work is started on a handle that was found open. -/
theorem Ordered.of_startIo {ok : Bool} (what : turn.what = .startIo path ok) : Ready path own := by
  simpa only [Ordered, what] using ordered

/-- Data goes through a handle that was found open. -/
theorem Ordered.of_io (what : turn.what = .io path) : Ready path own := by
  simpa only [Ordered, what] using ordered

/-- A handle is closed while the request is in progress on it. -/
theorem Ordered.of_closeHandle (what : turn.what = .closeHandle path) : InProgress path own := by
  simpa only [Ordered, what] using ordered

/-- A step that gets at the handle of a path looks it up, or is of a request in progress on it. -/
theorem Ordered.cases (touches : turn.what.path? = some path) :
    (∃ found, turn.what = .lookUp path found) ∨ InProgress path own := by
  unfold Ordered at ordered
  generalize turn.what = what at ordered touches ⊢
  -- All other steps but looking need a handle that was found open.
  cases what with
  | look => cases touches
  | lookUp other found =>
    cases touches
    exact .inl ⟨found, rfl⟩
  | closeHandle other =>
    cases touches
    exact .inr ordered
  | _ =>
    cases touches
    exact .inr (Ready.inProgress ordered)

end Inversion

variable {α : Type} {res : Mem}

/-- What every step does, and when. -/
def Sound (descriptors : Descriptors k) (own : List (Turn (Server σ) FileStage))
    (turn : Turn (Server σ) FileStage) : Prop :=
  FileTurn descriptors turn ∧ Ordered own turn

/-- Looking is always sound. -/
theorem look_sound {β : Type} {read : Server σ → β} {next : β → FileSteps σ α} (later : ∀ server,
      (next (read server)).All (Sound descriptors) (⟨.look, server, server⟩ :: own)) :
    (Task.look .look read next).All (Sound descriptors) own := by
  rw [Task.all_look]
  exact fun server => ⟨⟨fileTurn_look server, trivial⟩, later server⟩

/-- Closing ends what is in progress. -/
theorem closeHandleSteps_sound (inProgress : InProgress path own) (answer : Answer) :
    (closeHandleSteps k path answer).All (Sound descriptors) own := by
  unfold closeHandleSteps
  rw [Task.all_call]
  exact fun server => ⟨⟨fileTurn_closeHandle server, inProgress⟩, trivial⟩

/-- The reply of COMMIT is built before it closes the handle. -/
theorem commitReplySteps_sound {rc : NfsReqResult} {verifier : UInt64}
    (inProgress : InProgress path own) :
    (commitReplySteps k path rc verifier res (closeHandleSteps k path)).All (Sound descriptors)
      own :=
  look_sound fun _ => closeHandleSteps_sound (inProgress.cons (by simp)) _

/-- Starting work changes no descriptor. -/
theorem startIo_sound {start : FHandle → FsalErrors × FHandle} {next : Bool → FileSteps σ α}
    (keeps : ∀ fileHandle, (start fileHandle).2.handle = fileHandle.handle) (ready : Ready path own)
    (later : ∀ ok own, Ready path own → (next ok).All (Sound descriptors) own) :
    (Task.call (fun ok => .startIo path ok) (Server.startIo start path) next).All
      (Sound descriptors) own := by
  rw [Task.all_call]
  exact fun server => ⟨⟨fileTurn_startIo keeps server, ready⟩, later _ _ (ready.cons (by simp))⟩

/-- Writing goes through a handle that was found open. -/
theorem pwritev_sound {iov : Bytes} {offset : UInt64} {next : Except Errno Nat → FileSteps σ α}
    (ready : Ready path own)
    (later : ∀ result own, Ready path own → (next result).All (Sound descriptors) own) :
    (Task.call (fun _ => .io path) (Server.pwritev k path iov offset) next).All (Sound descriptors)
      own := by
  rw [Task.all_call]
  exact fun server =>
    ⟨⟨fileTurn_pwritev iov offset server, ready⟩, later _ _ (ready.cons (by simp))⟩

/-- Flushing goes through a handle that was found open. -/
theorem fsync_sound {next : Except Errno Unit → FileSteps σ α} (ready : Ready path own)
    (later : ∀ result own, Ready path own → (next result).All (Sound descriptors) own) :
    (Task.call (fun _ => .io path) (Server.fsync k path) next).All (Sound descriptors) own := by
  rw [Task.all_call]
  exact fun server => ⟨⟨fileTurn_fsync server, ready⟩, later _ _ (ready.cons (by simp))⟩

/-- Completing work changes no descriptor. -/
theorem completeIo_sound {next : Unit → FileSteps σ α} (ready : Ready path own)
    (later : ∀ own, Ready path own → (next ()).All (Sound descriptors) own) :
    (Task.call (fun _ => .completeIo path)
      (fun server : Server σ => ((), server.onHandle path fsalCompleteIo)) next).All
        (Sound descriptors) own := by
  rw [Task.all_call]
  intro server
  refine ⟨⟨?_, ready⟩, later _ (ready.cons (by simp))⟩
  exact fileTurn_onHandle (.completeIo path) fsalCompleteIo rfl (by simp) (fun _ => rfl) server

/-- Giving a reservation back changes no descriptor. -/
theorem share_sound {next : Unit → FileSteps σ α} (ready : Ready path own)
    (later : ∀ own, Ready path own → (next ()).All (Sound descriptors) own) :
    (Task.call (fun _ => .share path) (fun server : Server σ => ((), server.onHandle path
      (updateShareCountersLocked · fsalOWrite fsalOClosed))) next).All (Sound descriptors) own := by
  rw [Task.all_call]
  intro server
  refine ⟨⟨?_, ready⟩, later _ (ready.cons (by simp))⟩
  exact fileTurn_onHandle (.share path) (updateShareCountersLocked · fsalOWrite fsalOClosed) rfl
    (by simp) (fun _ => rfl) server

/-- COMMIT through an open handle is sound, also if flushing fails. -/
theorem commitOpenedSteps_sound {verifier : UInt64} (ready : Ready path own) :
    (commitOpenedSteps k path verifier res).All (Sound descriptors) own := by
  unfold commitOpenedSteps
  apply startIo_sound (fun fileHandle => fsalStartGlobalIo_handle fileHandle _ _ _) ready
  intro _ own ready
  apply fsync_sound ready
  intro result own ready
  cases result with
  | error errno => exact commitReplySteps_sound ready.inProgress
  | ok _ => exact completeIo_sound ready fun _ ready => commitReplySteps_sound ready.inProgress

/-- Writing through an open handle, and what comes behind it. -/
theorem nfsWriteBuffSteps_sound {fsalStable : Bool} {iov : Bytes} {offset : UInt64}
    {next : Nfs3WriteData → FileSteps σ Answer} (ready : Ready path own)
    (later : ∀ data own, Ready path own → (next data).All (Sound descriptors) own) :
    ((nfsWriteBuffSteps k path fsalStable iov offset res).bind next).All (Sound descriptors)
      own := by
  unfold nfsWriteBuffSteps
  rw [Task.bind_call]
  apply startIo_sound (fun fileHandle => fsalStartIo_handle fileHandle _ _) ready
  intro ok own ready
  cases ok with
  | false => exact later _ _ ready
  | true =>
    dsimp only
    rw [Task.bind_call]
    apply pwritev_sound ready
    intro result own ready
    cases result with
    | error errno => exact later _ _ ready
    | ok count =>
      -- What follows a write that succeeded, with or without a flush.
      have complete : ∀ own, Ready path own → (Task.bind (.call (fun _ => .completeIo path)
          (fun server => ((), server.onHandle path fsalCompleteIo)) fun _ =>
          .call (fun _ => .share path) (fun server => ((), server.onHandle path
            (updateShareCountersLocked · fsalOWrite fsalOClosed))) fun _ =>
          .done ⟨.nfsReqOk, UInt64.ofNat count, res⟩) next).All (Sound descriptors) own := by
        intro own ready
        rw [Task.bind_call]
        apply completeIo_sound ready
        intro own ready
        rw [Task.bind_call]
        exact share_sound ready fun own ready => later _ own ready
      dsimp only
      split
      · rw [Task.bind_call]
        apply fsync_sound ready
        intro result own ready
        cases result with
        | error errno => exact later _ _ ready
        | ok _ => exact complete own ready
      · exact complete own ready

/-- A handle that is found is closed in the end. -/
theorem found_inProgress {found : Found} (some_ : found ≠ .missing) {before after : Server σ}
    (looks : ∀ earlier ∈ own, earlier.what = .look) :
    InProgress path (⟨.lookUp path found, before, after⟩ :: own) := by
  refine ⟨⟨_, List.mem_cons_self, found, rfl, some_⟩, ?_⟩
  intro turn within closes
  rcases List.mem_cons.mp within with rfl | within
  · cases closes
  · rw [looks turn within] at closes
    cases closes

/-- A handle that is found open is ready for use. -/
theorem found_ready {before after : Server σ} (looks : ∀ earlier ∈ own, earlier.what = .look) :
    Ready path (⟨.lookUp path .opened, before, after⟩ :: own) :=
  ⟨⟨_, List.mem_cons_self, rfl⟩, (found_inProgress (by decide) looks).2⟩

/-- All of COMMIT is sound. -/
theorem nfs3CommitSteps_sound {env : Env} {args : Commit3args} :
    (nfs3CommitSteps k env args res).All (Sound descriptors) [] := by
  unfold nfs3CommitSteps
  apply look_sound
  intro s₁
  split
  · trivial
  · apply look_sound
    intro s₂
    split
    · trivial
    · rw [Task.all_call]
      intro server
      have looks : ∀ earlier ∈ [(⟨.look, s₂, s₂⟩ : Turn (Server σ) FileStage), ⟨.look, s₁, s₁⟩],
          earlier.what = .look := by simp
      refine ⟨⟨fileTurn_justGetHandle server, looks⟩, ?_⟩
      dsimp only
      -- A handle that is missing is not closed, one that is closed is.
      cases Found.ofHandle (justGetHandle server.handleMap (handlePath env.around args.file)) with
      | missing => exact look_sound fun _ => trivial
      | closed => exact commitReplySteps_sound (found_inProgress (by decide) looks)
      | opened => exact commitOpenedSteps_sound (found_ready looks)

/-- All of WRITE is sound. -/
theorem nfs3WriteSteps_sound {env : Env} {args : Write3args} :
    (nfs3WriteSteps k env args res).All (Sound descriptors) [] := by
  unfold nfs3WriteSteps
  split
  · trivial
  apply look_sound
  intro s₁
  split
  · trivial
  split
  · trivial
  split
  · exact look_sound fun _ => trivial
  rw [Task.all_call]
  intro server
  -- One look at the file comes before the handle is looked up.
  have looks : ∀ earlier ∈ [(⟨.look, s₁, s₁⟩ : Turn (Server σ) FileStage)],
      earlier.what = .look := by simp
  refine ⟨⟨fileTurn_getHandle server, looks⟩, ?_⟩
  cases (Server.getHandle k (handlePath env.around args.file) server).1 with
  | missing => exact look_sound fun _ => trivial
  | closed =>
    apply look_sound
    intro s₂
    exact closeHandleSteps_sound ((found_inProgress (by decide) looks).cons (by simp)) _
  | opened =>
    apply nfsWriteBuffSteps_sound (found_ready looks)
    intro data own ready
    exact look_sound fun _ => closeHandleSteps_sound (ready.inProgress.cons (by simp)) _

end Order

section Runs

variable [DecidableEq ι] {descriptors : Descriptors k} {requests : FileRequests ι}
  {server : Server σ} {past : List (ι × Turn (Server σ) FileStage)}
  {crew : Crew ι (Server σ) FileStage Answer}

/-- Every step of a run is sound. -/
theorem sound_of_run (descriptors : Descriptors k) (later : List (ι × Turn (Server σ) FileStage))
    {earlier : List (ι × Turn (Server σ) FileStage)} {i : ι} {turn : Turn (Server σ) FileStage}
    (run : Run CrewStep (requests.start k server) (later ++ (i, turn) :: earlier) crew) :
    Sound descriptors (turnsOf i earlier) turn := by
  refine spec_of_run ?_ run
  show ((requests.request i).steps k (requests.env i) (requests.res i)).All (Sound descriptors) []
  cases requests.request i with
  | write args => exact nfs3WriteSteps_sound
  | commit args => exact nfs3CommitSteps_sound

/-- A server stays tidy throughout a run. -/
theorem tidy_of_run (tidy : descriptors.Tidy server)
    (run : Run CrewStep (requests.start k server) past crew) : descriptors.Tidy crew.state := by
  refine (linked_of_run run).related (fun s t => descriptors.Tidy s → descriptors.Tidy t)
    (fun _ h => h) (fun _ _ _ first second h => second (first h)) ?_ tidy
  intro ⟨i, turn⟩ within
  obtain ⟨later, earlier, rfl⟩ := List.append_of_mem within
  exact (sound_of_run descriptors later run).1.tidy

/-- What was in progress before a step that does not look up still is. -/
theorem InProgress.of_cons {turn : Turn (Server σ) FileStage}
    {own : List (Turn (Server σ) FileStage)} (inProgress : InProgress path (turn :: own))
    (noLookUp : ∀ found, turn.what ≠ .lookUp path found) : InProgress path own := by
  obtain ⟨⟨found, within, kind, what, some_⟩, open_⟩ := inProgress
  rcases List.mem_cons.mp within with rfl | within
  · exact absurd what (noLookUp kind)
  · exact ⟨⟨found, within, kind, what, some_⟩, fun other inside =>
      open_ other (List.mem_cons_of_mem _ inside)⟩

/-- A shorter history is one at a time, too. -/
theorem OneAtATime.behind {newer : List (ι × Turn (Server σ) FileStage)}
    (oneAtATime : OneAtATime (newer ++ past)) : OneAtATime past := by
  intro later i turn earlier path found split
  exact oneAtATime (newer ++ later) i turn earlier path found (by simp [split])

/-- So it is without its last step. -/
theorem OneAtATime.of_cons {moment : ι × Turn (Server σ) FileStage}
    (oneAtATime : OneAtATime (moment :: past)) : OneAtATime past :=
  @OneAtATime.behind _ _ _ past [moment] oneAtATime

/-- At most one request on a path is in progress. -/
theorem OneAtATime.unique (oneAtATime : OneAtATime past) {i j : ι}
    (one : InProgress path (turnsOf i past)) (two : InProgress path (turnsOf j past)) : i = j := by
  induction past with
  | nil =>
    obtain ⟨⟨turn, within, _⟩, _⟩ := one
    cases within
  | cons moment past ih =>
    by_contra differ
    obtain ⟨m, turn⟩ := moment
    -- Whoever took the last step was in progress before it, or found nobody else to be.
    have before : ∀ j, j ≠ m → InProgress path (turnsOf m ((m, turn) :: past)) →
        InProgress path (turnsOf j past) → InProgress path (turnsOf m past) := by
      intro j apart mine its
      rw [turnsOf_cons_self] at mine
      apply mine.of_cons
      intro found looks
      exact oneAtATime [] m turn past path found rfl looks j apart its
    -- The last step is of the one, of the other or of neither.
    by_cases isI : m = i
    · subst isI
      rw [turnsOf_cons_of_ne differ] at two
      exact differ (ih oneAtATime.of_cons (before j (Ne.symm differ) one two) two)
    · rw [turnsOf_cons_of_ne isI] at one
      by_cases isJ : m = j
      · subst isJ
        exact differ (ih oneAtATime.of_cons one (before i (Ne.symm isI) two one))
      · rw [turnsOf_cons_of_ne isJ] at two
        exact differ (ih oneAtATime.of_cons one two)

/-- A handle that was found open stays open until it is closed. -/
theorem open_of_ready (run : Run CrewStep (requests.start k server) past crew)
    (descriptors : Descriptors k) (oneAtATime : OneAtATime past) {i : ι}
    (ready : Ready path (turnsOf i past)) : openDescriptor (crew.state.handleMap path) ≠ none := by
  -- Each step keeps the handle open, whoever takes it.
  induction run with
  | nil =>
    obtain ⟨⟨turn, within, _⟩, _⟩ := ready
    cases within
  | cons earlierRun step ih =>
    cases step with
    | @turn j label effect next isNext =>
      have sound := sound_of_run descriptors [] (.cons earlierRun (.turn isNext))
      by_cases same : j = i
      · subst same
        rw [turnsOf_cons_self] at ready
        obtain ⟨⟨found, within, what⟩, open_⟩ := ready
        rcases List.mem_cons.mp within with rfl | within
        · exact sound.1.found path what
        · -- The handle was found before, so this step neither looks it up nor closes it.
          have before := ih oneAtATime.of_cons ⟨⟨found, within, what⟩, fun other inside =>
            open_ other (List.mem_cons_of_mem _ inside)⟩
          rw [sound.1.kept path ?_ (open_ _ List.mem_cons_self)]
          · exact before
          · intro kind looks
            rw [sound.2.of_lookUp looks found within] at what
            cases what
      · rw [turnsOf_cons_of_ne same] at ready
        have before := ih oneAtATime.of_cons ready
        -- Another request that gets at this handle would be in progress on it, too.
        rw [sound.1.others path ?_]
        · exact before
        · intro touches
          rcases sound.2.cases touches with ⟨found, looks⟩ | inProgress
          · exact oneAtATime [] j _ _ path found rfl looks i (Ne.symm same) ready.inProgress
          · exact same (oneAtATime.of_cons.unique inProgress ready.inProgress)

/-- A request that is at work on a handle is in progress on it. -/
theorem HoldsIo.inProgress (run : Run CrewStep (requests.start k server) past crew)
    (descriptors : Descriptors k) {i : ι} (holds : HoldsIo path (turnsOf i past)) :
    InProgress path (turnsOf i past) := by
  obtain ⟨⟨started, within, what⟩, notYet⟩ := holds
  obtain ⟨newer, older, split⟩ := List.append_of_mem within
  obtain ⟨later, earlier, rfl, _, behind⟩ := turnsOf_eq_append_cons split
  -- Work was started on a handle that had been found open.
  have ready := (sound_of_run descriptors later run).2.of_startIo what
  rw [behind] at ready
  obtain ⟨⟨found, inside, looks⟩, _⟩ := ready
  refine ⟨⟨found, ?_, .opened, looks, by decide⟩, fun turn member => (notYet turn member).2⟩
  rw [split]
  simp [inside]

/--
No descriptor is closed under a request that is using it, in every run in which no two requests on
one path are in progress at once.
-/
theorem descriptors_keptOpen (descriptors : Descriptors k) (requests : FileRequests ι)
    (tidy : descriptors.Tidy server) (run : Run CrewStep (requests.start k server) past crew)
    (oneAtATime : OneAtATime past) : KeptOpen descriptors past := by
  constructor
  · intro i turn path within what
    obtain ⟨later, earlier, rfl⟩ := List.append_of_mem within
    -- Whoever writes or flushes found the handle open, and it still is.
    have ready := (sound_of_run descriptors later run).2.of_io what
    obtain ⟨then_, after, earlierRun, step⟩ := run_before run
    have found : turn.before = then_.state := by
      cases step
      rfl
    have earlierOne := oneAtATime.behind.of_cons
    obtain ⟨fd, open_⟩ := Option.ne_none_iff_exists'.mp (open_of_ready earlierRun descriptors
      earlierOne ready)
    have on := (tidy_of_run tidy earlierRun).on open_
    obtain ⟨fileHandle, has, handle⟩ := Option.bind_eq_some_iff.mp open_
    rw [found]
    exact ⟨fileHandle, fd, has, handle, on⟩
  · intro later i turn earlier path split what j other holds
    subst split
    -- Whoever closes is in progress, and so would be the one at work.
    have mine := (sound_of_run descriptors later run).2.of_closeHandle what
    obtain ⟨then_, after, earlierRun, _⟩ := run_before run
    have earlierOne := oneAtATime.behind.of_cons
    exact other (earlierOne.unique (holds.inProgress earlierRun descriptors) mine)

end Runs

section Demo

/-- A file system of files that are all there, which only keeps account of descriptors. -/
structure FdFs where
  next : Nat
  on : Nat → Option Path
  /-- Numbers from here on have not been given out. -/
  fresh : ∀ n, next ≤ n → on n = none

namespace FdFs

/-- Nothing is open. -/
def empty : FdFs := ⟨3, fun _ => none, fun _ _ => rfl⟩

/-- Give out the next number. -/
def openFile (path : Path) (fs : FdFs) : FdFs where
  next := fs.next + 1
  on := fun n => if n = fs.next then some path else fs.on n
  fresh := by
    intro n above
    rw [if_neg (by omega)]
    exact fs.fresh n (by omega)

/-- Take a number back, for good. -/
def close (fd : Fd) (fs : FdFs) : FdFs where
  next := fs.next
  on := fun n => if n = fd.number then none else fs.on n
  fresh := by
    intro n above
    rw [fs.fresh n above]
    split <;> rfl

/-- A regular file. -/
def stat : Stat := { tickStat 0 with type := .reg }

end FdFs

/-- Its calls, of which only those on descriptors do anything. -/
def fdKernel : Kernel FdFs :=
  { Kernel.uniform fun fs => (.error .enoent, fs) with
    lstat := fun _ _ => .ok FdFs.stat
    openFile := fun path _ fs => (.ok ⟨fs.next, 0⟩, fs.openFile path)
    close := FdFs.close
    pwritev := fun fd data _ fs =>
      (if (fs.on fd.number).isSome then .ok (Fin.last data.length) else .error (.other 9), fs)
    fsync := fun fd fs => (if (fs.on fd.number).isSome then .ok () else .error (.other 9), fs) }

/-- The account is what the calls say it is. -/
def fdDescriptors : Descriptors fdKernel where
  on := FdFs.on
  opened := by
    intro path mode fs fd opened
    obtain rfl := Except.ok.inj opened
    exact ⟨fs.fresh fs.next (Nat.le_refl _), fun n => rfl⟩
  refused := by
    intro path mode fs errno refused
    cases refused
  close := fun _ _ _ => rfl
  pwritev := fun _ _ _ _ => rfl
  fsync := fun _ _ => rfl

/-- Two requests to write one byte to one file. -/
def demoWrites : FileRequests Bool where
  request := fun _ => .write
    { file := [0x66], offset := 0, count := 1, stable := 0, data := [0x61] }
  env := fun _ => default
  res := fun _ => Mem.zero

/-- The run in which each request takes its steps as told. -/
def demoWrites.run (schedule : List Bool) :
    List (Bool × Turn (Server FdFs) FileStage) × Crew Bool (Server FdFs) FileStage Answer :=
  (demoWrites.start fdKernel (.load .empty)).play [] schedule

/-- The second request waits until the first one is done. -/
def demoWrites.inTurn : List (Bool × Turn (Server FdFs) FileStage) :=
  (demoWrites.run (List.replicate 8 false ++ List.replicate 8 true)).1

/-- No handle is looked up while the other request is in progress. -/
theorem demoWrites_oneAtATime : OneAtATime demoWrites.inTurn := by
  -- All steps of the first request come before those of the second.
  have ordered : demoWrites.inTurn.Pairwise fun newer older => older.1 = true → newer.1 = true := by
    decide
  have only : ∀ moment ∈ demoWrites.inTurn,
      moment.2.what.path? = none ∨ moment.2.what.path? = some [0x66] := by decide
  obtain ⟨closing, closes, isFirst, closed⟩ : ∃ moment ∈ demoWrites.inTurn,
      moment.1 = false ∧ moment.2.what = .closeHandle [0x66] := by decide
  intro later i turn earlier path found split what j other inProgress
  obtain ⟨⟨looked, within, _⟩, open_⟩ := inProgress
  rw [split] at ordered only closes
  obtain ⟨_, after, before⟩ := List.pairwise_append.mp ordered
  cases i with
  | false =>
    -- Nothing of the second request comes before a step of the first one.
    obtain rfl : j = true := by simpa using other
    cases (List.pairwise_cons.mp after).1 _ (mem_of_mem_turnsOf within) rfl
  | true =>
    obtain rfl : [0x66] = path := by
      have one := only (true, turn) (by simp)
      simpa [what, FileStage.path?, eq_comm] using one
    obtain rfl : j = false := by simpa using other
    rcases List.mem_append.mp closes with isLater | isEarlier
    · cases isFirst.symm.trans (before closing isLater _ List.mem_cons_self rfl)
    · rcases List.mem_cons.mp isEarlier with rfl | isEarlier
      · cases isFirst
      · -- The first request has closed the handle before that.
        refine open_ closing.2 (List.mem_map.mpr ⟨closing, ?_, rfl⟩) closed
        exact List.mem_filter.mpr ⟨isEarlier, decide_eq_true isFirst⟩

/-- Of two requests in turn, each keeps its descriptor until it closes it. -/
theorem descriptors_keptOpen_inTurn :
    KeptOpen fdDescriptors demoWrites.inTurn ∧
    demoWrites.inTurn.map (fun moment => (moment.1, moment.2.what)) =
      [true, false].flatMap fun i => [.closeHandle [0x66], .look, .share [0x66],
        .completeIo [0x66], .io [0x66], .startIo [0x66] true, .lookUp [0x66] .opened, .look].map
          (i, ·) :=
  ⟨descriptors_keptOpen fdDescriptors demoWrites (Descriptors.tidy_load _) (run_play .nil _)
    demoWrites_oneAtATime, by decide⟩

/-- A request that is done closes the handle that another has just looked up. -/
theorem descriptors_closed_underneath :
    ∃ past crew, Run CrewStep (demoWrites.start fdKernel (.load .empty)) past crew ∧
      ¬KeptOpen fdDescriptors past := by
  refine ⟨(demoWrites.run ([true, true] ++ List.replicate 8 false ++ [true, true])).1,
    (demoWrites.run ([true, true] ++ List.replicate 8 false ++ [true, true])).2, run_play .nil _,
    ?_⟩
  intro kept
  -- The second request finds the handle open, and writes when it is closed.
  have gone :
      ∃ moment ∈ (demoWrites.run ([true, true] ++ List.replicate 8 false ++ [true, true])).1,
      moment.2.what = .io [0x66] ∧ openDescriptor (moment.2.before.handleMap [0x66]) = none := by
    decide
  obtain ⟨⟨i, turn⟩, within, what, closed⟩ := gone
  obtain ⟨fileHandle, fd, has, handle, _⟩ := kept.used i turn [0x66] within what
  rw [has] at closed
  cases closed.symm.trans handle

end Demo

end Dnfs
