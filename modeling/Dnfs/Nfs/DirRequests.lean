import Dnfs.Nfs.StepsLaws

/-! The requests that change one directory, and when they look at it. -/

namespace Dnfs

variable {σ : Type} {k : Kernel σ} {env : Env}

/-- A request that makes, removes or links a name. -/
inductive DirRequest where
  | create (args : Create3args)
  | mkdir (args : Mkdir3args)
  | symlink (args : Symlink3args)
  | mknod (args : Mknod3args)
  | remove (args : Remove3args)
  | rmdir (args : Rmdir3args)
  | link (args : Link3args)

namespace DirRequest

/-- The handle of the directory. -/
def dir : DirRequest → NfsFh3
  | create args => args.where_.dir
  | mkdir args => args.where_.dir
  | symlink args => args.where_.dir
  | mknod args => args.where_.dir
  | remove args => Diropargs3.dir args
  | rmdir args => Diropargs3.dir args
  | link args => args.link.dir

/-- No handle of the request is empty. -/
def Named : DirRequest → Prop
  | link args => args.file ≠ [] ∧ args.link.dir ≠ []
  | request => request.dir ≠ []

/-- The procedure, one call at a time. -/
def steps (k : Kernel σ) (env : Env) (res : Mem) : DirRequest → Steps σ Answer
  | create args => nfs3CreateSteps k env args res
  | mkdir args => nfs3MkdirSteps k env args res
  | symlink args => nfs3SymlinkSteps k env args res
  | mknod args => nfs3MknodSteps k env args res
  | remove args => nfs3RemoveSteps k env args res
  | rmdir args => nfs3RmdirSteps k env args res
  | link args => nfs3LinkSteps k env args res

/-- Where the arm of success holds the attributes of the directory. -/
def wccAt : DirRequest → Nat
  | remove _ => 2
  | rmdir _ => 2
  | link _ => 26
  | _ => 32

/-- The attributes of the directory that an answer of success carries. -/
def dirWcc (request : DirRequest) (answer : Answer) : WccData :=
  loadWccData answer.res request.wccAt

end DirRequest

section Calls

/-- One call of those that such requests make. -/
inductive Called (k : Kernel σ) : σ → σ → Prop where
  | openFile (path : Path) (s : σ) : Called k s (k.openFile path .creat s).2
  | close (fd : Fd) (s : σ) : Called k s (k.close fd s)
  | mkdir (path : Path) (mode : UInt32) (s : σ) : Called k s (k.mkdir path mode s).2
  | symlink (target : Bytes) (path : Path) (s : σ) : Called k s (k.symlink target path s).2
  | mknod (path : Path) (mode : UInt32) (dev : UInt64) (s : σ) :
    Called k s (k.mknod path mode dev s).2
  | remove (path : Path) (s : σ) : Called k s (k.remove path s).2
  | rmdir (path : Path) (s : σ) : Called k s (k.rmdir path s).2
  | link (src dst : Path) (s : σ) : Called k s (k.link src dst s).2
  | chmod (path : Path) (mode : UInt32) (s : σ) : Called k s (k.chmod path mode s).2
  | chown (path : Path) (owner group : UInt32) (s : σ) : Called k s (k.chown path owner group s).2
  | utimes (path : Path) (times : Option (Timespec × Timespec)) (s : σ) :
    Called k s (k.utimes path times s).2

/-- A step that looks, or makes one of these calls. -/
def LooksOrCalls (k : Kernel σ) (turn : Turn σ Stage) : Prop :=
  turn.after = turn.before ∨ Called k turn.before turn.after

/-- Looking is one of the two. -/
theorem looksOrCalls_idle : Idle fun _ turn => LooksOrCalls k turn :=
  fun _ _ _ _ => .inl rfl

/-- Every call that sets attributes is one. -/
theorem looksOrCalls_settings (path : Path) :
    Settings k (fun _ turn => LooksOrCalls k turn) path where
  chmod := fun mode _ s => .inr (.chmod path mode s)
  chown := fun owner group _ s => .inr (.chown path owner group s)
  utimes := fun times _ s => .inr (.utimes path times s)

/-- Every step of such a request looks, or makes one of these calls. -/
theorem DirRequest.steps_all (k : Kernel σ) (env : Env) (request : DirRequest) (res : Mem)
    (own : List (Turn σ Stage)) :
    (request.steps k env res).All (fun _ turn => LooksOrCalls k turn) own := by
  cases request with
  | create args =>
    apply nfs3CreationSteps_all looksOrCalls_idle
    intro own s
    refine ⟨.inr (.openFile _ s), ?_⟩
    dsimp only
    -- Only a file that was opened is closed again.
    cases (k.openFile args.where_.path .creat s).1 with
    | error errno => trivial
    | ok fd => exact fun t => ⟨.inr (.close fd t), trivial⟩
  | mkdir args =>
    unfold steps nfs3MkdirSteps
    apply nfs3CreationSteps_all looksOrCalls_idle
    exact fun _ => callSteps_all fun _ s => .inr (.mkdir _ _ s)
  | symlink args =>
    unfold steps nfs3SymlinkSteps
    apply nfs3CreationSteps_all looksOrCalls_idle
    exact fun _ => callSteps_all fun _ s => .inr (.symlink _ _ s)
  | mknod args =>
    exact nfs3MknodSteps_all looksOrCalls_idle (fun mode dev _ s => .inr (.mknod _ mode dev s))
      (looksOrCalls_settings _)
  | remove args =>
    unfold steps nfs3RemoveSteps
    apply nfs3RemovalSteps_all looksOrCalls_idle
    exact fun _ => callSteps_all fun _ s => .inr (.remove _ s)
  | rmdir args =>
    unfold steps nfs3RmdirSteps
    apply nfs3RemovalSteps_all looksOrCalls_idle
    exact fun _ => callSteps_all fun _ s => .inr (.rmdir _ s)
  | link args => exact nfs3LinkSteps_all looksOrCalls_idle fun src dst _ s => .inr (.link src dst s)

end Calls

section Looking

variable {dir : Path} {st : Stat} {own : List (Turn σ Stage)} {res : Mem}

/-- The attributes of the directory were kept at some step. -/
def KeptBy (k : Kernel σ) (dir : Path) (st : Stat) (own : List (Turn σ Stage)) : Prop :=
  ∃ middle s older, own = middle ++ ⟨.preOp, s, s⟩ :: older ∧ k.lstat s dir = .ok st

/-- Later steps do not undo this. -/
theorem KeptBy.append (kept : KeptBy k dir st own) (added : List (Turn σ Stage)) :
    KeptBy k dir st (added ++ own) := by
  obtain ⟨middle, s, older, rfl, found⟩ := kept
  exact ⟨added ++ middle, s, older, by rw [List.append_assoc], found⟩

/--
An answer shows the directory as it was at two of the steps behind it.

The second of them is the last step.
-/
def Bracketed (k : Kernel σ) (dir : Path) (at_ : Nat) (own : List (Turn σ Stage))
    (answer : Answer) : Prop :=
  ∃ s st older st₀, own = ⟨.wcc, s, s⟩ :: older ∧ KeptBy k dir st₀ older ∧
    k.lstat s dir = .ok st ∧
    loadWccData answer.res at_ = ⟨.present st₀.wccAttr, .present (st.fattr3 ⟨0, 0⟩)⟩

/-- The step that shows the directory comes last. -/
theorem bracketed_wcc {at_ : Nat} {stored : List (UInt64 × Block)} (rc : Nfsstat3 → NfsReqResult)
    (kept : KeptBy k dir st own) (behind : 0 < at_) :
    Steps.EndsOk (Bracketed k dir at_)
      (.look .wcc (fun fs => getWccData k fs dir (preStored st Mem.zero) res at_)
        fun returned => .done ⟨rc returned.1, putReturned returned, stored⟩) own := by
  apply endsOk_wcc
  intro s st' found
  refine ⟨s, st', own, st, rfl, kept, found, ?_⟩
  rw [loadWccData_congr (putStatus_agree _ _ behind), loadWccData_wccStored,
    loadPreOpAttr_preStored]

/-- Behind a part of a procedure the attributes are still kept. -/
theorem KeptBy.endsOk_bind {α : Type} {spec : List (Turn σ Stage) → Answer → Prop}
    {part : Steps σ α} {next : α → Steps σ Answer} (kept : KeptBy k dir st own)
    (later : ∀ result own, KeptBy k dir st own → Steps.EndsOk spec (next result) own) :
    Steps.EndsOk spec (part.bind next) own := by
  apply Task.Ends.bind
  refine (Task.ends_adding part [] own).mono ?_
  intro own' result adding
  obtain ⟨added, rfl⟩ := adding
  exact later result _ (kept.append added)

/-- What is shown of a new object comes just before its directory. -/
theorem creationAttributesSteps_bracketed {filePath : Path} {stored : List (UInt64 × Block)}
    (kept : KeptBy k dir st own) :
    Steps.EndsOk (Bracketed k dir 32)
      (creationAttributesSteps k dir filePath (preStored st Mem.zero) res stored) own := by
  unfold creationAttributesSteps
  rw [Steps.endsOk_look]
  intro s
  rcases nfsSetPostOpAttr k s filePath res 8 with ⟨objStatus, res⟩
  exact bracketed_wcc (fun status => rcOf [objStatus, status]) (kept.append [_]) (by decide)

/-- Making an object shows the directory from before and after. -/
theorem nfs3CreationSteps_bracketed {where_ : Diropargs3} {failure : Nfsstat3}
    {make : Path → Steps σ (Except Errno Unit)} (named : where_.dir ≠ [])
    (error : failure ≠ .nfs3Ok) :
    Steps.EndsOk (Bracketed k (cstr where_.dir) 32)
      (nfs3CreationSteps k env where_ res failure make) [] := by
  unfold nfs3CreationSteps
  apply checkDirHandleSteps_endsOk named
  intro s₁ s₂ st found
  simp only [handlePath_eq]
  refine KeptBy.endsOk_bind ⟨[], s₂, _, rfl, found⟩ ?_
  intro result own kept
  cases result with
  | error errno => exact outfailSteps_endsOk error
  | ok _ => exact creationAttributesSteps_bracketed kept

/-- Removing an object shows the directory from before and after. -/
theorem nfs3RemovalSteps_bracketed {object : Diropargs3} {judgeMode : UInt32}
    {unmake : Path → Steps σ (Except Errno Unit)} (named : object.dir ≠ []) :
    Steps.EndsOk (Bracketed k (cstr object.dir) 2)
      (nfs3RemovalSteps k env object res judgeMode unmake) [] := by
  unfold nfs3RemovalSteps
  apply checkDirHandleSteps_endsOk named
  intro s₁ s₂ st found
  simp only [handlePath_eq]
  rw [Steps.endsOk_look]
  intro s₃
  split
  · exact outfailSteps_endsOk (by decide)
  · refine KeptBy.endsOk_bind ⟨[_], s₂, _, rfl, found⟩ ?_
    intro result own kept
    cases result with
    | error errno => exact outfailSteps_endsOk (by decide)
    | ok _ => exact bracketed_wcc (fun status => rcOf [status]) kept (by decide)

/-- Linking shows the directory from before and after. -/
theorem nfs3LinkSteps_bracketed {args : Link3args} (fileNamed : args.file ≠ [])
    (named : args.link.dir ≠ []) :
    Steps.EndsOk (Bracketed k (cstr args.link.dir) 26) (nfs3LinkSteps k env args res) [] := by
  unfold nfs3LinkSteps
  rw [if_neg (by simpa using fileNamed)]
  apply checkDirHandleSteps_endsOk named
  intro s₁ s₂ st found
  simp only [handlePath_eq]
  refine KeptBy.endsOk_bind ⟨[], s₂, _, rfl, found⟩ ?_
  intro result own kept
  cases result with
  | error errno =>
    -- The error that was stored first stays in place.
    rw [Steps.endsOk_look]
    intro s₃
    rw [Steps.endsOk_look]
    intro s₄
    rw [Steps.endsOk_done, getWccData_status _ _ _ (by decide),
      nfsSetPostOpAttr_status _ _ (by decide), putStatus_zero]
    intro ok
    exact absurd (Nfsstat3.code_eq_zero.mp ok) (by decide)
  | ok _ =>
    rw [Steps.endsOk_look]
    intro s₃
    exact bracketed_wcc (fun status => rcOf [_, status]) (kept.append [_]) (by decide)

/-- A node could not be made. -/
def MknodFailed (own : List (Turn σ Stage)) : Prop :=
  ∃ turn ∈ own, turn.what = .call ⟨.mknod, false⟩

/--
Making a node shows the directory from before and after, unless the node could not be made.

Then the status that says so is overwritten by that of looking at the directory.
-/
theorem nfs3MknodSteps_bracketed {args : Mknod3args} (named : args.where_.dir ≠ []) :
    Steps.EndsOk (fun own answer =>
        MknodFailed own ∨ Bracketed k (cstr args.where_.dir) 32 own answer)
      (nfs3MknodSteps k env args res) [] := by
  unfold nfs3MknodSteps
  dsimp only
  rw [if_neg (by simpa using named), handlePath_eq, Steps.endsOk_look]
  intro s₁
  split
  · exact endsOk_refused (by decide) _ _
  · split
    · exact endsOk_refused (by decide) _ _
    · rw [Steps.endsOk_look]
      intro s₂
      cases found : k.lstat s₂ (cstr args.where_.dir) with
      | error errno =>
        rw [getPreOpAttr_error found]
        cases errno <;> exact endsOk_refused (Errno.status_ne_ok _) _ _
      | ok st =>
        rw [getPreOpAttr_ok found]
        dsimp only
        unfold mknodSteps
        dsimp only
        split
        · exact endsOk_refused (by decide) _ _
        · rename_i mode dev newAttr node
          intro s₃
          have kept : KeptBy k (cstr args.where_.dir) st
              [⟨.preOp, s₂, s₂⟩, ⟨.look, s₁, s₁⟩] := ⟨[], s₂, _, rfl, found⟩
          -- Only where the node can not be made is the directory not shown with what was kept.
          cases made : (k.mknod args.where_.path mode dev s₃).1 with
          | error errno =>
            dsimp only [Task.bind]
            rw [made]
            intro s₄ _
            exact .inl ⟨_, List.mem_cons_of_mem _ List.mem_cons_self, rfl⟩
          | ok _ =>
            dsimp only [Task.bind]
            rw [made]
            refine KeptBy.endsOk_bind (kept.append [_]) ?_
            intro status own kept
            cases status with
            | nfs3Ok =>
              refine (creationAttributesSteps_bracketed kept).mono ?_
              exact fun _ _ shown ok => .inr (shown ok)
            | _ => exact endsOk_refused (by decide) _ _

/-- A request that makes no node has no such exception. -/
theorem Steps.EndsOk.orFailed {at_ : Nat} {steps : Steps σ Answer}
    (ends : Steps.EndsOk (Bracketed k dir at_) steps own) :
    Steps.EndsOk (fun own answer => MknodFailed own ∨ Bracketed k dir at_ own answer) steps own :=
  ends.mono fun _ _ shown ok => .inr (shown ok)

/-- Every such request shows the directory, with that one exception. -/
theorem DirRequest.steps_bracketed (request : DirRequest) (res : Mem) (named : request.Named) :
    Steps.EndsOk (fun own answer =>
        MknodFailed own ∨ Bracketed k (cstr request.dir) request.wccAt own answer)
      (request.steps k env res) [] := by
  -- Only MKNOD makes use of the exception.
  cases request with
  | create args =>
    unfold steps nfs3CreateSteps
    exact (nfs3CreationSteps_bracketed named (by decide)).orFailed
  | mkdir args =>
    unfold steps nfs3MkdirSteps
    exact (nfs3CreationSteps_bracketed named (by decide)).orFailed
  | symlink args =>
    unfold steps nfs3SymlinkSteps
    exact (nfs3CreationSteps_bracketed named (by decide)).orFailed
  | mknod args => exact nfs3MknodSteps_bracketed named
  | remove args =>
    unfold steps nfs3RemoveSteps
    exact (nfs3RemovalSteps_bracketed named).orFailed
  | rmdir args =>
    unfold steps nfs3RmdirSteps
    exact (nfs3RemovalSteps_bracketed named).orFailed
  | link args => exact (nfs3LinkSteps_bracketed named.1 named.2).orFailed

end Looking

end Dnfs
