import Dnfs.Nfs.NamespaceLaws
import Dnfs.Nfs.Steps

/-! What the steps of a procedure were when it answers with success. -/

namespace Dnfs

variable {ι σ : Type} {k : Kernel σ} {env : Env}

section Answers

variable {stored : List (UInt64 × Block)} {dirPath : Path} {preAttr : Mem}

/-- The status of an answer is success. -/
def Answer.Ok (answer : Answer) : Prop := answer.res 0 = 0

instance (answer : Answer) : Decidable answer.Ok := inferInstanceAs (Decidable (_ = _))

/-- A request has been answered, with success or not. -/
def Crew.Answered (crew : Crew ι σ Stage Answer) (i : ι) (answer : Answer) : Prop :=
  crew.tasks i = .done answer

/-- Something of the answer to a request, once it was answered. -/
def Crew.reply {β : Type} (crew : Crew ι σ Stage Answer) (i : ι) (read : Answer → β) : Option β :=
  match crew.tasks i with
  | .done answer => some (read answer)
  | .step _ _ _ => none

/-- What is read was read from an answer. -/
theorem Crew.answered_of_reply {β : Type} {crew : Crew ι σ Stage Answer} {i : ι}
    {read : Answer → β} {value : β} (known : crew.reply i read = some value) :
    ∃ answer, crew.Answered i answer ∧ read answer = value := by
  unfold Crew.reply at known
  -- Only a request that was answered has something to be read.
  split at known
  · rename_i answer done
    exact ⟨answer, done, Option.some.inj known⟩
  · cases known

/-- The status of an answer. -/
def Answer.status (answer : Answer) : UInt32 := answer.res 0

/-- Every answer of success is as specified, given the steps behind it. -/
def Steps.EndsOk (spec : List (Turn σ Stage) → Answer → Prop) (steps : Steps σ Answer)
    (own : List (Turn σ Stage)) : Prop :=
  Task.Ends (fun own answer => answer.Ok → spec own answer) steps own

variable {spec : List (Turn σ Stage) → Answer → Prop} {own : List (Turn σ Stage)} {res : Mem}

/-- Looking at something adds a step. -/
theorem Steps.endsOk_look {β : Type} {label : Stage} {read : σ → β} {next : β → Steps σ Answer} :
    Steps.EndsOk spec (.look label read next) own ↔
      ∀ s, Steps.EndsOk spec (next (read s)) (⟨label, s, s⟩ :: own) := Iff.rfl

/-- An answer of success has to be as specified. -/
theorem Steps.endsOk_done {rc : NfsReqResult} :
    Steps.EndsOk spec (.done ⟨rc, res, stored⟩) own ↔
      (res 0 = 0 → spec own ⟨rc, res, stored⟩) := Iff.rfl

/-- An answer with an error is no answer of success. -/
theorem endsOk_refused {status : Nfsstat3} (error : status ≠ .nfs3Ok) (rc : NfsReqResult)
    (stored : List (UInt64 × Block)) :
    Steps.EndsOk spec (.done ⟨rc, putStatus res status, stored⟩) own := by
  rw [Steps.endsOk_done, putStatus_zero]
  intro ok
  exact absurd (Nfsstat3.code_eq_zero.mp ok) error

/-- An error stays an error when the directory is shown behind it. -/
theorem outfailSteps_endsOk {status : Nfsstat3} (error : status ≠ .nfs3Ok) :
    Steps.EndsOk spec (outfailSteps k dirPath preAttr res status) own := by
  unfold outfailSteps
  rw [Steps.endsOk_look]
  -- What is shown comes behind the status, which stays the error.
  intro s
  rw [Steps.endsOk_done, getWccData_status _ _ _ (by decide), putStatus_zero]
  intro ok
  exact absurd (Nfsstat3.code_eq_zero.mp ok) error

/-- What stands at the end of a procedure that shows its directory. -/
theorem endsOk_wcc {at_ : Nat} (rc : Nfsstat3 → NfsReqResult)
    (shown : ∀ s st, k.lstat s dirPath = .ok st → spec (⟨.wcc, s, s⟩ :: own)
      ⟨rc .nfs3Ok, putStatus (wccStored st preAttr res at_) .nfs3Ok, stored⟩) :
    Steps.EndsOk spec (.look .wcc (fun fs => getWccData k fs dirPath preAttr res at_)
      fun returned => .done ⟨rc returned.1, putReturned returned, stored⟩) own := by
  rw [Steps.endsOk_look]
  intro s
  -- The status is that of examining the directory, whatever came before.
  cases found : k.lstat s dirPath with
  | ok st =>
    rw [getWccData_ok found, Steps.endsOk_done]
    intro _
    exact shown s st found
  | error errno =>
    rw [getWccData_error found]
    exact endsOk_refused errno.status_ne_ok _ _

/-- A directory that passed its check was examined in two steps, and kept at the second. -/
theorem checkDirHandleSteps_endsOk {dir : NfsFh3} {next : Mem → Mem → Steps σ Answer}
    (named : dir ≠ [])
    (later : ∀ s₁ s₂ st, k.lstat s₂ (cstr dir) = .ok st →
      Steps.EndsOk spec (next (preStored st Mem.zero) (putStatus res .nfs3Ok))
        [⟨.preOp, s₂, s₂⟩, ⟨.look, s₁, s₁⟩]) :
    Steps.EndsOk spec (checkDirHandleSteps k env dir res next) [] := by
  unfold checkDirHandleSteps checkDirectorySteps
  -- Others may act between the two steps, so each examines a state of its own.
  rw [if_neg (by simpa using named), handlePath_eq, Steps.endsOk_look]
  intro s₁
  by_cases isDir : judgeFileExit k s₁ (cstr dir) FileType.dir.bits = true
  · rw [if_neg (by simpa using isDir), Steps.endsOk_look]
    intro s₂
    cases found : k.lstat s₂ (cstr dir) with
    | ok st =>
      rw [getPreOpAttr_ok found]
      exact later s₁ s₂ st found
    | error errno =>
      rw [getPreOpAttr_error found]
      -- The directory was removed meanwhile, which is an error.
      cases errno <;> exact endsOk_refused (Errno.status_ne_ok _) _ _
  · rw [if_pos isDir]
    exact endsOk_refused (by decide) _ _

/-- The attributes of a new object and of its directory are looked at in two more steps. -/
theorem creationAttributesSteps_endsOk {filePath : Path}
    (shown : ∀ s₁ s₂ st rc res, k.lstat s₂ dirPath = .ok st →
      spec (⟨.wcc, s₂, s₂⟩ :: ⟨.look, s₁, s₁⟩ :: own)
        ⟨rc, putStatus (wccStored st preAttr res 32) .nfs3Ok, stored⟩) :
    Steps.EndsOk spec (creationAttributesSteps k dirPath filePath preAttr res stored) own := by
  unfold creationAttributesSteps
  rw [Steps.endsOk_look]
  intro s₁
  -- What examining the object came to is overwritten.
  rcases nfsSetPostOpAttr k s₁ filePath res 8 with ⟨objStatus, res⟩
  refine endsOk_wcc (fun status => rcOf [objStatus, status]) ?_
  intro s₂ st found
  exact shown s₁ s₂ st _ _ found

/--
A procedure that makes an object and answers with success has made it.

Whatever the making steps left behind is followed by two more steps that look.
-/
theorem nfs3CreationSteps_endsOk {where_ : Diropargs3} {failure : Nfsstat3}
    {make : Path → Steps σ (Except Errno Unit)} (named : where_.dir ≠ [])
    (error : failure ≠ .nfs3Ok)
    (made : ∀ s₁ s₂ st, k.lstat s₂ (cstr where_.dir) = .ok st →
      (make where_.path).Ends (fun own result =>
        succeeded result = true →
        ∀ s₃ s₄ st' rc res stored, k.lstat s₄ (cstr where_.dir) = .ok st' →
          spec (⟨.wcc, s₄, s₄⟩ :: ⟨.look, s₃, s₃⟩ :: own)
            ⟨rc, putStatus (wccStored st' (preStored st Mem.zero) res 32) .nfs3Ok, stored⟩)
        [⟨.preOp, s₂, s₂⟩, ⟨.look, s₁, s₁⟩]) :
    Steps.EndsOk spec (nfs3CreationSteps k env where_ res failure make) [] := by
  unfold nfs3CreationSteps
  apply checkDirHandleSteps_endsOk named
  intro s₁ s₂ st found
  simp only [handlePath_eq]
  apply Task.Ends.bind
  refine (made s₁ s₂ st found).mono ?_
  intro own result later
  -- A failure to make the object is told, so success means it was made.
  cases result with
  | error errno => exact outfailSteps_endsOk error
  | ok _ =>
    apply creationAttributesSteps_endsOk
    intro s₃ s₄ st' rc res shown
    exact later rfl s₃ s₄ st' rc res _ shown

end Answers

section Effects

variable {spec : List (Turn σ Stage) → Turn σ Stage → Prop} {own : List (Turn σ Stage)} {res : Mem}

/-- Steps that make no call and leave the state alone are as specified. -/
def Idle (spec : List (Turn σ Stage) → Turn σ Stage → Prop) : Prop :=
  ∀ own label s, (∀ call, label ≠ .call call) → spec own ⟨label, s, s⟩

/-- Looking is idle. -/
theorem Idle.look {α β : Type} (idle : Idle spec) {label : Stage} {read : σ → β}
    {next : β → Steps σ α} (looks : ∀ call, label ≠ .call call)
    (later : ∀ s own, (next (read s)).All spec own) : (Task.look label read next).All spec own :=
  fun s => ⟨idle own label s looks, later s _⟩

/-- The steps of one part and then those of what follows, whatever it returned. -/
theorem all_bind {α β : Type} {steps : Steps σ α} {next : α → Steps σ β}
    (first : ∀ own, steps.All spec own) (later : ∀ result own, (next result).All spec own) :
    (Task.bind steps next).All spec own :=
  (first own).bind (Task.ends_of_forall (fun own result => later result own) steps own)

/-- A call is the one step it makes. -/
theorem callSteps_all {sys : Sys} {make : Action σ}
    (calls : ∀ own s, spec own ⟨.call ⟨sys, succeeded (make s).1⟩, s, (make s).2⟩) :
    (callSteps sys make).All spec own :=
  fun s => ⟨calls own s, trivial⟩

/-- Checking a directory only looks. -/
theorem checkDirHandleSteps_all (idle : Idle spec) {dir : NfsFh3}
    {next : Mem → Mem → Steps σ Answer}
    (later : ∀ preAttr res own, (next preAttr res).All spec own) :
    (checkDirHandleSteps k env dir res next).All spec own := by
  unfold checkDirHandleSteps checkDirectorySteps
  -- Each check ends the request, or what follows is as specified.
  split
  · trivial
  · apply idle.look (by simp)
    intro s own
    split
    · trivial
    · apply idle.look (by simp)
      intro s own
      split
      · exact later _ _ _
      · trivial

/-- Showing the directory behind an error only looks. -/
theorem outfailSteps_all (idle : Idle spec) {dirPath : Path} {preAttr : Mem} {status : Nfsstat3} :
    (outfailSteps k dirPath preAttr res status).All spec own :=
  idle.look (by simp) fun _ _ => trivial

/-- Describing a new object only looks. -/
theorem creationAttributesSteps_all (idle : Idle spec) {dirPath filePath : Path} {preAttr : Mem}
    {stored : List (UInt64 × Block)} :
    (creationAttributesSteps k dirPath filePath preAttr res stored).All spec own :=
  idle.look (by simp) fun _ _ => idle.look (by simp) fun _ _ => trivial

/-- Making an object changes nothing but by the steps that make it. -/
theorem nfs3CreationSteps_all (idle : Idle spec) {where_ : Diropargs3} {failure : Nfsstat3}
    {make : Path → Steps σ (Except Errno Unit)}
    (makes : ∀ own, (make where_.path).All spec own) :
    (nfs3CreationSteps k env where_ res failure make).All spec own := by
  unfold nfs3CreationSteps
  apply checkDirHandleSteps_all idle
  intro preAttr res own
  simp only [handlePath_eq]
  apply all_bind makes
  intro result own
  cases result with
  | error errno => exact outfailSteps_all idle
  | ok _ => exact creationAttributesSteps_all idle

/-- Removing an object changes nothing but by the steps that remove it. -/
theorem nfs3RemovalSteps_all (idle : Idle spec) {object : Diropargs3} {judgeMode : UInt32}
    {unmake : Path → Steps σ (Except Errno Unit)}
    (unmakes : ∀ own, (unmake object.path).All spec own) :
    (nfs3RemovalSteps k env object res judgeMode unmake).All spec own := by
  unfold nfs3RemovalSteps
  apply checkDirHandleSteps_all idle
  intro preAttr res own
  simp only [handlePath_eq]
  apply idle.look (by simp)
  intro s own
  -- What is not there is not removed.
  split
  · exact outfailSteps_all idle
  · apply all_bind unmakes
    intro result own
    cases result with
    | error errno => exact outfailSteps_all idle
    | ok _ => exact idle.look (by simp) fun _ _ => trivial

/-- Linking changes nothing but by the call that links. -/
theorem nfs3LinkSteps_all (idle : Idle spec) {args : Link3args} (links : ∀ src dst own s,
      spec own ⟨.call ⟨.link, succeeded (k.link src dst s).1⟩, s, (k.link src dst s).2⟩) :
    (nfs3LinkSteps k env args res).All spec own := by
  unfold nfs3LinkSteps
  split
  · trivial
  · apply checkDirHandleSteps_all idle
    intro preAttr res own
    apply all_bind fun own => callSteps_all fun own s => links _ _ own s
    intro result own
    -- Whatever linking came to, file and directory are only looked at.
    cases result with
    | error errno | ok _ =>
      exact idle.look (by simp) fun _ _ => idle.look (by simp) fun _ _ => trivial

/-- The three calls that set attributes are as specified. -/
structure Settings (k : Kernel σ) (spec : List (Turn σ Stage) → Turn σ Stage → Prop)
    (path : Path) : Prop where
  chmod : ∀ mode own s,
    spec own ⟨.call ⟨.chmod, succeeded (k.chmod path mode s).1⟩, s, (k.chmod path mode s).2⟩
  chown : ∀ owner group own s,
    spec own ⟨.call ⟨.chown, succeeded (k.chown path owner group s).1⟩, s,
    (k.chown path owner group s).2⟩
  utimes : ∀ times own s,
    spec own ⟨.call ⟨.utimes, succeeded (k.utimes path times s).1⟩, s, (k.utimes path times s).2⟩

/-- Setting attributes makes no other calls. -/
theorem nfsSetSattr3Steps_all {stale : Timespec × Timespec} {filePath : Path} {newAttr : Sattr3}
    (sets : Settings k spec filePath) :
    (nfsSetSattr3Steps k stale filePath newAttr).All spec own := by
  -- Each part makes its own call or none.
  have mode : ∀ own, (setModeSteps k filePath newAttr).All spec own := by
    intro own
    unfold setModeSteps
    split
    · exact callSteps_all fun own s => sets.chmod _ own s
    · trivial
  have owner : ∀ own, (setOwnerSteps k filePath newAttr).All spec own := by
    intro own
    unfold setOwnerSteps
    split
    · exact callSteps_all fun own s => sets.chown _ _ own s
    · trivial
  have times : ∀ atime mtime own, (setTimesSteps k filePath atime mtime).All spec own := by
    intro atime mtime own
    unfold setTimesSteps
    split <;> exact callSteps_all fun own s => sets.utimes _ own s
  unfold nfsSetSattr3Steps
  -- The first call that fails is the last step.
  apply all_bind mode
  intro result own
  cases result with
  | error errno => trivial
  | ok _ =>
    apply all_bind owner
    intro result own
    cases result with
    | error errno => trivial
    | ok _ =>
      dsimp only
      split
      · split
        · apply all_bind fun own => times _ _ own
          intro result own
          cases result <;> trivial
        · trivial
      · trivial

/-- Making a node makes that call and sets attributes. -/
theorem nfs3MknodSteps_all (idle : Idle spec) {args : Mknod3args}
    (makes : ∀ mode dev own s, spec own ⟨.call ⟨.mknod,
      succeeded (k.mknod args.where_.path mode dev s).1⟩, s,
      (k.mknod args.where_.path mode dev s).2⟩)
    (sets : Settings k spec args.where_.path) :
    (nfs3MknodSteps k env args res).All spec own := by
  -- All checks come before the call, and only look.
  unfold nfs3MknodSteps
  dsimp only
  split
  · trivial
  · simp only [handlePath_eq]
    apply idle.look (by simp)
    intro s own
    split
    · trivial
    · split
      · trivial
      · apply idle.look (by simp)
        intro s own
        split
        · unfold mknodSteps
          dsimp only
          split
          · trivial
          · -- The attributes are set on the node that was made, by the calls of its path.
            apply all_bind fun own => callSteps_all fun own s => makes _ _ own s
            intro result own
            cases result with
            | error errno => exact idle.look (by simp) fun _ _ => trivial
            | ok _ =>
              apply all_bind fun own => nfsSetSattr3Steps_all sets
              intro status own
              cases status <;> first | exact creationAttributesSteps_all idle | trivial
        · trivial

end Effects

end Dnfs
