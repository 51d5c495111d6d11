import Dnfs.Nfs.StepsLaws
import Dnfs.Os.MemFs

/-! Requests that race to create one file. -/

namespace Dnfs

variable {ι σ : Type}

section Laws

/-- What may be assumed of opening a path with creation. -/
structure Creating (k : Kernel σ) (path : Path) : Prop where
  /-- If it succeeds, something is there. -/
  opened : ∀ fs, succeeded (k.openFile path .creat fs).1 = true →
    succeeded (k.lstat (k.openFile path .creat fs).2 path) = true
  /-- What is there already stays as it is. -/
  kept : ∀ fs, succeeded (k.lstat fs path) = true →
    k.lstat (k.openFile path .creat fs).2 path = k.lstat fs path
  closed : ∀ fd fs, k.lstat (k.close fd fs) path = k.lstat fs path

/-- The file must not be there yet, by the mode of the request. -/
def Createhow3.Strict : Createhow3 → Prop
  | .guarded _ => True
  | .exclusive _ => True
  | _ => False

/-- Any number of requests to create one file that must not be there yet. -/
structure Creates (ι : Type) where
  where_ : Diropargs3
  how : ι → Createhow3
  env : ι → Env
  /-- What each result holds before it is written to. -/
  res : ι → Mem
  strict : ∀ i, (how i).Strict
  /-- No two requests have the same verifier. -/
  apart : ∀ i j verf, how i = .exclusive verf → how j = .exclusive verf → i = j

/-- The path the file is created at. -/
def Creates.path (creates : Creates ι) : Path :=
  creates.where_.path

/-- All requests at their beginning. -/
def Creates.start (k : Kernel σ) (creates : Creates ι) (fs : σ) : Crew ι σ Stage Answer where
  state := fs
  tasks := fun i =>
    nfs3CreateSteps k (creates.env i) ⟨creates.where_, creates.how i⟩ (creates.res i)

/-- What exclusive creation promises of a run. -/
structure Exclusive (k : Kernel σ) (contents : Contents k) (path : Path) (fs : σ)
    (past : List (ι × Turn σ Stage)) (crew : Crew ι σ Stage Answer) : Prop where
  /-- At most one request succeeds. -/
  once : ∀ i j a b, crew.Answered i a → a.Ok → crew.Answered j b → b.Ok → i = j
  /-- None does if something was there beforehand. -/
  fresh : succeeded (k.lstat fs path) = true → ∀ i a, crew.Answered i a → ¬a.Ok
  /-- A request that does not succeed leaves what is there as it is. -/
  unchanged : ∀ i a, crew.Answered i a → ¬a.Ok → ∀ turn, (i, turn) ∈ past →
    succeeded (k.lstat turn.before path) = true →
    k.lstat turn.after path = k.lstat turn.before path ∧
      contents.read turn.after = contents.read turn.before

end Laws

section Steps

variable {k : Kernel σ}

/-- The steps behind a success include an opening that succeeded. -/
def OpenedBy (own : List (Turn σ Stage)) : Prop :=
  ∃ turn ∈ own, turn.what = .call ⟨.openFile, true⟩

/-- A CREATE that answers with success has opened the file. -/
theorem nfs3CreateSteps_opened (env : Env) (args : Create3args) (res : Mem)
    (named : args.where_.dir ≠ []) :
    Steps.EndsOk (fun own _ => OpenedBy own) (nfs3CreateSteps k env args res) [] := by
  apply nfs3CreationSteps_endsOk named (by decide)
  intro s₁ s₂ st found s
  cases opened : (k.openFile args.where_.path .creat s).1 with
  | error errno =>
    simp only [opened]
    intro impossible
    cases impossible
  | ok fd =>
    simp only [opened]
    intro t _ s₃ s₄ st' rc res stored _
    refine ⟨⟨.call ⟨.openFile, true⟩, s, (k.openFile args.where_.path .creat s).2⟩, ?_, rfl⟩
    simp [succeeded]

/-- What each step of a CREATE does to the file it creates. -/
structure CreateTurn (k : Kernel σ) (contents : Contents k) (path : Path) (turn : Turn σ Stage) :
    Prop where
  /-- An opening that succeeds leaves something there. -/
  opened : turn.what = .call ⟨.openFile, true⟩ → succeeded (k.lstat turn.after path) = true
  /-- What is there stays as it is. -/
  kept : succeeded (k.lstat turn.before path) = true →
    k.lstat turn.after path = k.lstat turn.before path
  bytes : contents.read turn.after = contents.read turn.before

/-- Every step of a CREATE is one of these. -/
theorem nfs3CreateSteps_all (contents : Contents k) (env : Env) (args : Create3args) (res : Mem)
    (laws : Creating k args.where_.path)
    (own : List (Turn σ Stage)) :
    (nfs3CreateSteps k env args res).All (fun _ turn =>
      CreateTurn k contents args.where_.path turn) own := by
  apply nfs3CreationSteps_all
  · intro own label s looks
    exact ⟨fun calls => absurd calls (looks _), fun _ => rfl, rfl⟩
  · intro own s
    refine ⟨⟨?_, laws.kept s, contents.openFile _ _ _⟩, ?_⟩
    · intro calls
      simp only [Stage.call.injEq, Call.mk.injEq, true_and] at calls
      exact laws.opened s calls
    · -- Behind an opening that succeeded the file is closed again.
      dsimp only
      cases (k.openFile args.where_.path .creat s).1 with
      | error errno => trivial
      | ok fd =>
        intro t
        refine ⟨⟨?_, fun _ => laws.closed fd t, contents.close fd t⟩, trivial⟩
        intro calls
        cases calls

/-- What is there stays there over any stretch of a race. -/
theorem there_of_linked (contents : Contents k) {stretch : List (ι × Turn σ Stage)} {s t : σ}
    {path : Path} (linked : Linked stretch s t)
    (turns : ∀ moment ∈ stretch, CreateTurn k contents path moment.2)
    (there : succeeded (k.lstat s path) = true) : succeeded (k.lstat t path) = true := by
  refine linked.related (fun s t => succeeded (k.lstat s path) = true →
    succeeded (k.lstat t path) = true) (fun _ h => h) (fun _ _ _ first second h => second (first h))
    ?_ there
  intro moment within there
  rw [(turns moment within).kept there]
  exact there

end Steps

section Races

variable [DecidableEq ι] {k : Kernel σ} {creates : Creates ι} {fs : σ}
  {past : List (ι × Turn σ Stage)} {crew : Crew ι σ Stage Answer}

/-- Whenever a request opened the file, nothing was there. -/
def OpensFresh (k : Kernel σ) (path : Path) (past : List (ι × Turn σ Stage)) : Prop :=
  ∀ moment ∈ past, moment.2.what = .call ⟨.openFile, true⟩ →
    succeeded (k.lstat moment.2.before path) = false

/-- Every step of a race does to the file what a step of a CREATE does. -/
theorem createTurn_of_run (contents : Contents k) (laws : Creating k creates.path)
    (run : Run CrewStep (creates.start k fs) past crew) :
    ∀ moment ∈ past, CreateTurn k contents creates.path moment.2 := by
  intro ⟨i, turn⟩ within
  obtain ⟨later, earlier, rfl⟩ := List.append_of_mem within
  have all := nfs3CreateSteps_all contents (creates.env i) ⟨creates.where_, creates.how i⟩
    (creates.res i) laws []
  exact spec_of_run all run

/-- A request that succeeds has opened the file at some moment. -/
theorem opened_of_ok (named : creates.where_.dir ≠ [])
    (run : Run CrewStep (creates.start k fs) past crew) {i : ι} {answer : Answer}
    (answered : crew.Answered i answer) (ok : answer.Ok) :
    ∃ turn, (i, turn) ∈ past ∧ turn.what = .call ⟨.openFile, true⟩ := by
  have ends := result_of_run run (nfs3CreateSteps_opened (creates.env i)
    ⟨creates.where_, creates.how i⟩ (creates.res i) named) answered
  obtain ⟨turn, within, what⟩ := ends ok
  exact ⟨turn, mem_of_mem_turnsOf within, what⟩

/--
Exclusive creation holds in every run in which the file is never opened while it is there.

The condition is what opening with O_EXCL would have ensured by failing.
-/
theorem create_exclusive (k : Kernel σ) (contents : Contents k) (creates : Creates ι)
    (laws : Creating k creates.path) (named : creates.where_.dir ≠ [])
    (run : Run CrewStep (creates.start k fs) past crew)
    (opensFresh : OpensFresh k creates.path past) :
    Exclusive k contents creates.path fs past crew := by
  have turns := createTurn_of_run contents laws run
  have linked := linked_of_run run
  -- Whoever opens the file later finds what an earlier one left.
  have notBoth : ∀ later middle earlier newer older,
      past = later ++ newer :: (middle ++ older :: earlier) →
      newer.2.what = .call ⟨.openFile, true⟩ → older.2.what = .call ⟨.openFile, true⟩ → False := by
    intro later middle earlier newer older split newerOpens olderOpens
    subst split
    have left := (turns older (by simp)).opened olderOpens
    have found := there_of_linked contents linked.between
      (fun moment within => turns moment (by simp [within])) left
    rw [opensFresh newer (by simp) newerOpens] at found
    cases found
  constructor
  · intro i j a b answeredI okI answeredJ okJ
    obtain ⟨turnI, withinI, opensI⟩ := opened_of_ok named run answeredI okI
    obtain ⟨turnJ, withinJ, opensJ⟩ := opened_of_ok named run answeredJ okJ
    by_contra differ
    have apart : (i, turnI) ≠ (j, turnJ) := fun same => differ (congrArg Prod.fst same)
    rcases one_first withinI withinJ apart with ⟨_, _, _, split⟩ | ⟨_, _, _, split⟩
    · exact notBoth _ _ _ _ _ split opensJ opensI
    · exact notBoth _ _ _ _ _ split opensI opensJ
  · intro there i a answered ok
    obtain ⟨turn, within, opens⟩ := opened_of_ok named run answered ok
    obtain ⟨later, earlier, rfl⟩ := List.append_of_mem within
    have found := there_of_linked contents linked.upTo
      (fun moment mem => turns moment (by simp [mem])) there
    rw [opensFresh (i, turn) (by simp) opens] at found
    cases found
  · intro i a _ _ turn within there
    have step := turns (i, turn) within
    exact ⟨step.kept there, step.bytes⟩

end Races

section Demo

/-- Opening with creation in memory leaves a file that was there as it was. -/
theorem memKernel_creating (path : Path) : Creating memKernel path where
  opened := by
    intro fs opens
    change succeeded (MemFs.openFile path .creat fs).1 = true at opens
    show succeeded (MemFs.lstat (MemFs.openFile path .creat fs).2 path) = true
    unfold MemFs.openFile at opens ⊢
    -- A file that is there is opened as it is, otherwise it is made.
    split at opens
    · rename_i st found
      have same : (fs.unless_ .openFile (⟨3, st.stIno.toNat⟩ : Fd) fs).2 = fs :=
        MemFs.unless_keeps id rfl
      simp [same, MemFs.lstat, found, succeeded]
    · unfold MemFs.unless_ at opens ⊢
      split at opens
      · cases opens
      · rename_i works
        simp [works, MemFs.lstat, MemFs.make, succeeded]
  kept := by
    intro fs there
    change succeeded (MemFs.lstat fs path) = true at there
    show MemFs.lstat (MemFs.openFile path .creat fs).2 path = MemFs.lstat fs path
    unfold MemFs.openFile
    split
    · exact MemFs.unless_keeps (fun fs => fs.lstat path) rfl
    · rename_i missing
      simp [MemFs.lstat, missing, succeeded] at there
  closed := fun _ _ => rfl

/-- Two requests with different verifiers for one new file. -/
def demoCreates : Creates Bool where
  where_ := ⟨MemFs.demoDir, [0x67]⟩
  how := fun i => .exclusive (if i then 1 else 0)
  env := fun _ => default
  res := fun _ => Mem.zero
  strict := fun _ => trivial
  apart := by
    intro i j verf first second
    have same := Createhow3.exclusive.inj (first.trans second.symm)
    cases i <;> cases j
    all_goals first | rfl | exact absurd same (by decide)

/-- The race in which each request takes its steps as told. -/
def demoRace (schedule : List Bool) :
    List (Bool × Turn MemFs Stage) × Crew Bool MemFs Stage Answer :=
  (demoCreates.start memKernel (MemFs.demoTree [])).play [] schedule

/-- Both of two requests for one new file succeed, one after the other. -/
theorem create_both_succeed : ∃ past crew a b,
    Run CrewStep (demoCreates.start memKernel (MemFs.demoTree [])) past crew ∧
      crew.Answered false a ∧ a.Ok ∧ crew.Answered true b ∧ b.Ok := by
  have run : Run CrewStep (demoCreates.start memKernel (MemFs.demoTree []))
      (demoRace (List.replicate 6 false ++ List.replicate 6 true)).1
      (demoRace (List.replicate 6 false ++ List.replicate 6 true)).2 := run_play .nil _
  have first : (demoRace (List.replicate 6 false ++ List.replicate 6 true)).2.reply false
      Answer.status = some 0 := by decide
  have second : (demoRace (List.replicate 6 false ++ List.replicate 6 true)).2.reply true
      Answer.status = some 0 := by decide
  obtain ⟨a, answeredA, okA⟩ := Crew.answered_of_reply first
  obtain ⟨b, answeredB, okB⟩ := Crew.answered_of_reply second
  exact ⟨_, _, a, b, run, answeredA, okA, answeredB, okB⟩

/-- One request has looked for the file when the other opens it, which finds it missing too. -/
theorem create_exclusive_overtaken :
    Exclusive memKernel memContents demoCreates.path (MemFs.demoTree [])
      (demoRace ([true, true] ++ List.replicate 6 false)).1
      (demoRace ([true, true] ++ List.replicate 6 false)).2 ∧
    (demoRace ([true, true] ++ List.replicate 6 false)).2.reply false Answer.status = some 0 ∧
    (turnsOf true (demoRace ([true, true] ++ List.replicate 6 false)).1).length = 2 := by
  refine ⟨?_, by decide, by decide⟩
  apply create_exclusive memKernel memContents demoCreates (memKernel_creating _) (by decide)
  · exact run_play .nil _
  · unfold OpensFresh
    decide

end Demo

end Dnfs
