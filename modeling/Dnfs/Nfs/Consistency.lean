import Dnfs.Nfs.DirRequests
import Dnfs.Os.Clock

/-! Whether a client may trust its cache when a request says what the directory was before. -/

namespace Dnfs

variable {ι σ : Type} {dir : Path}

section Laws

/-- A directory is as it was: its attributes, and its records. -/
def DirSame (k : Kernel σ) (dir : Path) (s t : σ) : Prop :=
  k.lstat t dir = k.lstat s dir ∧ k.scandir t dir = k.scandir s dir

/--
What may be assumed of the time of the last change to a directory.

Whatever changes the directory also moves that time on, even if the directory is replaced.
-/
structure Clocked (k : Kernel σ) (dir : Path) where
  stamp : σ → Nat
  shown : ∀ s st, k.lstat s dir = .ok st → st.stCtim.order = stamp s
  ticks : ∀ s t, Called k s t → (stamp t = stamp s ∧ DirSame k dir s t) ∨ stamp s < stamp t

/-- Any number of requests on one directory. -/
structure DirRequests (ι : Type) (dir : Path) where
  request : ι → DirRequest
  env : ι → Env
  /-- What each result holds before it is written to. -/
  res : ι → Mem
  same : ∀ i, cstr (request i).dir = dir

/-- All requests at their beginning. -/
def DirRequests.start (k : Kernel σ) (requests : DirRequests ι dir) (fs : σ) :
    Crew ι σ Stage Answer where
  state := fs
  tasks := fun i => (requests.request i).steps k (requests.env i) (requests.res i)

variable [DecidableEq ι]

/--
Attributes from before that match a cache are a promise.

A client has cached the directory in some state before its request took a step. If the answer is a
success, and says that the directory was just so before, then nothing but the request itself changed
the directory from then until it was looked at for the attributes from after.
-/
def Usable (k : Kernel σ) (requests : DirRequests ι dir) (fs : σ) (past : List (ι × Turn σ Stage))
    (crew : Crew ι σ Stage Answer) : Prop :=
  ∀ i answer later earlier cached st, crew.Answered i answer → answer.Ok →
    past = later ++ earlier → turnsOf i earlier = [] → Linked earlier fs cached →
    k.lstat cached dir = .ok st →
    ((requests.request i).dirWcc answer).before = .present st.wccAttr →
    ∃ newer turn span st', later = newer ++ (i, turn) :: span ∧ turn.what = .wcc ∧
      k.lstat turn.before dir = .ok st' ∧
      ((requests.request i).dirWcc answer).after = .present (st'.fattr3 ⟨0, 0⟩) ∧
      ∀ moment ∈ span, moment.1 ≠ i → DirSame k dir moment.2.before moment.2.after

/-- No request gets in the way of another. -/
structure Orderly (k : Kernel σ) (dir : Path) (past : List (ι × Turn σ Stage)) : Prop where
  /-- No other request changes the directory between the two looks of a request at it. -/
  alone : ∀ i later wcc middle pre earlier,
    past = later ++ (i, wcc) :: (middle ++ (i, pre) :: earlier) →
    wcc.what = .wcc → pre.what = .preOp →
    ∀ moment ∈ middle, moment.1 ≠ i → DirSame k dir moment.2.before moment.2.after
  /-- The time of the last change can be told from its two words. -/
  fits : ∀ moment ∈ past, ∀ st, k.lstat moment.2.before dir = .ok st → st.stCtim.Fits
  /-- Every node that is to be made can be made. -/
  made : ∀ moment ∈ past, moment.2.what ≠ .call ⟨.mknod, false⟩

end Laws

section Runs

variable [DecidableEq ι] {k : Kernel σ} {requests : DirRequests ι dir} {fs : σ}
  {past : List (ι × Turn σ Stage)} {crew : Crew ι σ Stage Answer}

/-- Every step leaves the directory and its stamp alone, or moves the stamp on. -/
theorem Clocked.ticks_of_run (clocked : Clocked k dir)
    (run : Run CrewStep (requests.start k fs) past crew) :
    ∀ moment ∈ past, (clocked.stamp moment.2.after = clocked.stamp moment.2.before ∧
        DirSame k dir moment.2.before moment.2.after) ∨
      clocked.stamp moment.2.before < clocked.stamp moment.2.after := by
  intro ⟨i, turn⟩ within
  obtain ⟨later, earlier, rfl⟩ := List.append_of_mem within
  have all := DirRequest.steps_all k (requests.env i) (requests.request i) (requests.res i) []
  rcases spec_of_run all run with looked | called
  · left
    dsimp only
    rw [looked]
    exact ⟨rfl, rfl, rfl⟩
  · exact clocked.ticks _ _ called

/-- Attributes that look the same on the wire have the same stamp, if their times fit. -/
theorem Clocked.stamp_eq (clocked : Clocked k dir) {s t : σ} {st st' : Stat}
    (found : k.lstat s dir = .ok st) (found' : k.lstat t dir = .ok st')
    (fits : st.stCtim.Fits) (fits' : st'.stCtim.Fits) (same : st.wccAttr = st'.wccAttr) :
    clocked.stamp s = clocked.stamp t := by
  have times := congrArg WccAttr.ctime same
  have equal : st.stCtim = st'.stCtim :=
    fits.eq fits' (congrArg Nfstime3.tvSec times) (congrArg Nfstime3.tvNsec times)
  rw [← clocked.shown s st found, ← clocked.shown t st' found', equal]

/-- Where the two looks of a request that succeeded lie in the history. -/
theorem looks_of_ok (named : ∀ i, (requests.request i).Named)
    (run : Run CrewStep (requests.start k fs) past crew)
    (made : ∀ moment ∈ past, moment.2.what ≠ .call ⟨.mknod, false⟩) {i : ι} {answer : Answer}
    (answered : crew.Answered i answer) (ok : answer.Ok) :
    ∃ later wcc middle pre earlier st st',
      past = later ++ (i, wcc) :: (middle ++ (i, pre) :: earlier) ∧
      wcc.what = .wcc ∧ pre.what = .preOp ∧ k.lstat pre.before dir = .ok st ∧
      k.lstat wcc.before dir = .ok st' ∧
      (requests.request i).dirWcc answer = ⟨.present st.wccAttr, .present (st'.fattr3 ⟨0, 0⟩)⟩ := by
  have ends := result_of_run run
    ((requests.request i).steps_bracketed (requests.res i) (named i)) answered
  rcases ends ok with failed | bracketed
  · obtain ⟨turn, within, what⟩ := failed
    exact absurd what (made _ (mem_of_mem_turnsOf within))
  · obtain ⟨s, st', own, st, behind, kept, found', shown⟩ := bracketed
    obtain ⟨newer, t, older, rfl, found⟩ := kept
    rw [requests.same i] at found found'
    obtain ⟨later, rest, rfl, own, _⟩ := turnsOf_eq_cons behind
    obtain ⟨middle, earlier, rfl, _, _⟩ := turnsOf_eq_append_cons own
    exact ⟨later, _, middle, _, earlier, st, st', rfl, rfl, rfl, found, found', shown⟩

/-- Attributes from before can be trusted in every run in which no request gets in another's way. -/
theorem wcc_usable (clocked : Clocked k dir) (requests : DirRequests ι dir)
    (named : ∀ i, (requests.request i).Named)
    (run : Run CrewStep (requests.start k fs) past crew) (orderly : Orderly k dir past) :
    Usable k requests fs past crew := by
  intro i answer later earlier cached st answered ok split unstarted upTo found matches_
  obtain ⟨newer, wcc, middle, pre, older, st₀, st', parts, wccWhat, preWhat, foundPre, foundWcc,
    shown⟩ := looks_of_ok named run orderly.made answered ok
  rw [shown] at matches_ ⊢
  have same : st₀.wccAttr = st.wccAttr := BoolUnion.present.inj matches_
  -- The first look is no step of the time before the request.
  have absent : (i, pre) ∉ earlier := fun within => turnsOf_eq_nil.mp unstarted _ within rfl
  have whole : (newer ++ (i, wcc) :: middle) ++ (i, pre) :: older = later ++ earlier := by
    rw [← split, parts, List.append_assoc, List.cons_append]
  obtain ⟨gap, rfl, rfl⟩ := newer_of_not_older whole absent
  have linked := linked_of_run run
  rw [split, ← whole] at linked
  refine ⟨newer, wcc, middle ++ (i, pre) :: gap, st', by simp, wccWhat, foundWcc, rfl, ?_⟩
  intro moment within other
  rcases List.mem_append.mp within with between | before
  · exact orderly.alone i newer wcc middle pre _ parts wccWhat preWhat moment between other
  rcases List.mem_cons.mp before with rfl | before
  · exact absurd rfl other
  -- From the cache to the first look the stamp is the same, so nothing changed the directory.
  obtain ⟨u, fromStart, fromCache⟩ := linked.upTo.split
  obtain rfl := fromStart.unique upTo
  obtain ⟨first, inGap, isFirst⟩ := fromCache.starts (List.ne_nil_of_mem before)
  have fits := orderly.fits first (by rw [parts]; simp [inGap]) st (by rw [isFirst]; exact found)
  have fitsPre := orderly.fits (i, pre) (by rw [parts]; simp) st₀ foundPre
  have equal := clocked.stamp_eq foundPre found fitsPre fits same
  refine fromCache.still (fun other inside => ?_) (Nat.le_of_eq equal) moment before
  exact clocked.ticks_of_run run other (by rw [parts]; simp [inside])

end Runs

section Demo

/-- Where the directory is makes no difference to a count of changes. -/
def tickClocked (dir : Path) : Clocked tickKernel dir where
  stamp := fun n => n.val * 2 ^ 64
  shown := by
    intro n st found
    rw [← Except.ok.inj found]
    exact tickStat_order n
  ticks := by
    intro s t called
    have ticked : ∀ n : Fin 1000, ((tick n).2.val * 2 ^ 64 = n.val * 2 ^ 64 ∧
        DirSame tickKernel dir n (tick n).2) ∨ n.val * 2 ^ 64 < (tick n).2.val * 2 ^ 64 := by
      intro n
      rcases tick_cases n with ⟨_, grown⟩ | ⟨_, same⟩
      · right
        have := Fin.lt_def.mp grown
        omega
      · left
        rw [same]
        exact ⟨rfl, rfl, rfl⟩
    cases called with
    | openFile | close => exact .inl ⟨rfl, rfl, rfl⟩
    | _ => exact ticked _

/-- Two requests for new directories in one directory. -/
def demoMkdirs : DirRequests Bool [0x64] where
  request := fun i => .mkdir ⟨⟨[0x64], if i then [0x61] else [0x62]⟩, default⟩
  env := fun _ => default
  res := fun _ => Mem.zero
  same := fun _ => rfl

/-- The run in which each request takes its steps as told. -/
def demoMkdirs.run (schedule : List Bool) :
    List (Bool × Turn (Fin 1000) Stage) × Crew Bool (Fin 1000) Stage Answer :=
  (demoMkdirs.start tickKernel 7).play [] schedule

/-- Both requests name a directory. -/
theorem demoMkdirs_named (i : Bool) : (demoMkdirs.request i).Named := by
  show ([0x64] : Bytes) ≠ []
  decide

/-- One request after the other. -/
def demoMkdirs.inTurn : List Bool := List.replicate 5 false ++ List.replicate 5 true

/-- Of two requests in turn, both have attributes from before that can be trusted. -/
theorem wcc_usable_inTurn :
    Usable tickKernel demoMkdirs 7 (demoMkdirs.run demoMkdirs.inTurn).1
      (demoMkdirs.run demoMkdirs.inTurn).2 ∧
    ∀ i, (demoMkdirs.run demoMkdirs.inTurn).2.reply i (fun answer =>
        (answer.status, ((demoMkdirs.request i).dirWcc answer).before))
      = some (0, .present (tickStat (if i then 8 else 7)).wccAttr) := by
  refine ⟨?_, by decide⟩
  have ordered : (demoMkdirs.run demoMkdirs.inTurn).1.Pairwise
      fun newer older => older.1 = true → newer.1 = true := by decide
  refine wcc_usable (tickClocked _) demoMkdirs demoMkdirs_named (run_play .nil _) ⟨?_, ?_, ?_⟩
  · -- A step between two steps of one request is a step of that request.
    intro i later wcc middle pre earlier split _ _ moment within other
    rw [split] at ordered
    obtain ⟨newest, rest⟩ := List.pairwise_cons.mp (List.pairwise_append.mp ordered).2.1
    have before := newest moment (by simp [within])
    have after := (List.pairwise_append.mp rest).2.2 moment within (i, pre) List.mem_cons_self
    exact absurd (Bool.eq_iff_iff.mpr ⟨before, after⟩) other
  · intro moment _ st found
    rw [← Except.ok.inj found]
    exact tickStat_fits _
  · decide

/-- A request that looks, lets another make its directory, and then goes on. -/
def demoMkdirs.between : List Bool :=
  [false, false] ++ List.replicate 5 true ++ List.replicate 3 false

/-- A directory made by another between the two looks goes unnoticed. -/
theorem wcc_hides_change :
    ∃ past crew, Run CrewStep (demoMkdirs.start tickKernel 7) past crew ∧
      ¬Usable tickKernel demoMkdirs 7 past crew := by
  refine ⟨(demoMkdirs.run demoMkdirs.between).1, (demoMkdirs.run demoMkdirs.between).2,
    run_play .nil _, ?_⟩
  intro usable
  have known : (demoMkdirs.run demoMkdirs.between).2.reply false (fun answer =>
      (answer.status, ((demoMkdirs.request false).dirWcc answer).before))
        = some (0, .present (tickStat 7).wccAttr) := by decide
  obtain ⟨answer, answered, shown⟩ := Crew.answered_of_reply known
  obtain ⟨ok, before⟩ := Prod.mk.inj shown
  obtain ⟨newer, turn, span, st, split, what, _, _, quiet⟩ :=
    usable false answer _ [] 7 (tickStat 7) answered ok (List.append_nil _).symm rfl rfl rfl before
  -- Only the last step looks for the attributes from after.
  have only : ∀ moment ∈ (demoMkdirs.run demoMkdirs.between).1.tail,
      moment.1 = false → moment.2.what ≠ .wcc := by decide
  have changed : ∃ moment ∈ (demoMkdirs.run demoMkdirs.between).1.tail,
      moment.1 ≠ false ∧ tickStat moment.2.after ≠ tickStat moment.2.before := by decide
  rw [split] at only changed
  cases newer with
  | cons first newer => exact only (false, turn) (by simp) rfl what
  | nil =>
    obtain ⟨moment, within, other, differs⟩ := changed
    exact differs (Except.ok.inj (quiet moment within other).1)

end Demo

end Dnfs
