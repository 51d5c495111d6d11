import Dnfs.Nfs.StepsLaws
import Dnfs.Os.Clock

/-! Requests that set attributes of one object under one guard. -/

namespace Dnfs

variable {ι σ : Type} {k : Kernel σ}

section Laws

/-- A call that sets attributes of an object, and whether it succeeded. -/
inductive SetCall (k : Kernel σ) (path : Path) : σ → Bool → σ → Prop where
  | chmod (mode : UInt32) (s : σ) :
    SetCall k path s (succeeded (k.chmod path mode s).1) (k.chmod path mode s).2
  | chown (owner group : UInt32) (s : σ) :
    SetCall k path s (succeeded (k.chown path owner group s).1) (k.chown path owner group s).2
  | utimes (times : Option (Timespec × Timespec)) (s : σ) :
    SetCall k path s (succeeded (k.utimes path times s).1) (k.utimes path times s).2

/-- What may be assumed of these calls on an object that is there. -/
structure Stamping (k : Kernel σ) (path : Path) : Prop where
  /-- Each one that succeeds gives the object a later time of change. -/
  later : ∀ s t st, SetCall k path s true t → k.lstat s path = .ok st →
    ∃ st', k.lstat t path = .ok st' ∧ st.stCtim.order < st'.stCtim.order
  /-- One that fails leaves it as it is. -/
  kept : ∀ s t, SetCall k path s false t → k.lstat t path = k.lstat s path

/-- At least one attribute is selected. -/
def Sattr3.Selects (newAttr : Sattr3) : Prop :=
  newAttr.mode.isSet ∨ newAttr.uid.isSet ∨ newAttr.gid.isSet ∨ newAttr.size.isSet ∨
    newAttr.atime.setIt ≠ 0 ∨ newAttr.mtime.setIt ≠ 0

/-- Any number of requests with the same guard for one object. -/
structure Setattrs (ι : Type) where
  object : NfsFh3
  objCtime : Nfstime3
  newAttr : ι → Sattr3
  env : ι → Env
  /-- What each result holds before it is written to. -/
  res : ι → Mem
  selects : ∀ i, (newAttr i).Selects

namespace Setattrs

variable (setattrs : Setattrs ι)

/-- The path of the object. -/
def path : Path := cstr setattrs.object

/-- One request. -/
def args (i : ι) : Setattr3args := ⟨setattrs.object, setattrs.newAttr i, .present setattrs.objCtime⟩

/-- All requests at their beginning. -/
def start (k : Kernel σ) (fs : σ) : Crew ι σ Stage Answer where
  state := fs
  tasks := fun i => nfs3SetattrSteps k (setattrs.env i) (setattrs.args i) (setattrs.res i)

end Setattrs

/-- A step after which the object is not what it was. -/
def Changes (k : Kernel σ) (path : Path) (turn : Turn σ Stage) : Prop :=
  k.lstat turn.after path ≠ k.lstat turn.before path

/-- What the guard promises of a run. -/
structure GuardHolds (k : Kernel σ) (path : Path) (past : List (ι × Turn σ Stage))
    (crew : Crew ι σ Stage Answer) : Prop where
  /-- At most one request changes the object. -/
  once : ∀ i j m n, (i, m) ∈ past → Changes k path m → (j, n) ∈ past → Changes k path n → i = j
  /-- Every other one is told that it was too late. -/
  refused : ∀ i answer, crew.Answered i answer → (∀ turn, (i, turn) ∈ past → ¬Changes k path turn) →
    answer.status = Nfsstat3.nfs3errNotSync.code

end Laws

section Conditions

/-- A call that sets attributes succeeded. -/
def Sets (turn : Turn σ Stage) : Prop := ∃ sys, turn.what = .call ⟨sys, true⟩

/-- Attributes are selected that take a call to set, and no time is selected in an unknown way. -/
def Sattr3.TakesCall (newAttr : Sattr3) : Prop :=
  newAttr.mode.isSet ∨ (newAttr.gid.isSet ∨ newAttr.uid.isSet) ∨
    newAttr.atime.setIt ≤ 2 ∧ newAttr.mtime.setIt ≤ 2 ∧
      (newAttr.atime.setIt ≠ 0 ∨ newAttr.mtime.setIt ≠ 0)

variable [DecidableEq ι]

/-- The requests do not get in each other's way. -/
structure Unmixed (k : Kernel σ) (path : Path) (past : List (ι × Turn σ Stage)) : Prop where
  /-- From looking at the guard to its own first change a request is not disturbed by another. -/
  alone : ∀ i later first middle pre earlier,
    past = later ++ (i, first) :: (middle ++ (i, pre) :: earlier) → pre.what = .preOp → Sets first →
    (∀ moment ∈ middle, moment.1 = i → ¬Sets moment.2) → ∀ moment ∈ middle, ¬Sets moment.2
  /-- The first call of a request succeeds. -/
  first : ∀ i later turn earlier sys, past = later ++ (i, turn) :: earlier →
    turn.what = .call ⟨sys, false⟩ → ∃ other ∈ turnsOf i earlier, Sets other
  /-- The time of the last change can be told from its two words. -/
  fits : ∀ moment ∈ past, ∀ st, k.lstat moment.2.before path = .ok st → st.stCtim.Fits

end Conditions

section Steps

variable {env : Env} {args : Setattr3args} {res : Mem} {path : Path}

/-- A step that looks, or makes one call that sets attributes. -/
def LooksOrSets (k : Kernel σ) (path : Path) (turn : Turn σ Stage) : Prop :=
  ((∀ call, turn.what ≠ .call call) ∧ turn.after = turn.before) ∨
    ∃ sys ok, turn.what = .call ⟨sys, ok⟩ ∧ SetCall k path turn.before ok turn.after

/-- To do nothing is to look. -/
theorem looksOrSets_idle : Idle fun _ turn => LooksOrSets k path turn :=
  fun _ _ _ looks => .inl ⟨looks, rfl⟩

/-- Every call that sets attributes sets those of the object. -/
theorem looksOrSets_settings (path : Path) :
    Settings k (fun _ turn => LooksOrSets k path turn) path where
  chmod := fun mode _ s => .inr ⟨_, _, rfl, .chmod mode s⟩
  chown := fun owner group _ s => .inr ⟨_, _, rfl, .chown owner group s⟩
  utimes := fun times _ s => .inr ⟨_, _, rfl, .utimes times s⟩

/-- Every step of a SETATTR looks, or sets attributes of its object. -/
theorem nfs3SetattrSteps_all (own : List (Turn σ Stage)) :
    (nfs3SetattrSteps k env args res).All (fun _ turn => LooksOrSets k (cstr args.object) turn)
      own := by
  unfold nfs3SetattrSteps
  dsimp only
  split
  · trivial
  · simp only [handlePath_eq]
    apply looksOrSets_idle.look (by simp)
    intro s own
    split
    · split
      · trivial
      · apply all_bind fun own => nfsSetSattr3Steps_all (looksOrSets_settings _)
        intro status own
        exact looksOrSets_idle.look (by simp) fun _ _ => trivial
    · trivial

/-- The object was looked at and had the time that a guard names. -/
def PassedBy (k : Kernel σ) (path : Path) (objCtime : Nfstime3) (own : List (Turn σ Stage)) :
    Prop :=
  ∃ s st, ⟨.preOp, s, s⟩ ∈ own ∧ k.lstat s path = .ok st ∧ st.wccAttr.ctime = objCtime

/-- A guarded SETATTR makes no call before the guard was passed. -/
theorem nfs3SetattrSteps_passed {object : NfsFh3} {newAttr : Sattr3} {objCtime : Nfstime3} :
    (nfs3SetattrSteps k env ⟨object, newAttr, .present objCtime⟩ res).All (fun own turn =>
      (∃ call, turn.what = .call call) → PassedBy k (cstr object) objCtime own) [] := by
  unfold nfs3SetattrSteps
  dsimp only
  split
  · trivial
  · rw [handlePath_eq, Task.all_look]
    intro s
    refine ⟨fun ⟨call, looks⟩ => absurd looks (by simp), ?_⟩
    cases found : k.lstat s (cstr object) with
    | error errno =>
      rw [getPreOpAttr_error found]
      cases errno <;> trivial
    | ok st =>
      rw [getPreOpAttr_ok found]
      dsimp only
      split
      · trivial
      · rename_i passes
        rw [guardMismatch_preStored, not_not] at passes
        have same : objCtime = st.wccAttr.ctime := passes rfl
        have now : PassedBy k (cstr object) objCtime [⟨.preOp, s, s⟩] :=
          ⟨s, st, List.mem_cons_self, found, same.symm⟩
        -- From here on the guard has been passed, whatever is done.
        refine (Task.all_of_kept ?_ _ now).mono fun _ _ passed _ => passed
        intro turn own ⟨s, st, within, rest⟩
        exact ⟨s, st, List.mem_cons_of_mem _ within, rest⟩

/-- The first step of a part is a call. -/
def CallsFirst (own : List (Turn σ Stage)) (own' : List (Turn σ Stage)) : Prop :=
  ∃ newer turn call, own' = newer ++ turn :: own ∧ turn.what = .call call

/-- A call comes before all that follows it. -/
theorem callSteps_callsFirst {α : Type} {sys : Sys} {make : Action σ}
    {next : Except Errno Unit → Steps σ α} {own : List (Turn σ Stage)} :
    ((callSteps sys make).bind next).Ends (fun own' _ => CallsFirst own own') own := by
  intro s
  refine (Task.ends_adding _ [] _).mono ?_
  intro own' _ adding
  obtain ⟨added, rfl⟩ := adding
  exact ⟨added, _, _, rfl, rfl⟩

/-- A time that is set in a known way is found. -/
theorem timeToSet_of_known (stale : Timespec) {time : SetTime} (known : time.setIt ≤ 2) :
    ∃ value, timeToSet stale time = some (decide (time.setIt ≠ 0), value) := by
  cases time with
  | setToClientTime t => exact ⟨_, rfl⟩
  | other setIt noTime =>
    change setIt ≤ 2 at known
    have small : setIt = 0 ∨ setIt = 1 := by
      have := UInt32.le_iff_toNat_le.mp known
      have apart : setIt.toNat ≠ 2 := fun two => noTime (UInt32.toNat_inj.mp two)
      rcases (by simp at this; omega : setIt.toNat = 0 ∨ setIt.toNat = 1) with zero | one
      · exact .inl (UInt32.toNat_inj.mp zero)
      · exact .inr (UInt32.toNat_inj.mp one)
    rcases small with rfl | rfl
    · exact ⟨stale, rfl⟩
    · exact ⟨⟨0, utimeNow⟩, rfl⟩

/-- Attributes that take a call to set are set by one. -/
theorem nfsSetSattr3Steps_callsFirst {stale : Timespec × Timespec} {newAttr : Sattr3}
    (takes : newAttr.TakesCall) (own : List (Turn σ Stage)) :
    (nfsSetSattr3Steps k stale path newAttr).Ends (fun own' _ => CallsFirst own own') own := by
  -- What is not set makes no call, so the next part is first.
  unfold nfsSetSattr3Steps setModeSteps
  by_cases mode : newAttr.mode.isSet = true
  · rw [if_pos mode]
    exact callSteps_callsFirst
  · rw [if_neg mode]
    dsimp only [Task.bind]
    unfold setOwnerSteps
    by_cases owner : newAttr.gid.isSet = true ∨ newAttr.uid.isSet = true
    · rw [if_pos owner]
      exact callSteps_callsFirst
    · rw [if_neg owner]
      dsimp only [Task.bind]
      obtain ⟨knownA, knownM, some_⟩ := (takes.resolve_left mode).resolve_left owner
      obtain ⟨atime, foundA⟩ := timeToSet_of_known stale.1 knownA
      obtain ⟨mtime, foundM⟩ := timeToSet_of_known stale.2 knownM
      rw [foundA, foundM]
      dsimp only
      rw [if_pos (by simpa using some_)]
      unfold setTimesSteps
      split <;> exact callSteps_callsFirst

/-- What an answer to a guarded SETATTR says about its steps. -/
theorem nfs3SetattrSteps_ends (named : args.object ≠ []) (takes : args.newAttributes.TakesCall) :
    (nfs3SetattrSteps k env args res).Ends (fun own answer =>
      answer.status = Nfsstat3.nfs3errNotSync.code ∨
      (∃ turn ∈ own, turn.what = .preOp ∧
        succeeded (k.lstat turn.before (cstr args.object)) = false) ∨
      ∃ s, CallsFirst [⟨.preOp, s, s⟩] own) [] := by
  unfold nfs3SetattrSteps
  dsimp only
  rw [if_neg (by simpa using named), handlePath_eq, Task.ends_look]
  intro s
  -- The guard is compared with what was found, and then calls follow.
  cases found : k.lstat s (cstr args.object) with
  | error errno =>
    rw [getPreOpAttr_error found]
    have failed : ∃ turn ∈ [(⟨.preOp, s, s⟩ : Turn σ Stage)], turn.what = .preOp ∧
        succeeded (k.lstat turn.before (cstr args.object)) = false :=
      ⟨_, List.mem_cons_self, rfl, by simp [found, succeeded]⟩
    cases errno <;> exact .inr (.inl failed)
  | ok st =>
    rw [getPreOpAttr_ok found]
    dsimp only
    split
    · left
      unfold Answer.status
      dsimp only
      rw [putStatus_zero]
    · apply Task.Ends.bind
      refine (nfsSetSattr3Steps_callsFirst takes _).mono ?_
      intro own status first s'
      obtain ⟨newer, turn, call, rfl, what⟩ := first
      exact .inr (.inr ⟨s, _ :: newer, turn, call, rfl, what⟩)

end Steps

section Runs

variable [DecidableEq ι] {setattrs : Setattrs ι} {fs : σ} {past : List (ι × Turn σ Stage)}
  {crew : Crew ι σ Stage Answer}

/-- The place in time of the last change to an object. -/
def changedAt (k : Kernel σ) (path : Path) (s : σ) : Nat :=
  match k.lstat s path with
  | .ok st => st.stCtim.order
  | .error _ => 0

/-- An object that is there was changed when it says. -/
theorem changedAt_ok {path : Path} {s : σ} {st : Stat} (found : k.lstat s path = .ok st) :
    changedAt k path s = st.stCtim.order := by
  simp only [changedAt, found]

/-- What each step does to an object that is there. -/
theorem LooksOrSets.effect {path : Path} (stamping : Stamping k path) {turn : Turn σ Stage}
    {st : Stat}
    (step : LooksOrSets k path turn) (there : k.lstat turn.before path = .ok st) :
    (¬Sets turn ∧ k.lstat turn.after path = .ok st) ∨
      Sets turn ∧
        ∃ st', k.lstat turn.after path = .ok st' ∧ st.stCtim.order < st'.stCtim.order := by
  rcases step with ⟨looks, same⟩ | ⟨sys, ok, what, called⟩
  · left
    rw [same]
    exact ⟨fun ⟨sys, calls⟩ => looks _ calls, there⟩
  · cases ok with
    | true => exact .inr ⟨⟨sys, what⟩, stamping.later _ _ st called there⟩
    | false =>
      left
      rw [stamping.kept _ _ called, there]
      refine ⟨fun ⟨other, calls⟩ => ?_, rfl⟩
      rw [what] at calls
      cases calls

/-- Every step of a run looks, or sets attributes of the object. -/
theorem looksOrSets_of_run (run : Run CrewStep (setattrs.start k fs) past crew) :
    ∀ moment ∈ past, LooksOrSets k setattrs.path moment.2 := by
  intro ⟨i, turn⟩ within
  obtain ⟨later, earlier, rfl⟩ := List.append_of_mem within
  exact spec_of_run (nfs3SetattrSteps_all []) run

/-- Whoever changes the object has looked at it and found the time that the guard names. -/
theorem passed_of_run {later earlier : List (ι × Turn σ Stage)} {i : ι} {turn : Turn σ Stage}
    (run : Run CrewStep (setattrs.start k fs) (later ++ (i, turn) :: earlier) crew)
    (sets : Sets turn) : ∃ s st, (i, ⟨.preOp, s, s⟩) ∈ earlier ∧
      k.lstat s setattrs.path = .ok st ∧ st.wccAttr.ctime = setattrs.objCtime := by
  obtain ⟨sys, what⟩ := sets
  obtain ⟨s, st, looked, found, time⟩ := spec_of_run nfs3SetattrSteps_passed run ⟨_, what⟩
  exact ⟨s, st, mem_of_mem_turnsOf looked, found, time⟩

variable {there : Stat} (stamping : Stamping k setattrs.path)
  (found : k.lstat fs setattrs.path = .ok there)

include stamping found

/-- The object is there throughout. -/
theorem there_of_run (run : Run CrewStep (setattrs.start k fs) past crew) :
    ∀ moment ∈ past, ∃ st, k.lstat moment.2.before setattrs.path = .ok st := by
  intro moment within
  obtain ⟨later, earlier, rfl⟩ := List.append_of_mem within
  refine (linked_of_run run).upTo.related (fun s t => (∃ st, k.lstat s setattrs.path = .ok st) →
    ∃ st, k.lstat t setattrs.path = .ok st) (fun _ h => h)
    (fun _ _ _ first second h => second (first h))
    ?_ ⟨there, found⟩
  intro other inside ⟨st, before⟩
  rcases (looksOrSets_of_run run other (by simp [inside])).effect stamping before
    with kept | changed
  · exact ⟨st, kept.2⟩
  · obtain ⟨_, st', after, _⟩ := changed
    exact ⟨st', after⟩

/-- Every step leaves the object alone, or changes it and moves its time on. -/
theorem effect_of_run (run : Run CrewStep (setattrs.start k fs) past crew) :
    ∀ moment ∈ past,
      (¬Sets moment.2 ∧ ¬Changes k setattrs.path moment.2 ∧
        changedAt k setattrs.path moment.2.after = changedAt k setattrs.path moment.2.before) ∨
      Sets moment.2 ∧ Changes k setattrs.path moment.2 ∧
        changedAt k setattrs.path moment.2.before < changedAt k setattrs.path moment.2.after := by
  intro moment within
  obtain ⟨st, before⟩ := there_of_run stamping found run moment within
  rcases (looksOrSets_of_run run moment within).effect stamping before with kept | changed
  · left
    refine ⟨kept.1, ?_, ?_⟩
    · intro changes
      exact changes (by rw [kept.2, before])
    · rw [changedAt_ok kept.2, changedAt_ok before]
  · obtain ⟨sets, st', after, less⟩ := changed
    right
    rw [changedAt_ok after, changedAt_ok before]
    refine ⟨sets, ?_, less⟩
    intro same
    rw [after, before] at same
    rw [Except.ok.inj same] at less
    exact absurd less (Nat.lt_irrefl _)

/-- Time does not run backwards over any stretch of a run. -/
theorem changedAt_mono {stretch : List (ι × Turn σ Stage)} {s t : σ} (linked : Linked stretch s t)
    (run : Run CrewStep (setattrs.start k fs) past crew)
    (within : ∀ moment ∈ stretch, moment ∈ past) :
    changedAt k setattrs.path s ≤ changedAt k setattrs.path t := by
  refine linked.related (fun s t => changedAt k setattrs.path s ≤ changedAt k setattrs.path t)
    (fun _ => Nat.le_refl _) (fun _ _ _ => Nat.le_trans) ?_
  intro moment inside
  rcases effect_of_run stamping found run moment (within moment inside) with kept | changed
  · exact Nat.le_of_eq kept.2.2.symm
  · exact Nat.le_of_lt changed.2.2

/--
Before the first change by one request no other request has changed the object.

Both were let past the guard at one time of change, and that of the earlier one was gone when the
later one looked.
-/
theorem none_before_first (run : Run CrewStep (setattrs.start k fs) past crew)
    (unmixed : Unmixed k setattrs.path past) {j : ι} {first : Turn σ Stage}
    {later earlier : List (ι × Turn σ Stage)} (split : past = later ++ (j, first) :: earlier)
    (sets : Sets first) (isFirst : ∀ moment ∈ earlier, ¬(moment.1 = j ∧ Sets moment.2)) {i : ι}
    {turn : Turn σ Stage} (within : (i, turn) ∈ earlier) (other : i ≠ j) : ¬Sets turn := by
  intro changed
  subst split
  -- The later request passed its guard, and nobody changed the object from then on.
  obtain ⟨s, st, looked, foundJ, timeJ⟩ := passed_of_run run sets
  obtain ⟨middle, older, rfl⟩ := List.append_of_mem looked
  have quiet := unmixed.alone j later first middle _ older rfl rfl sets
    (fun moment inside mine its => isFirst moment (by simp [inside]) ⟨mine, its⟩)
  have beforeLook : (i, turn) ∈ older := by
    rcases List.mem_append.mp within with inside | inside
    · exact absurd changed (quiet _ inside)
    · rcases List.mem_cons.mp inside with same | inside
      · exact absurd (congrArg Prod.fst same) other
      · exact inside
  obtain ⟨newer, rest, rfl⟩ := List.append_of_mem beforeLook
  -- The earlier request passed its guard, too, and then changed the object.
  have run' : Run CrewStep (setattrs.start k fs) ((later ++ (j, first) :: (middle ++
      (j, ⟨.preOp, s, s⟩) :: newer)) ++ (i, turn) :: rest) crew := by simpa using run
  obtain ⟨s', st', looked', foundI, timeI⟩ := passed_of_run run' changed
  have linked : Linked ((later ++ (j, first) :: middle) ++ (j, ⟨.preOp, s, s⟩) :: (newer ++
      (i, turn) :: rest)) (setattrs.start k fs).state crew.state := by simpa using linked_of_run run
  have fromChange : Linked newer turn.after s := linked.between
  obtain ⟨between, start, rfl⟩ := List.append_of_mem looked'
  have upToChange : Linked between s' turn.before := (linked_of_run run').between
  have before := changedAt_mono stamping found upToChange run (by simp +contextual)
  have after := changedAt_mono stamping found fromChange run (by simp +contextual)
  have raised : changedAt k setattrs.path turn.before < changedAt k setattrs.path turn.after := by
    rcases effect_of_run stamping found run (i, turn) (by simp) with kept | raised
    · exact absurd changed kept.1
    · exact raised.2.2
  -- Yet both found the same time of change.
  have fitsI := unmixed.fits (i, ⟨.preOp, s', s'⟩) (by simp) st' foundI
  have fitsJ := unmixed.fits (j, ⟨.preOp, s, s⟩) (by simp) st foundJ
  have times := timeI.trans timeJ.symm
  have same := fitsI.eq fitsJ (congrArg Nfstime3.tvSec times) (congrArg Nfstime3.tvNsec times)
  rw [changedAt_ok foundI, same] at before
  rw [changedAt_ok foundJ] at after
  omega

end Runs

section Guard

variable [DecidableEq ι] {fs : σ} {past : List (ι × Turn σ Stage)} {crew : Crew ι σ Stage Answer}

/-- The guard holds in every run in which no request gets in another's way. -/
theorem setattr_guarded (k : Kernel σ) (setattrs : Setattrs ι) (stamping : Stamping k setattrs.path)
    {there : Stat} (found : k.lstat fs setattrs.path = .ok there) (named : setattrs.object ≠ [])
    (takes : ∀ i, (setattrs.newAttr i).TakesCall)
    (run : Run CrewStep (setattrs.start k fs) past crew) (unmixed : Unmixed k setattrs.path past) :
    GuardHolds k setattrs.path past crew := by
  have effect := effect_of_run stamping found run
  constructor
  · intro i j m n withinI changesI withinJ changesJ
    by_contra differ
    have setsOf : ∀ moment ∈ past, Changes k setattrs.path moment.2 → Sets moment.2 := by
      intro moment within changes
      rcases effect moment within with kept | changed
      · exact absurd changes kept.2.1
      · exact changed.1
    -- Whichever of the two changed the object first comes before the first change of the other.
    obtain ⟨laterI, ⟨i', firstI⟩, earlierI, splitI, ⟨rfl, setsI⟩, isFirstI⟩ :=
      oldest (P := fun moment : ι × Turn σ Stage => moment.1 = i ∧ Sets moment.2)
        ⟨(i, m), withinI, rfl, setsOf _ withinI changesI⟩
    obtain ⟨laterJ, ⟨j', firstJ⟩, earlierJ, splitJ, ⟨rfl, setsJ⟩, isFirstJ⟩ :=
      oldest (P := fun moment : ι × Turn σ Stage => moment.1 = j ∧ Sets moment.2)
        ⟨(j, n), withinJ, rfl, setsOf _ withinJ changesJ⟩
    have apart : (i', firstI) ≠ (j', firstJ) := fun same => differ (congrArg Prod.fst same)
    rcases one_older (splitI.symm.trans splitJ) apart with older | older
    · exact none_before_first stamping found run unmixed splitI setsI isFirstI older
        (Ne.symm differ) setsJ
    · exact none_before_first stamping found run unmixed splitJ setsJ isFirstJ older differ setsI
  · intro i answer answered unchanged
    have ends := result_of_run run (nfs3SetattrSteps_ends named (takes i)) answered
    rcases ends with refused | failed | called
    · exact refused
    · obtain ⟨turn, within, _, missing⟩ := failed
      obtain ⟨st, here⟩ := there_of_run stamping found run (i, turn) (mem_of_mem_turnsOf within)
      rw [show k.lstat turn.before (cstr (setattrs.args i).object) = .ok st from here] at missing
      cases missing
    · -- A request past its guard made a first call, which changed the object.
      exfalso
      obtain ⟨s, newer, turn, ⟨sys, ok⟩, own, what⟩ := called
      obtain ⟨later, earlier, split, _, behind⟩ := turnsOf_eq_append_cons own
      have within : (i, turn) ∈ past := by simp [split]
      cases ok with
      | true =>
        rcases effect (i, turn) within with kept | changed
        · exact kept.1 ⟨sys, what⟩
        · exact unchanged turn within changed.2.1
      | false =>
        obtain ⟨other, inside, sys', sets⟩ := unmixed.first i later turn earlier sys split what
        rw [behind, List.mem_singleton] at inside
        rw [inside] at sets
        cases sets

end Guard

section Demo

/-- Every change is counted, wherever the object is. -/
theorem tickKernel_stamping (path : Path) : Stamping tickKernel path := by
  -- Every call that sets an attribute is one tick.
  have changes : ∀ s ok t, SetCall tickKernel path s ok t →
      ok = succeeded (tick s).1 ∧ t = (tick s).2 := by
    intro s ok t called
    cases called <;> exact ⟨rfl, rfl⟩
  constructor
  · intro s t st called found
    obtain ⟨ok, rfl⟩ := changes s true t called
    obtain rfl := Except.ok.inj found
    rcases tick_cases s with ⟨_, grown⟩ | ⟨failed, _⟩
    · refine ⟨_, rfl, ?_⟩
      rw [tickStat_order, tickStat_order]
      have := Fin.lt_def.mp grown
      omega
    · rw [failed] at ok
      cases ok
  · intro s t called
    obtain ⟨ok, rfl⟩ := changes s false t called
    rcases tick_cases s with ⟨works, _⟩ | ⟨_, same⟩
    · rw [works] at ok
      cases ok
    · rw [same]

/-- Two requests for other permissions under one guard. -/
def demoSetattrs : Setattrs Bool where
  object := [0x64]
  objCtime := ⟨7, 0⟩
  newAttr := fun i => { (default : Sattr3) with mode := .present (if i then 0o700 else 0o750) }
  env := fun _ => default
  res := fun _ => Mem.zero
  selects := fun _ => .inl rfl

/-- The run in which each request takes its steps as told. -/
def demoSetattrs.run (schedule : List Bool) :
    List (Bool × Turn (Fin 1000) Stage) × Crew Bool (Fin 1000) Stage Answer :=
  (demoSetattrs.start tickKernel 7).play [] schedule

/-- A request that looks after the other is done is refused. -/
theorem setattr_guarded_inTurn :
    GuardHolds tickKernel demoSetattrs.path
      (demoSetattrs.run (List.replicate 3 false ++ [true])).1
      (demoSetattrs.run (List.replicate 3 false ++ [true])).2 ∧
    (demoSetattrs.run (List.replicate 3 false ++ [true])).2.reply true Answer.status
      = some 10002 := by
  refine ⟨?_, by decide⟩
  have changes : ∀ moment ∈ (demoSetattrs.run (List.replicate 3 false ++ [true])).1,
      moment.2.what = .preOp ∨ moment.1 = false := by decide
  refine setattr_guarded tickKernel demoSetattrs (tickKernel_stamping _) rfl (by decide)
    (fun _ => .inl rfl) (run_play .nil _) ⟨?_, ?_, ?_⟩
  · intro i later first middle pre earlier split _ sets quiet moment within itSets
    have ofFalse : ∀ moment ∈ (demoSetattrs.run (List.replicate 3 false ++ [true])).1,
        Sets moment.2 → moment.1 = false := by
      intro moment inside ⟨sys, what⟩
      exact (changes moment inside).resolve_left (by rw [what]; simp)
    have mine := ofFalse (i, first) (by rw [split]; simp) sets
    have its := ofFalse moment (by rw [split]; simp [within]) itSets
    exact quiet moment within (its.trans mine.symm) itSets
  · intro i later turn earlier sys split what
    have known : ∀ moment ∈ (demoSetattrs.run (List.replicate 3 false ++ [true])).1,
        moment.2.what ∈ [.preOp, .call ⟨.chmod, true⟩, .wcc] := by decide
    have kind := known (i, turn) (by rw [split]; simp)
    rw [what] at kind
    simp at kind
  · intro moment _ st found
    rw [← Except.ok.inj found]
    exact tickStat_fits _

/-- Two requests that both look first both change the object. -/
theorem setattr_both_change :
    ∃ past crew, Run CrewStep (demoSetattrs.start tickKernel 7) past crew ∧
      ¬GuardHolds tickKernel demoSetattrs.path past crew := by
  refine ⟨(demoSetattrs.run [false, true, false, true]).1,
    (demoSetattrs.run [false, true, false, true]).2, run_play .nil _, ?_⟩
  intro holds
  have first : ∃ moment ∈ (demoSetattrs.run [false, true, false, true]).1,
      moment.1 = false ∧ tickStat moment.2.after ≠ tickStat moment.2.before := by decide
  have second : ∃ moment ∈ (demoSetattrs.run [false, true, false, true]).1,
      moment.1 = true ∧ tickStat moment.2.after ≠ tickStat moment.2.before := by decide
  obtain ⟨⟨_, m⟩, withinM, rfl, changesM⟩ := first
  obtain ⟨⟨_, n⟩, withinN, rfl, changesN⟩ := second
  have same := holds.once false true m n withinM (fun same => changesM (Except.ok.inj same)) withinN
    (fun same => changesN (Except.ok.inj same))
  cases same

end Demo

end Dnfs
