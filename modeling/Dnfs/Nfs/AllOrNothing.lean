import Dnfs.Nfs.SattrLaws
import Dnfs.Os.MemFs
import Dnfs.Os.Metadata

/-! What is left of an object's attributes when setting them fails half way. -/

namespace Dnfs

variable {σ : Type}

section Steps

variable (k : Kernel σ) (stale : Timespec × Timespec) (path : Path) (newAttr : Sattr3)

/-- The owner to set, or what leaves it alone. -/
def Sattr3.newUid : UInt32 := if newAttr.uid.isSet then fieldOf 0 newAttr.uid else noId

/-- The group to set, or what leaves it alone. -/
def Sattr3.newGid : UInt32 := if newAttr.gid.isSet then fieldOf 0 newAttr.gid else noId

/-- Owner or group are to be set. -/
def Sattr3.setsOwner : Bool := newAttr.gid.isSet ∨ newAttr.uid.isSet

/-- What becomes of the first call, if it is made. -/
def Sattr3.chmods (fs : σ) : Except Errno Unit × σ :=
  if newAttr.mode.isSet then k.chmod path (fieldOf 0 newAttr.mode) fs else (.ok (), fs)

/-- What becomes of the second, if it is made. -/
def Sattr3.chowns (fs : σ) : Except Errno Unit × σ :=
  if newAttr.setsOwner then k.chown path newAttr.newUid newAttr.newGid fs else (.ok (), fs)

/-- What becomes of the third, if it is made, or nothing if the times to set are not valid. -/
def Sattr3.stamps (fs : σ) : Option (Except Errno Unit × σ) :=
  match timeToSet stale.1 newAttr.atime, timeToSet stale.2 newAttr.mtime with
  | some (setAtime, atime), some (setMtime, mtime) =>
    some (if setAtime ∨ setMtime then k.utimes path (timesArgument atime mtime) fs
      else (.ok (), fs))
  | _, _ => none

/-- The steps that set attributes, in order. -/
inductive SattrStep where
  | mode | owner | times
  deriving DecidableEq, Repr

/-- The step that fails, if one does. -/
def Sattr3.failsAt (fs : σ) : Option SattrStep :=
  if ¬succeeded (newAttr.chmods k path fs).1 then some .mode
  else if ¬succeeded (newAttr.chowns k path (newAttr.chmods k path fs).2).1 then some .owner
  else
    match newAttr.stamps k stale path (newAttr.chowns k path (newAttr.chmods k path fs).2).2 with
    | some (.ok _, _) => none
    | _ => some .times

/-- The first step is the call, and what it leaves. -/
theorem setMode_eq (os : Os σ) : ∃ calls, setMode k os path newAttr =
    ((newAttr.chmods k path os.fs).1, ⟨(newAttr.chmods k path os.fs).2, calls⟩) := by
  unfold setMode Sattr3.chmods
  by_cases set : newAttr.mode.isSet = true
  · rw [if_pos set, if_pos set]
    exact ⟨_, rfl⟩
  · rw [if_neg set, if_neg set]
    exact ⟨os.calls, rfl⟩

/-- Setting the owner is what its call does. -/
theorem setOwner_eq (os : Os σ) : ∃ calls, setOwner k os path newAttr =
    ((newAttr.chowns k path os.fs).1, ⟨(newAttr.chowns k path os.fs).2, calls⟩) := by
  unfold setOwner Sattr3.chowns
  by_cases set : newAttr.gid.isSet = true ∨ newAttr.uid.isSet = true
  · have sets : newAttr.setsOwner = true := decide_eq_true set
    rw [if_pos set, if_pos sets]
    exact ⟨_, rfl⟩
  · have leaves : ¬newAttr.setsOwner = true := by simpa [Sattr3.setsOwner] using set
    rw [if_neg set, if_neg leaves]
    exact ⟨os.calls, rfl⟩

/-- Setting the times is what its call does. -/
theorem setTimes_eq (os : Os σ) (atime mtime : Timespec) :
    ∃ calls, setTimes k os path atime mtime =
      ((k.utimes path (timesArgument atime mtime) os.fs).1,
        ⟨(k.utimes path (timesArgument atime mtime) os.fs).2, calls⟩) := by
  unfold setTimes timesArgument
  by_cases now : atime.tvNsec = utimeNow ∨ mtime.tvNsec = utimeNow
  · rw [if_pos now, if_pos now]
    exact ⟨_, rfl⟩
  · rw [if_neg now, if_neg now]
    exact ⟨_, rfl⟩

/-- Where a failed setting of attributes leaves the system: the steps before took effect. -/
inductive LeftAt (k : Kernel σ) (path : Path) (newAttr : Sattr3) (fs : σ) :
    Option SattrStep → σ → Prop where
  | mode {errno after} : newAttr.chmods k path fs = (.error errno, after) →
    LeftAt k path newAttr fs (some .mode) after
  | owner {moded errno after} : newAttr.chmods k path fs = (.ok (), moded) →
    newAttr.chowns k path moded = (.error errno, after) →
    LeftAt k path newAttr fs (some .owner) after
  -- The times are looked at only after both calls.
  | badTimes {moded owned} : newAttr.chmods k path fs = (.ok (), moded) →
    newAttr.chowns k path moded = (.ok (), owned) → LeftAt k path newAttr fs (some .times) owned
  | times {moded owned times errno after} : newAttr.chmods k path fs = (.ok (), moded) →
    newAttr.chowns k path moded = (.ok (), owned) →
    k.utimes path times owned = (.error errno, after) → LeftAt k path newAttr fs (some .times) after

/-- Setting attributes fails if and only if a step does, and leaves the system there. -/
theorem nfsSetSattr3_left (os : Os σ) :
    ((nfsSetSattr3 k stale os path newAttr).1 = .nfs3Ok ∧
        newAttr.failsAt k stale path os.fs = none) ∨
      ((nfsSetSattr3 k stale os path newAttr).1 ≠ .nfs3Ok ∧
        LeftAt k path newAttr os.fs (newAttr.failsAt k stale path os.fs)
          (nfsSetSattr3 k stale os path newAttr).2.fs) := by
  -- The cases follow the steps, each of which is made only if those before succeeded.
  obtain ⟨calls, moded⟩ := setMode_eq k path newAttr os
  rcases chmodded : newAttr.chmods k path os.fs with ⟨errno | _, fs₁⟩ <;> rw [chmodded] at moded
  · right
    simp only [nfsSetSattr3, moded, Sattr3.failsAt, chmodded, succeeded]
    exact ⟨by simp, .mode chmodded⟩
  · obtain ⟨calls, owned⟩ := setOwner_eq k path newAttr ⟨fs₁, calls⟩
    rcases chowned : newAttr.chowns k path fs₁ with ⟨errno | _, fs₂⟩ <;> rw [chowned] at owned
    · right
      simp only [nfsSetSattr3, moded, owned, Sattr3.failsAt, chmodded, chowned, succeeded]
      exact ⟨by simp, .owner chmodded chowned⟩
    · simp only [nfsSetSattr3, moded, owned, Sattr3.failsAt, chmodded, chowned, succeeded,
        Sattr3.stamps, not_true_eq_false, if_false]
      have bad : LeftAt k path newAttr os.fs (some .times) fs₂ := .badTimes chmodded chowned
      rcases timeToSet stale.1 newAttr.atime with _ | ⟨setAtime, atime⟩
      · exact .inr ⟨by simp, bad⟩
      · rcases timeToSet stale.2 newAttr.mtime with _ | ⟨setMtime, mtime⟩
        · exact .inr ⟨by simp, bad⟩
        · by_cases asked : setAtime = true ∨ setMtime = true
          · obtain ⟨calls, stamped⟩ := setTimes_eq k path ⟨fs₂, calls⟩ atime mtime
            simp only [if_pos asked, stamped]
            rcases ran : k.utimes path (timesArgument atime mtime) fs₂ with ⟨errno | _, fs₃⟩
            · exact .inr ⟨by simp, .times chmodded chowned ran⟩
            · exact .inl ⟨rfl, rfl⟩
          · left
            simp [if_neg asked]

end Steps

section Kept

variable {k : Kernel σ} {path : Path} {clock : σ → Timespec} {newAttr : Sattr3} {fs after : σ}
  {st : Stat}

/-- The attributes that setting them is about. -/
def Stat.attributes (st : Stat) : Fin 4096 × UInt32 × UInt32 × Timespec × Timespec :=
  (st.perm, st.stUid, st.stGid, st.stAtim, st.stMtim)

/-- Permission bits by those an object of a type had, and by the owner and group it is given. -/
abbrev Leaves := FileType → Fin 4096 → UInt32 → UInt32 → Fin 4096

/-- A call that sets owner and group leaves these permission bits, and may so clear some. -/
def ChownLeaves (k : Kernel σ) (path : Path) (leaves : Leaves) : Prop :=
  ∀ s st owner group after, k.lstat s path = .ok st → st.type ≠ .lnk →
    (k.chown path owner group s).1 = .ok () →
    k.lstat (k.chown path owner group s).2 path = .ok after →
      after.perm = leaves st.type st.perm owner group

/-- The object once its permissions were set, if they are to be set. -/
def Sattr3.moded (newAttr : Sattr3) (st : Stat) : Stat :=
  if newAttr.mode.isSet then st.chmod (fieldOf 0 newAttr.mode) else st

/-- The object once its owner and group were set after that, if they are to be set. -/
def Sattr3.owned (newAttr : Sattr3) (leaves : Leaves) (st : Stat) : Stat :=
  if newAttr.setsOwner then
    (newAttr.moded st).chown newAttr.newUid newAttr.newGid
      (leaves st.type (newAttr.moded st).perm newAttr.newUid newAttr.newGid)
  else newAttr.moded st

/-- The permissions to set are those the object has. -/
def Sattr3.KeepsMode (newAttr : Sattr3) (st : Stat) : Prop :=
  newAttr.mode.isSet = true → Fin.ofNat 4096 (fieldOf 0 newAttr.mode).toNat = st.perm

/-- Owner and group to set are those the object has, and setting them leaves its permissions. -/
def Sattr3.KeepsOwner (newAttr : Sattr3) (leaves : Leaves) (st : Stat) : Prop :=
  if newAttr.setsOwner then
    (newAttr.newUid = noId ∨ newAttr.newUid = st.stUid) ∧
      (newAttr.newGid = noId ∨ newAttr.newGid = st.stGid) ∧
      leaves st.type (newAttr.moded st).perm newAttr.newUid newAttr.newGid = st.perm
  else newAttr.KeepsMode st

/-- A new mode leaves the attributes alone just if it is the old one. -/
theorem moded_attributes (newAttr : Sattr3) (st : Stat) :
    (newAttr.moded st).attributes = st.attributes ↔ newAttr.KeepsMode st := by
  unfold Sattr3.moded Sattr3.KeepsMode
  by_cases set : newAttr.mode.isSet = true
  · simp [set, Stat.attributes, Stat.chmod]
  · simp [set]

/-- Setting the permissions sets nothing else. -/
theorem moded_others (newAttr : Sattr3) (st : Stat) :
    (newAttr.moded st).stUid = st.stUid ∧ (newAttr.moded st).stGid = st.stGid ∧
      (newAttr.moded st).stAtim = st.stAtim ∧ (newAttr.moded st).stMtim = st.stMtim := by
  unfold Sattr3.moded
  split <;> exact ⟨rfl, rfl, rfl, rfl⟩

/-- New owners leave the attributes alone just if they are the old ones. -/
theorem owned_attributes (newAttr : Sattr3) (leaves : Leaves) (st : Stat) :
    (newAttr.owned leaves st).attributes = st.attributes ↔ newAttr.KeepsOwner leaves st := by
  unfold Sattr3.owned Sattr3.KeepsOwner
  by_cases set : newAttr.setsOwner = true
  · -- Owner and group are left alone or replaced, the permissions are what the call leaves.
    have replaced : ∀ id had : UInt32, (if id = noId then had else id) = had ↔
        id = noId ∨ id = had := by
      intro id had
      by_cases alone : id = noId <;> simp [alone]
    obtain ⟨uid, gid, atim, mtim⟩ := moded_others newAttr st
    simp only [if_pos set, Stat.attributes, Stat.chown, uid, gid, atim, mtim, Prod.mk.injEq,
      replaced, and_true]
    exact ⟨fun ⟨perm, uid, gid⟩ => ⟨uid, gid, perm⟩, fun ⟨uid, gid, perm⟩ => ⟨perm, uid, gid⟩⟩
  · rw [if_neg set, if_neg set]
    exact moded_attributes newAttr st

section Calls

variable (laws : Metadata k path clock)
include laws

/-- The call that sets the permissions leaves the object with them, unless it is a link. -/
theorem lstat_chmods (found : k.lstat fs path = .ok st)
    (notLink : st.type ≠ .lnk) (ran : newAttr.chmods k path fs = (.ok (), after)) :
    ∃ ctim, k.lstat after path = .ok ((newAttr.moded st).stamped ctim) := by
  unfold Sattr3.chmods at ran
  unfold Sattr3.moded
  by_cases set : newAttr.mode.isSet = true
  · rw [if_pos set] at ran ⊢
    obtain ⟨ctim, left⟩ := laws.chmod fs st (fieldOf 0 newAttr.mode) found
    rw [ran, if_pos ⟨rfl, notLink⟩] at left
    exact ⟨ctim, left⟩
  · rw [if_neg set] at ran ⊢
    obtain rfl : fs = after := (Prod.mk.inj ran).2
    exact ⟨st.stCtim, found⟩

/-- The call that sets owner and group leaves the object with them, unless it is a link. -/
theorem lstat_chowns {leaves : Leaves} {moded : σ}
    (leaving : ChownLeaves k path leaves) {ctim : Timespec}
    (found : k.lstat moded path = .ok ((newAttr.moded st).stamped ctim)) (notLink : st.type ≠ .lnk)
    (ran : newAttr.chowns k path moded = (.ok (), after)) :
    ∃ ctim, k.lstat after path = .ok ((newAttr.owned leaves st).stamped ctim) := by
  -- The first call does not make a link of the object.
  have type : ((newAttr.moded st).stamped ctim).type = st.type := by
    unfold Sattr3.moded
    split <;> rfl
  have notLink' : ((newAttr.moded st).stamped ctim).type ≠ .lnk := by rwa [type]
  unfold Sattr3.chowns at ran
  unfold Sattr3.owned
  by_cases set : newAttr.setsOwner = true
  · rw [if_pos set] at ran ⊢
    obtain ⟨perm, ctim', -, left⟩ := laws.chown moded _ newAttr.newUid newAttr.newGid found
    have bits := leaving moded _ newAttr.newUid newAttr.newGid _ found notLink' (by rw [ran]) left
    rw [ran, if_pos ⟨rfl, notLink'⟩] at left bits
    rw [type] at bits
    refine ⟨ctim', left.trans (congrArg Except.ok ?_)⟩
    obtain rfl : perm = _ := bits
    rfl
  · rw [if_neg set] at ran ⊢
    obtain rfl : moded = after := (Prod.mk.inj ran).2
    exact ⟨ctim, found⟩

/-- The object is as it was, but for the time of change. -/
def Untouched (k : Kernel σ) (path : Path) (st : Stat) (fs : σ) : Prop :=
  ∃ ctim, k.lstat fs path = .ok (st.stamped ctim)

/-- A call that fails, or is made on a link, leaves the object as it was. -/
theorem untouched_chmods {result : Except Errno Unit}
    (found : Untouched k path st fs) (ran : newAttr.chmods k path fs = (result, after))
    (idle : succeeded result = false ∨ st.type = .lnk) : Untouched k path st after := by
  obtain ⟨ctim, found⟩ := found
  unfold Sattr3.chmods at ran
  by_cases set : newAttr.mode.isSet = true
  · rw [if_pos set] at ran
    obtain ⟨ctim', left⟩ := laws.chmod fs _ (fieldOf 0 newAttr.mode) found
    rw [ran, if_neg fun did => idle.elim (fun failed => by simp [failed] at did) did.2] at left
    exact ⟨ctim', left⟩
  · rw [if_neg set] at ran
    obtain rfl : fs = after := (Prod.mk.inj ran).2
    exact ⟨ctim, found⟩

/-- A change of owners that fails, or is of a link, touches nothing. -/
theorem untouched_chowns {result : Except Errno Unit}
    (found : Untouched k path st fs) (ran : newAttr.chowns k path fs = (result, after))
    (idle : succeeded result = false ∨ st.type = .lnk) : Untouched k path st after := by
  obtain ⟨ctim, found⟩ := found
  unfold Sattr3.chowns at ran
  by_cases set : newAttr.setsOwner = true
  · rw [if_pos set] at ran
    obtain ⟨perm, ctim', -, left⟩ := laws.chown fs _ newAttr.newUid newAttr.newGid found
    rw [ran, if_neg fun did => idle.elim (fun failed => by simp [failed] at did) did.2] at left
    exact ⟨ctim', left⟩
  · rw [if_neg set] at ran
    obtain rfl : fs = after := (Prod.mk.inj ran).2
    exact ⟨ctim, found⟩

/-- Times that can not be set touch nothing. -/
theorem untouched_utimes (found : Untouched k path st fs)
    {times : Option (Timespec × Timespec)} {errno : Errno}
    (fails : k.utimes path times fs = (.error errno, after)) : Untouched k path st after := by
  obtain ⟨ctim, found⟩ := found
  obtain ⟨ctim', left⟩ := laws.utimes fs _ times found
  rw [fails, if_neg fun did => by simp [succeeded] at did] at left
  exact ⟨ctim', left⟩

/-- What an object is once a step failed, where a link passes every call on. -/
def Sattr3.leftBy (newAttr : Sattr3) (leaves : Leaves) (st : Stat) : SattrStep → Stat
  | .mode => st
  | .owner => if st.type = .lnk then st else newAttr.moded st
  | .times => if st.type = .lnk then st else newAttr.owned leaves st

/-- A step that fails leaves what the steps before it made of the object. -/
theorem untouched_left {leaves : Leaves} {step : SattrStep}
    (leaving : ChownLeaves k path leaves) (found : k.lstat fs path = .ok st)
    (left : LeftAt k path newAttr fs (some step) after) :
    Untouched k path (newAttr.leftBy leaves st step) after := by
  -- Both calls before the times took effect, or passed on to what a link leads to.
  have before : Untouched k path st fs := ⟨st.stCtim, found⟩
  have throughMode : ∀ {moded}, newAttr.chmods k path fs = (.ok (), moded) →
      Untouched k path (if st.type = .lnk then st else newAttr.moded st) moded := by
    intro moded ran
    by_cases link : st.type = .lnk
    · rw [if_pos link]
      exact untouched_chmods laws before ran (.inr link)
    · rw [if_neg link]
      exact lstat_chmods laws found link ran
  have throughOwner : ∀ {moded owned}, newAttr.chmods k path fs = (.ok (), moded) →
      newAttr.chowns k path moded = (.ok (), owned) →
      Untouched k path (if st.type = .lnk then st else newAttr.owned leaves st) owned := by
    intro moded owned ran next
    have mid := throughMode ran
    by_cases link : st.type = .lnk
    · rw [if_pos link] at mid ⊢
      exact untouched_chowns laws mid next (.inr link)
    · rw [if_neg link] at mid ⊢
      obtain ⟨ctim, mid⟩ := mid
      exact lstat_chowns laws leaving mid link next
  cases left with
  | mode fails => exact untouched_chmods laws before fails (.inl rfl)
  | owner ran fails => exact untouched_chowns laws (throughMode ran) fails (.inl rfl)
  | badTimes ran next => exact throughOwner ran next
  | times ran next fails => exact untouched_utimes laws (throughOwner ran next) fails

end Calls

/-- What the step that fails, if one does, asks for so that the object is as it was. -/
def Sattr3.Unchanged (newAttr : Sattr3) (leaves : Leaves) (st : Stat) : Option SattrStep → Prop
  | some .owner => newAttr.KeepsMode st
  | some .times => newAttr.KeepsOwner leaves st
  | _ => True

/-- The object is as it was just in that case, or if it is a link. -/
theorem leftBy_attributes (newAttr : Sattr3) (leaves : Leaves) (st : Stat) (step : SattrStep) :
    (newAttr.leftBy leaves st step).attributes = st.attributes ↔
      st.type = .lnk ∨ newAttr.Unchanged leaves st (some step) := by
  by_cases link : st.type = .lnk
  · refine iff_of_true ?_ (.inl link)
    cases step <;> simp [Sattr3.leftBy, link]
  · cases step with
    | mode => simp [Sattr3.leftBy, Sattr3.Unchanged]
    | owner =>
      simp only [Sattr3.leftBy, link, false_or]
      exact moded_attributes newAttr st
    | times =>
      simp only [Sattr3.leftBy, link, false_or]
      exact owned_attributes newAttr leaves st

/--
Setting attributes is all or nothing if and only if the object is a link, no step fails or the
first one does, or the steps before the one that fails set what the object had.
-/
theorem nfsSetSattr3_allOrNothing_iff {leaves : Leaves} (stale : Timespec × Timespec) (os : Os σ)
    (newAttr : Sattr3) (laws : Metadata k path clock) (leaving : ChownLeaves k path leaves)
    (found : k.lstat os.fs path = .ok st) :
    ((nfsSetSattr3 k stale os path newAttr).1 ≠ .nfs3Ok →
      ∃ after, k.lstat (nfsSetSattr3 k stale os path newAttr).2.fs path = .ok after ∧
        after.attributes = st.attributes) ↔
    st.type = .lnk ∨ newAttr.Unchanged leaves st (newAttr.failsAt k stale path os.fs) := by
  rcases nfsSetSattr3_left k stale path newAttr os with ⟨ok, none⟩ | ⟨failed, left⟩
  · rw [none]
    exact iff_of_true (fun failed => absurd ok failed) (.inr trivial)
  · cases step : newAttr.failsAt k stale path os.fs with
    | none =>
      rw [step] at left
      cases left
    | some step' =>
      rw [step] at left
      obtain ⟨ctim, is⟩ := untouched_left laws leaving found left
      -- The time of change is not among the attributes.
      have same : (∃ after, k.lstat (nfsSetSattr3 k stale os path newAttr).2.fs path = .ok after ∧
          after.attributes = st.attributes) ↔
          (newAttr.leftBy leaves st step').attributes = st.attributes := by
        rw [is]
        constructor
        · rintro ⟨after, is', same⟩
          obtain rfl := Except.ok.inj is'
          exact same
        · intro same
          exact ⟨_, rfl, same⟩
      rw [same]
      simp only [ne_eq, failed, not_false_eq_true, forall_const]
      exact leftBy_attributes newAttr leaves st step'

/-- Permissions to set, with a time that is neither the server's nor the client's. -/
def demoBadTime (mode : UInt32) : Sattr3 where
  mode := .present mode
  uid := .absent
  gid := .absent
  size := .absent
  atime := .other 5 (by decide)
  mtime := .dontChange

/-- The single object keeps all its permission bits. -/
theorem singleKernel_leaves (path : Path) :
    ChownLeaves singleKernel path fun _ perm _ _ => perm := by
  intro s st owner group after found notLink _ left
  obtain rfl : s = st := Except.ok.inj found
  have same : (s.unlessLink (s.chown owner group s.perm)).2 = after := Except.ok.inj left
  rw [← same, Stat.unlessLink, if_neg notLink]
  rfl

/-- A bad time fails after a mode was set that was the same before, so nothing changed. -/
theorem nfsSetSattr3_allOrNothing_iff_same :
    (nfsSetSattr3 singleKernel default ⟨Stat.plain .reg 1, []⟩ [97] (demoBadTime 0o755)).1 ≠
        .nfs3Ok ∧
      ∃ after, singleKernel.lstat (nfsSetSattr3 singleKernel default ⟨Stat.plain .reg 1, []⟩ [97]
        (demoBadTime 0o755)).2.fs [97] = .ok after ∧
        after.attributes = (Stat.plain .reg 1).attributes := by
  have failed : (nfsSetSattr3 singleKernel default ⟨Stat.plain .reg 1, []⟩ [97]
    (demoBadTime 0o755)).1 ≠ .nfs3Ok := by decide
  refine ⟨failed, (nfsSetSattr3_allOrNothing_iff default ⟨Stat.plain .reg 1, []⟩
    (demoBadTime 0o755) (singleKernel_metadata [97]) (singleKernel_leaves [97]) rfl).mpr
      (.inr ?_) failed⟩
  exact fun _ => by decide

/-- A time that is not valid is found after the permissions were set, and they stay set. -/
theorem nfsSetSattr3_half_done :
    (nfsSetSattr3 singleKernel default ⟨Stat.plain .reg 1, []⟩ [97] (demoBadTime 0o600)).1 ≠
        .nfs3Ok ∧
      (Stat.plain .reg 1).perm = 0o755 ∧
      (nfsSetSattr3 singleKernel default ⟨Stat.plain .reg 1, []⟩ [97]
        (demoBadTime 0o600)).2.fs.perm = 0o600 := by
  decide

end Kept

end Dnfs
