import Dnfs.Nfs.ExamineLaws
import Dnfs.Nfs.NamespaceLaws
import Dnfs.Nfs.SattrLaws
import Dnfs.Os.MemFs
import Dnfs.Os.Metadata

/-! Setting attributes and reading them back: which of them come back as they were asked for. -/

namespace Dnfs

variable {σ : Type} {k : Kernel σ} {env : Env} {fs : σ} {path : Path}

section Reporting

/-- A point in time as it is reported. -/
def Timespec.reported (t : Timespec) : Nfstime3 := ⟨t.tvSec.toUInt32, t.tvNsec.toUInt32⟩

/-- An object as GETATTR reports it, which starts from cleared memory. -/
def Stat.reported (st : Stat) : Fattr3 := st.fattr3 ⟨0, 0⟩

/-- A copied run reads in its new place as it read in its old one. -/
theorem loadFattr3_copy (dst src : Mem) (i j : Nat) :
    loadFattr3 (dst.copy i src j 22) i = loadFattr3 src j := by
  simp [loadFattr3, loadTime, loadSpec, Mem.getU64, Nat.add_assoc]

/-- GETATTR reports an object whatever its result held before. -/
theorem nfs3Getattr_reports {object : NfsFh3} {st : Stat} (env : Env) (res : Mem)
    (named : object ≠ []) (found : k.lstat fs (cstr object) = .ok st) :
    loadGetattr3res (nfs3Getattr k env fs object res).res = .ok st.reported := by
  let stored := (putStatus res .nfs3Ok).copy 2 (attrStored st Mem.zero 0) 2 22
  have status : stored 0 = 0 := by
    have apart : stored.Agree (putStatus res .nfs3Ok) 0 1 :=
      Mem.agree_copy _ _ (.inr (by decide))
    exact (apart.word (Nat.le_refl 0) (by decide)).trans (putStatus_zero _ _)
  -- The attributes are copied from a local that was cleared before they were stored in it.
  have attributes : loadFattr3 stored 2 = st.reported := by
    rw [loadFattr3_copy, attrStored, loadFattr3_congr (Mem.agree_put _ (.inl (by decide))),
      loadFattr3_storeFattr3]
    rfl
  rw [nfs3Getattr_found res named found]
  show loadGetattr3res stored = _
  rw [loadGetattr3res, loadStatus, dif_pos status, attributes]

/-- The permissions that are reported are the lowest nine bits. -/
theorem stMode_and_low (st : Stat) : st.stMode &&& 0o777 = UInt32.ofNat (st.perm.val % 512) := by
  have fits : st.perm.val < UInt32.size := Nat.lt_trans st.perm.isLt (by decide)
  have less : st.perm.val % 512 < UInt32.size := Nat.lt_of_le_of_lt (Nat.mod_le _ _) fits
  have mask : (0o777 : UInt32).toNat = 2 ^ 9 - 1 := by decide
  -- No bit of a type is among them.
  have above : st.type.bits.toNat % 2 ^ 9 = 0 := by
    cases st.type <;> decide
  apply UInt32.toNat_inj.mp
  rw [Stat.stMode, UInt32.toNat_and, UInt32.toNat_or, UInt32.toNat_ofNat_of_lt' fits, mask,
    Nat.and_two_pow_sub_one_eq_mod, Nat.or_mod_two_pow, above, Nat.zero_or,
    UInt32.toNat_ofNat_of_lt' less]

/-- Permissions that were set are reported without the bits above them. -/
theorem Stat.reported_chmod (st : Stat) (mode : UInt32) :
    (st.chmod mode).reported = { st.reported with mode := mode &&& 0o777 } := by
  have shown : (st.chmod mode).stMode &&& 0o777 = mode &&& 0o777 := by
    have mask : (0o777 : UInt32).toNat = 2 ^ 9 - 1 := by decide
    have less : mode.toNat % 512 < UInt32.size :=
      Nat.lt_trans (Nat.mod_lt _ (by decide)) (by decide)
    have perm : (st.chmod mode).perm.val % 512 = mode.toNat % 512 := by
      show mode.toNat % 4096 % 512 = _
      omega
    apply UInt32.toNat_inj.mp
    rw [stMode_and_low, perm, UInt32.toNat_ofNat_of_lt' less, UInt32.toNat_and, mask,
      Nat.and_two_pow_sub_one_eq_mod]
  simp only [Stat.reported, Stat.fattr3, shown]
  rfl

/-- An owner or group that was set is reported, and the permissions stay. -/
theorem Stat.reported_chown (st : Stat) (owner group : UInt32) {perm : Fin 4096}
    (kept : perm.val % 512 = st.perm.val % 512) :
    (st.chown owner group perm).reported = { st.reported with
      uid := if owner = noId then st.stUid else owner
      gid := if group = noId then st.stGid else group } := by
  have shown : (st.chown owner group perm).stMode &&& 0o777 = st.stMode &&& 0o777 := by
    rw [stMode_and_low, stMode_and_low]
    exact congrArg UInt32.ofNat kept
  simp only [Stat.reported, Stat.fattr3, shown]
  rfl

end Reporting

section Calls

/-- The reported attributes that a request can set. -/
@[ext]
structure Shown where
  mode : UInt32
  uid : UInt32
  gid : UInt32
  atime : Nfstime3
  mtime : Nfstime3
  deriving DecidableEq, Repr

/-- Those of an object. -/
def Fattr3.shown (a : Fattr3) : Shown := ⟨a.mode, a.uid, a.gid, a.atime, a.mtime⟩

/-- The others, but for the time of change. -/
def Fattr3.rest (a : Fattr3) : Fattr3 :=
  { a with mode := 0, uid := 0, gid := 0, atime := ⟨0, 0⟩, mtime := ⟨0, 0⟩, ctime := ⟨0, 0⟩ }

/-- What they are once permissions were set, of which only nine bits are reported. -/
def Shown.chmod (mode : UInt32) (shown : Shown) : Shown := { shown with mode := mode &&& 0o777 }

/-- What they are once an owner and a group were set. -/
def Shown.chown (owner group : UInt32) (shown : Shown) : Shown :=
  { shown with
    uid := if owner = noId then shown.uid else owner
    gid := if group = noId then shown.gid else group }

/-- What they are once times were set. -/
def Shown.utimes (times : Option (Timespec × Timespec)) (now : Timespec) (shown : Shown) : Shown :=
  { shown with
    atime := ((times.map fun t => t.1.ofTimeval).getD now).reported
    mtime := ((times.map fun t => t.2.ofTimeval).getD now).reported }

/-- There is an object at a path, a link or not, that is reported so. -/
def Shows (k : Kernel σ) (s : σ) (path : Path) (link : Bool) (rest : Fattr3) (shown : Shown) :
    Prop :=
  ∃ st, k.lstat s path = .ok st ∧ decide (st.type = .lnk) = link ∧ st.reported.rest = rest ∧
    st.reported.shown = shown

/-- What a call makes of an object, and how that is reported. -/
structure Turns (st after : Stat) (update : Shown → Shown) : Prop where
  type : after.type = st.type
  rest : after.reported.rest = st.reported.rest
  shown : after.reported.shown = update st.reported.shown

variable {clock : σ → Timespec} {s t : σ} {link : Bool} {rest : Fattr3} {shown : Shown}

/-- A call shows if it succeeds and the object is no link. -/
theorem Shows.after {ok : Bool} (update : Shown → Shown) (shows_ : Shows k s path link rest shown)
    (call : ∀ st, k.lstat s path = .ok st → ∃ after ctim, Turns st after update ∧
      k.lstat t path
        = .ok (Stat.stamped (if ok = true ∧ st.type ≠ .lnk then after else st) ctim)) :
    Shows k t path link rest (if ok && !link then update shown else shown) := by
  obtain ⟨st, found, isLink, sameRest, sameShown⟩ := shows_
  obtain ⟨after, ctim, turns, left⟩ := call st found
  -- The call takes effect only if it succeeds and follows no link.
  by_cases applies : ok = true ∧ st.type ≠ .lnk
  · have noLink : link = false := by rw [← isLink, decide_eq_false applies.2]
    rw [if_pos applies] at left
    refine ⟨_, left, ?_, turns.rest.trans sameRest, ?_⟩
    · rw [← isLink, ← turns.type]
      rfl
    · rw [applies.1, noLink, ← sameShown]
      exact turns.shown
  · -- A call that failed shows as little as one that a link passed on.
    have idle : (ok && !link) = false := by
      cases ok with
      | false => rfl
      | true =>
        have isLnk : st.type = .lnk := by simpa using applies
        rw [← isLink, decide_eq_true isLnk]
        rfl
    rw [if_neg applies] at left
    rw [idle]
    exact ⟨_, left, isLink, sameRest, sameShown⟩

/-- Setting the permissions. -/
theorem Metadata.shows_chmod (laws : Metadata k path clock) (mode : UInt32)
    (shows_ : Shows k s path link rest shown) :
    Shows k (k.chmod path mode s).2 path link rest
      (if succeeded (k.chmod path mode s).1 && !link then shown.chmod mode else shown) := by
  refine shows_.after (.chmod mode) fun st found => ?_
  obtain ⟨ctim, left⟩ := laws.chmod s st mode found
  exact ⟨st.chmod mode, ctim, ⟨rfl, (congrArg Fattr3.rest (st.reported_chmod mode)).trans rfl,
    (congrArg Fattr3.shown (st.reported_chmod mode)).trans rfl⟩, left⟩

/-- Setting the owner and the group. -/
theorem Metadata.shows_chown (laws : Metadata k path clock) (owner group : UInt32)
    (shows_ : Shows k s path link rest shown) :
    Shows k (k.chown path owner group s).2 path link rest
      (if succeeded (k.chown path owner group s).1 && !link then shown.chown owner group
        else shown) := by
  refine shows_.after (.chown owner group) fun st found => ?_
  obtain ⟨perm, ctim, kept, left⟩ := laws.chown s st owner group found
  have reported := st.reported_chown owner group kept
  exact ⟨st.chown owner group perm, ctim, ⟨rfl, (congrArg Fattr3.rest reported).trans rfl,
    (congrArg Fattr3.shown reported).trans rfl⟩, left⟩

/-- Setting the times. -/
theorem Metadata.shows_utimes (laws : Metadata k path clock) (times : Option (Timespec × Timespec))
    (shows_ : Shows k s path link rest shown) :
    Shows k (k.utimes path times s).2 path link rest
      (if succeeded (k.utimes path times s).1 && !link then shown.utimes times (clock s)
        else shown) := by
  refine shows_.after (.utimes times (clock s)) fun st found => ?_
  obtain ⟨ctim, left⟩ := laws.utimes s st times found
  exact ⟨st.utimes times (clock s), ctim, ⟨rfl, rfl, rfl⟩, left⟩

/-- What a list of calls shows, if it is to show anything and none of them fails. -/
def Brings (k : Kernel σ) (path : Path) (calls : List (Action σ)) (set : Bool)
    (update : σ → Shown → Shown) : Prop :=
  ∀ s link rest shown, Shows k s path link rest shown →
    Shows k (runCalls calls s).2 path link rest
      (if set && (runCalls calls s).1 && !link then update s shown else shown)

/-- A single call decides alone. -/
theorem runCalls_one (call : Action σ) (s : σ) :
    runCalls [call] s = (succeeded (call s).1, (call s).2) := by
  unfold runCalls
  rcases call s with ⟨_ | _, after⟩ <;> rfl

/-- A call that is made only if something is to be set shows what it does, or nothing. -/
theorem Brings.ite {call : Action σ} {P : Prop} [Decidable P] {set : Bool}
    {update : σ → Shown → Shown} (asks : P ↔ set = true)
    (brings : ∀ {s link rest shown}, Shows k s path link rest shown →
      Shows k (call s).2 path link rest
        (if succeeded (call s).1 && !link then update s shown else shown)) :
    Brings k path (if P then [call] else []) set update := by
  intro s link rest shown shows_
  cases set with
  | false => rwa [if_neg (by simp [asks])]
  | true =>
    rw [if_pos (asks.mpr rfl), runCalls_one]
    exact brings shows_

/-- Calls behind others show what they would by themselves, as long as the others succeed. -/
theorem Brings.append {first calls : List (Action σ)} {set : Bool}
    {update : σ → Shown → Shown} (brings : Brings k path calls set update)
    (shows_ : Shows k (runCalls first s).2 path link rest shown) :
    Shows k (runCalls (first ++ calls) s).2 path link rest
      (if set && (runCalls (first ++ calls) s).1 && !link then update (runCalls first s).2 shown
        else shown) := by
  rw [runCalls_append]
  -- Behind a failure nothing is called.
  cases ok : (runCalls first s).1 with
  | false => simpa [ok] using shows_
  | true => exact brings _ _ _ _ shows_

end Calls

section Setting

variable {clock : σ → Timespec} {newAttr : Sattr3}

/-- Setting the permissions shows if they are to be set. -/
theorem Metadata.modeCalls_brings (laws : Metadata k path clock) (newAttr : Sattr3) :
    Brings k path (newAttr.modeCalls k path) newAttr.mode.isSet
      fun _ => .chmod (fieldOf 0 newAttr.mode) :=
  .ite .rfl (laws.shows_chmod _)

/-- An owner or group as the call takes it, which leaves alone what is not selected. -/
def idOf (id : BoolUnion UInt32) : UInt32 := if id.isSet then fieldOf 0 id else noId

/-- Setting owner and group shows if either is to be set. -/
theorem Metadata.ownerCalls_brings (laws : Metadata k path clock) (newAttr : Sattr3) :
    Brings k path (newAttr.ownerCalls k path) (newAttr.gid.isSet || newAttr.uid.isSet)
      fun _ => .chown (idOf newAttr.uid) (idOf newAttr.gid) :=
  .ite (by simp) (laws.shows_chown (idOf newAttr.uid) (idOf newAttr.gid))

/-- A time is left alone, taken from the server, or supplied by the client as a proper time. -/
def SetTime.Known : SetTime → Prop
  | setToClientTime t => t.tvNsec < 1000000000
  | other setIt _ => setIt = 0 ∨ setIt = 1

instance : (time : SetTime) → Decidable time.Known
  | .setToClientTime t => inferInstanceAs (Decidable (t.tvNsec < 1000000000))
  | .other setIt _ => inferInstanceAs (Decidable (setIt = 0 ∨ setIt = 1))

/-- The time that is passed on, which is whatever was there if the time is to be left alone. -/
def SetTime.given (stale : Timespec) : SetTime → Timespec
  | setToClientTime t => ⟨t.tvSec.toUInt64, t.tvNsec.toUInt64⟩
  | other setIt _ => if setIt = 1 then ⟨0, utimeNow⟩ else stale

/-- A proper time is set just when it is selected. -/
theorem timeToSet_known {time : SetTime} (stale : Timespec) (known : time.Known) :
    timeToSet stale time = some (decide (time.setIt ≠ 0), time.given stale) := by
  cases time with
  | setToClientTime t => rfl
  | other setIt noTime =>
    rcases known with rfl | rfl <;> rfl

/-- Whether a time is selected. -/
def Sattr3.selectsTime (newAttr : Sattr3) : Bool :=
  newAttr.atime.setIt ≠ 0 || newAttr.mtime.setIt ≠ 0

/-- What the call that sets the times is given. -/
def Sattr3.timesGiven (newAttr : Sattr3) (stale : Timespec × Timespec) :
    Option (Timespec × Timespec) :=
  timesArgument (newAttr.atime.given stale.1) (newAttr.mtime.given stale.2)

/-- Setting the times shows if either is to be set. -/
theorem Metadata.timesCalls_brings (laws : Metadata k path clock) (stale : Timespec × Timespec)
    (atime : newAttr.atime.Known) (mtime : newAttr.mtime.Known) :
    Brings k path ((newAttr.timesCalls k stale path).getD []) newAttr.selectsTime
      fun s => .utimes (newAttr.timesGiven stale) (clock s) := by
  unfold Sattr3.timesCalls
  rw [timeToSet_known stale.1 atime, timeToSet_known stale.2 mtime]
  exact .ite (by simp [Sattr3.selectsTime]) (laws.shows_utimes _)

end Setting

section Taking

variable (k : Kernel σ) (stale : Timespec × Timespec) (path : Path) (newAttr : Sattr3) (fs : σ)
  (link : Bool)

/-- The permissions are selected and their call succeeds on an object that is no link. -/
def Sattr3.takesMode : Bool :=
  newAttr.mode.isSet && (runCalls (newAttr.modeCalls k path) fs).1 && !link

/-- The same for the owner and the group, which are set behind the permissions. -/
def Sattr3.takesOwner : Bool :=
  (newAttr.gid.isSet || newAttr.uid.isSet) &&
    (runCalls (newAttr.modeCalls k path ++ newAttr.ownerCalls k path) fs).1 && !link

/-- The same for the times, which are set last. -/
def Sattr3.takesTimes : Bool :=
  newAttr.selectsTime && (runCalls (newAttr.calls k stale path) fs).1 && !link

/-- The system when the times are set. -/
def Sattr3.beforeTimes : σ :=
  (runCalls (newAttr.modeCalls k path ++ newAttr.ownerCalls k path) fs).2

/-- What the calls leave of the attributes they set. -/
def Sattr3.left (now : Timespec) (shown : Shown) : Shown :=
  let moded := if newAttr.takesMode k path fs link then shown.chmod (fieldOf 0 newAttr.mode)
    else shown
  let owned := if newAttr.takesOwner k path fs link then
    moded.chown (idOf newAttr.uid) (idOf newAttr.gid) else moded
  if newAttr.takesTimes k stale path fs link then owned.utimes (newAttr.timesGiven stale) now
    else owned

variable {k stale path newAttr fs link} {clock : σ → Timespec} {rest : Fattr3} {shown : Shown}

/-- All calls together show what each of them does. -/
theorem Metadata.shows_calls (laws : Metadata k path clock) (stale : Timespec × Timespec)
    (atime : newAttr.atime.Known) (mtime : newAttr.mtime.Known)
    (shows_ : Shows k fs path link rest shown) :
    Shows k (runCalls (newAttr.calls k stale path) fs).2 path link rest
      (newAttr.left k stale path fs link (clock (newAttr.beforeTimes k path fs)) shown) := by
  -- Each call starts from what the one before it left.
  have moded := laws.modeCalls_brings newAttr fs link rest shown shows_
  have owned := (laws.ownerCalls_brings newAttr).append moded
  have timed := (laws.timesCalls_brings stale atime mtime).append owned
  rw [List.append_assoc] at timed
  exact timed

end Taking

section Asking

/-- The value of a field once it was set, if it was to be. -/
def BoolUnion.asked {α : Type} (cleared old : α) (x : BoolUnion α) : α :=
  if x.isSet then fieldOf cleared x else old

/-- A time once it was set, if it was to be. -/
def SetTime.asked (now old : Nfstime3) : SetTime → Nfstime3
  | setToClientTime t => t
  | other setIt _ => if setIt = 1 then now else old

/-- The attributes that a request asks for. -/
def Sattr3.asked (newAttr : Sattr3) (now : Nfstime3) (before : Fattr3) : Fattr3 :=
  { before with
    mode := newAttr.mode.asked 0 before.mode
    uid := newAttr.uid.asked 0 before.uid
    gid := newAttr.gid.asked 0 before.gid
    size := newAttr.size.asked 0 before.size
    atime := newAttr.atime.asked now before.atime
    mtime := newAttr.mtime.asked now before.mtime }

/-- All attributes but the time of change. -/
def Fattr3.unstamped (a : Fattr3) : Fattr3 := { a with ctime := ⟨0, 0⟩ }

/-- Attributes but for the time of change are those that can be set and the rest. -/
theorem Fattr3.unstamped_inj {a b : Fattr3} :
    a.unstamped = b.unstamped ↔ a.shown = b.shown ∧ a.rest = b.rest := by
  cases a
  cases b
  simp only [unstamped, shown, rest, Fattr3.mk.injEq, Shown.mk.injEq]
  grind

/-- Reading attributes before and after a request tells them to be what was asked for. -/
def ReadsBack (k : Kernel σ) (env : Env) (fs : σ) (args : Setattr3args) (res : Mem)
    (now : Timespec) : Prop :=
  ∀ env' res', ∃ before after,
    loadGetattr3res (nfs3Getattr k env' fs args.object res').res = .ok before ∧
    loadGetattr3res (nfs3Getattr k env' (nfs3Setattr k env fs args res).os.fs args.object res').res
      = .ok after ∧
    after.unstamped = (args.newAttributes.asked now.reported before).unstamped

/-- A time comes out as it is asked for, given whether it is set and what it was. -/
def SetTime.Comes (takes usesNow : Bool) (now old : Nfstime3) (stale : Timespec) : SetTime → Prop
  | setToClientTime t =>
    if takes then if usesNow then now = t else t.tvNsec % 1000 = 0 else old = t
  | other setIt _ =>
    if setIt = 1 then takes = true ∨ old = now
    else takes = true → if usesNow then now = old else stale.toTimeval.ofTimeval.reported = old

instance (takes usesNow : Bool) (now old : Nfstime3) (stale : Timespec) :
    (time : SetTime) → Decidable (time.Comes takes usesNow now old stale)
  | .setToClientTime t => inferInstanceAs (Decidable
      (if takes then if usesNow then now = t else t.tvNsec % 1000 = 0 else old = t))
  | .other setIt _ => inferInstanceAs (Decidable
      (if setIt = 1 then takes = true ∨ old = now
        else takes = true → if usesNow then now = old
          else stale.toTimeval.ofTimeval.reported = old))

/--
A request asks for nothing that its calls do not bring about.

What is not set, because no call sets it, the call fails, or the object is a link, has to be as it
is asked for already.
-/
structure Settable (k : Kernel σ) (stale : Timespec × Timespec) (path : Path) (newAttr : Sattr3)
    (fs : σ) (st : Stat) (now : Timespec) : Prop where
  /-- Permissions are reported without the bits above them. -/
  mode : newAttr.mode.isSet = true →
    if newAttr.takesMode k path fs (st.type = .lnk) then fieldOf 0 newAttr.mode < 0o1000
    else st.reported.mode = fieldOf 0 newAttr.mode
  /-- One owner stands for leaving it alone. -/
  uid : newAttr.uid.isSet = true →
    newAttr.takesOwner k path fs (st.type = .lnk) = true ∧ fieldOf 0 newAttr.uid ≠ noId ∨
      st.reported.uid = fieldOf 0 newAttr.uid
  gid : newAttr.gid.isSet = true →
    newAttr.takesOwner k path fs (st.type = .lnk) = true ∧ fieldOf 0 newAttr.gid ≠ noId ∨
      st.reported.gid = fieldOf 0 newAttr.gid
  /-- No call sets the size. -/
  size : newAttr.size.isSet = true → st.reported.size = fieldOf 0 newAttr.size
  atime : newAttr.atime.Comes (newAttr.takesTimes k stale path fs (st.type = .lnk))
    (newAttr.timesGiven stale).isNone now.reported st.reported.atime stale.1
  mtime : newAttr.mtime.Comes (newAttr.takesTimes k stale path fs (st.type = .lnk))
    (newAttr.timesGiven stale).isNone now.reported st.reported.mtime stale.2

end Asking

section Comparing

variable {stale : Timespec × Timespec} {newAttr : Sattr3} {link : Bool} {shown : Shown}
  {now : Timespec}

/-- The permissions are those of the call that sets them. -/
theorem Sattr3.left_mode : (newAttr.left k stale path fs link now shown).mode =
    if newAttr.takesMode k path fs link then fieldOf 0 newAttr.mode &&& 0o777 else shown.mode := by
  unfold left
  dsimp only
  split_ifs <;> rfl

/-- The owner is the one that was set, unless that stands for none. -/
theorem Sattr3.left_uid : (newAttr.left k stale path fs link now shown).uid =
    if newAttr.takesOwner k path fs link = true ∧ idOf newAttr.uid ≠ noId then idOf newAttr.uid
    else shown.uid := by
  unfold left
  dsimp only
  split_ifs <;> simp_all [Shown.chmod, Shown.chown, Shown.utimes]

/-- So is the group. -/
theorem Sattr3.left_gid : (newAttr.left k stale path fs link now shown).gid =
    if newAttr.takesOwner k path fs link = true ∧ idOf newAttr.gid ≠ noId then idOf newAttr.gid
    else shown.gid := by
  unfold left
  dsimp only
  split_ifs <;> simp_all [Shown.chmod, Shown.chown, Shown.utimes]

/-- A time as the call sets it. -/
def timeSet (usesNow : Bool) (now given : Timespec) : Nfstime3 :=
  if usesNow then now.reported else given.toTimeval.ofTimeval.reported

/-- The time of access is as the call sets it. -/
theorem Sattr3.left_atime : (newAttr.left k stale path fs link now shown).atime =
    if newAttr.takesTimes k stale path fs link then
      timeSet (newAttr.timesGiven stale).isNone now (newAttr.atime.given stale.1)
    else shown.atime := by
  unfold left timesGiven timesArgument
  dsimp only
  split_ifs <;> rfl

/-- So is the time of modification. -/
theorem Sattr3.left_mtime : (newAttr.left k stale path fs link now shown).mtime =
    if newAttr.takesTimes k stale path fs link then
      timeSet (newAttr.timesGiven stale).isNone now (newAttr.mtime.given stale.2)
    else shown.mtime := by
  unfold left timesGiven timesArgument
  dsimp only
  split_ifs <;> rfl

/-- Permissions survive if they have no bits above them. -/
theorem and_low_eq_self (mode : UInt32) : mode &&& 0o777 = mode ↔ mode < 0o1000 := by
  have mask : (0o777 : UInt32).toNat = 2 ^ 9 - 1 := by decide
  have bound : (0o1000 : UInt32).toNat = 512 := by decide
  -- Masking is the remainder by a power of two.
  rw [← UInt32.toNat_inj, UInt32.toNat_and, mask, Nat.and_two_pow_sub_one_eq_mod,
    UInt32.lt_iff_toNat_lt, bound]
  omega

/-- A proper time survives if it is one of whole microseconds. -/
theorem timeSet_client {t : Nfstime3} (proper : t.tvNsec < 1000000000) (now : Timespec) :
    timeSet false now ⟨t.tvSec.toUInt64, t.tvNsec.toUInt64⟩ = t ↔ t.tvNsec % 1000 = 0 := by
  obtain ⟨tvSec, tvNsec⟩ := t
  have less : tvNsec.toNat < 1000000000 := UInt32.lt_iff_toNat_lt.mp proper
  have positive : tvNsec.toUInt64 < 0x8000000000000000 := by
    rw [UInt64.lt_iff_toNat_lt, UInt32.toNat_toUInt64]
    exact Nat.lt_trans less (by decide)
  -- Nothing is lost but what is below a microsecond, since the count stays far below its bound.
  have rounded : (microseconds tvNsec.toUInt64 * 1000).toUInt32.toNat
      = tvNsec.toNat / 1000 * 1000 := by
    have thousand : (1000 : UInt64).toNat = 1000 := by decide
    rw [microseconds, if_pos positive, UInt64.toNat_toUInt32, UInt64.toNat_mul, UInt64.toNat_div,
      UInt32.toNat_toUInt64, thousand]
    omega
  have whole : tvNsec % 1000 = 0 ↔ tvNsec.toNat % 1000 = 0 := by
    rw [← UInt32.toNat_inj, UInt32.toNat_mod]
    rfl
  have kept :
      (microseconds tvNsec.toUInt64 * 1000).toUInt32 = tvNsec ↔ tvNsec.toNat % 1000 = 0 := by
    rw [← UInt32.toNat_inj, rounded]
    omega
  simp only [timeSet, Timespec.toTimeval, Timespec.ofTimeval, Timespec.reported,
    Bool.false_eq_true, if_false, Nfstime3.mk.injEq, UInt32.toUInt32_toUInt64, true_and]
  rw [kept, whole]

/-- Permissions come out as asked for if nothing above them was asked for. -/
theorem asked_mode_iff (old : UInt32) :
    (if newAttr.takesMode k path fs link then fieldOf 0 newAttr.mode &&& 0o777 else old)
        = newAttr.mode.asked 0 old ↔
      (newAttr.mode.isSet = true →
        if newAttr.takesMode k path fs link then fieldOf 0 newAttr.mode < 0o1000
        else old = fieldOf 0 newAttr.mode) := by
  cases set : newAttr.mode.isSet with
  -- They are not selected, and no call is made.
  | false => simp [Sattr3.takesMode, BoolUnion.asked, set]
  | true =>
    simp only [BoolUnion.asked, set, if_true, forall_const]
    split
    · exact and_low_eq_self _
    · rfl

/-- The same for an owner or a group, of which one value stands for leaving it alone. -/
theorem asked_id_iff (takes : Bool) (id : BoolUnion UInt32) (old : UInt32) :
    (if takes = true ∧ idOf id ≠ noId then idOf id else old) = id.asked 0 old ↔
      (id.isSet = true → takes = true ∧ fieldOf 0 id ≠ noId ∨ old = fieldOf 0 id) := by
  cases set : id.isSet with
  | false => simp [BoolUnion.asked, idOf, set]
  | true =>
    simp only [BoolUnion.asked, idOf, set, if_true, forall_const]
    by_cases taken : takes = true ∧ fieldOf 0 id ≠ noId <;> simp [taken]

/-- The same for a time, where one that is taken from the server makes the call use the present. -/
theorem asked_time_iff {takes usesNow : Bool} {time : SetTime} {stale : Timespec} (old : Nfstime3)
    (known : time.Known) (server : time.setIt = 1 → usesNow = true) :
    (if takes then timeSet usesNow now (time.given stale) else old) = time.asked now.reported old ↔
      time.Comes takes usesNow now.reported old stale := by
  cases time with
  | setToClientTime t =>
    unfold SetTime.Comes SetTime.asked SetTime.given
    dsimp only
    split
    · cases usesNow with
      | false => exact timeSet_client known now
      | true => rfl
    · rfl
  | other setIt noTime =>
    unfold SetTime.Comes SetTime.asked SetTime.given
    dsimp only
    -- The server's time asks for the present, any other is left to what was there.
    by_cases present : setIt = 1
    · simp only [if_pos present, server present, timeSet, if_true]
      cases takes <;> simp
    · simp only [if_neg present, timeSet]
      cases takes <;> cases usesNow <;> simp

/-- One time that is the server's makes the call use the present for both. -/
theorem timesGiven_isNone_of_server (server : newAttr.atime.setIt = 1 ∨ newAttr.mtime.setIt = 1) :
    (newAttr.timesGiven stale).isNone = true := by
  -- It is marked by a count that is no time.
  have given : ∀ (stale : Timespec) (time : SetTime), time.setIt = 1 →
      (time.given stale).tvNsec = utimeNow := by
    intro stale time present
    cases time with
    | setToClientTime t => exact absurd present (show (2 : UInt32) ≠ 1 by decide)
    | other setIt noTime =>
      obtain rfl : setIt = 1 := present
      rfl
  unfold Sattr3.timesGiven timesArgument
  rw [if_pos (server.imp (given _ _) (given _ _))]
  rfl

end Comparing

section Answers

variable {clock : σ → Timespec} {args : Setattr3args} {st : Stat}

/-- A request that is answered with a success made its calls. -/
theorem nfs3Setattr_ok_fs {res : Mem} (named : args.object ≠ [])
    (found : k.lstat fs (cstr args.object) = .ok st)
    (ok : (nfs3Setattr k env fs args res).res 0 = 0) :
    (nfs3Setattr k env fs args res).os.fs =
      (runCalls (args.newAttributes.calls k env.staleTimes (cstr args.object)) fs).2 := by
  by_cases passes : args.GuardPasses st
  · obtain ⟨rc, serves⟩ : ∃ rc, nfs3Setattr k env fs args res = _ :=
      nfs3Setattr_set res named found passes
    obtain ⟨all, ran, _⟩ : ∃ ok, Ran (args.newAttributes.calls k env.staleTimes (cstr args.object))
        (.start fs) ok _ ∧ _ := nfsSetSattr3_ran
    have outcome : runCalls _ fs = _ := ran.outcome
    rw [serves, outcome]
  · -- A guard that fails is no success.
    rw [nfs3Setattr_guarded res named found passes] at ok
    exact absurd ok (by simp [Done.refuse])

/-- What is read back is what was asked for if that is what the calls leave, and the size is. -/
theorem unstamped_asked_iff {after : Fattr3} {newAttr : Sattr3} {now : Nfstime3} {before : Fattr3}
    (rest : after.rest = before.rest) :
    after.unstamped = (newAttr.asked now before).unstamped ↔
      after.shown = (newAttr.asked now before).shown ∧
        before.size = newAttr.size.asked 0 before.size := by
  rw [Fattr3.unstamped_inj, rest]
  apply and_congr_right
  intro _
  -- Of the rest only the size can be asked for.
  constructor
  · intro same
    exact congrArg Fattr3.size same
  · intro same
    show before.rest = { before.rest with size := newAttr.size.asked 0 before.size }
    rw [← same]
    rfl

/-- Attributes that were set with success are read back just when the calls bring them about. -/
theorem setattr_readsBack_iff {res : Mem} (laws : Metadata k (cstr args.object) clock)
    (named : args.object ≠ []) (found : k.lstat fs (cstr args.object) = .ok st)
    (atime : args.newAttributes.atime.Known) (mtime : args.newAttributes.mtime.Known)
    (ok : (nfs3Setattr k env fs args res).res 0 = 0) :
    let now := clock (args.newAttributes.beforeTimes k (cstr args.object) fs)
    ReadsBack k env fs args res now ↔
      Settable k env.staleTimes (cstr args.object) args.newAttributes fs st now := by
  intro now
  have start : Shows k fs (cstr args.object) (st.type = .lnk) st.reported.rest st.reported.shown :=
    ⟨st, found, rfl, rfl, rfl⟩
  obtain ⟨after, left, -, rest, shown⟩ := laws.shows_calls env.staleTimes atime mtime start
  rw [← nfs3Setattr_ok_fs named found ok] at left
  -- Both times the object is reported as it is, whatever a result held before.
  have reads : ReadsBack k env fs args res now ↔
      after.reported.unstamped = (args.newAttributes.asked now.reported st.reported).unstamped := by
    constructor
    · intro back
      obtain ⟨before', after', reads, readsAfter, same⟩ := back env res
      rw [nfs3Getattr_reports env res named found] at reads
      rw [nfs3Getattr_reports env res named left] at readsAfter
      cases reads
      cases readsAfter
      exact same
    · intro same env' res'
      exact ⟨_, _, nfs3Getattr_reports env' res' named found,
        nfs3Getattr_reports env' res' named left, same⟩
  have server := @timesGiven_isNone_of_server env.staleTimes args.newAttributes
  have size : st.reported.size = args.newAttributes.size.asked 0 st.reported.size ↔
      (args.newAttributes.size.isSet = true →
        st.reported.size = fieldOf 0 args.newAttributes.size) := by
    cases set : args.newAttributes.size.isSet <;> simp [BoolUnion.asked, set]
  -- Attribute by attribute, what is left is compared with what is asked for.
  rw [reads, unstamped_asked_iff rest, shown, size, Shown.ext_iff, Sattr3.left_mode,
    Sattr3.left_uid, Sattr3.left_gid, Sattr3.left_atime, Sattr3.left_mtime]
  simp only [Fattr3.shown, Sattr3.asked]
  rw [asked_mode_iff, asked_id_iff, asked_id_iff, asked_time_iff _ atime (server ∘ .inl),
    asked_time_iff _ mtime (server ∘ .inr)]
  constructor
  · rintro ⟨⟨mode, uid, gid, atime, mtime⟩, size⟩
    exact ⟨mode, uid, gid, size, atime, mtime⟩
  · rintro ⟨mode, uid, gid, size, atime, mtime⟩
    exact ⟨⟨mode, uid, gid, atime, mtime⟩, size⟩

/-- A request that sets everything but the size. -/
def demoSetattr : Setattr3args where
  object := [97]
  newAttributes :=
    { mode := .present 0o640
      uid := .present 7
      gid := .present 8
      size := .absent
      atime := .setToClientTime ⟨3, 5000⟩
      mtime := .setToClientTime ⟨4, 0⟩ }
  guard := .absent

/-- It is read back. -/
theorem setattr_readsBack_iff_demo :
    (nfs3Setattr singleKernel default (Stat.plain .reg 1) demoSetattr Mem.zero).res 0 = 0 ∧
      ReadsBack singleKernel default (Stat.plain .reg 1) demoSetattr Mem.zero ⟨100, 0⟩ := by
  have answered :
      (nfs3Setattr singleKernel default (Stat.plain .reg 1) demoSetattr Mem.zero).res 0 = 0 := by
    decide
  refine ⟨answered, ?_⟩
  apply (setattr_readsBack_iff (singleKernel_metadata _) (by decide) rfl (by decide) (by decide)
    answered).mpr
  exact ⟨fun _ => by decide, fun _ => .inl (by decide), fun _ => .inl (by decide),
    fun set => absurd set (by decide), by decide, by decide⟩

/-- A request that sets the time of access to that of the server. -/
def demoTouch : Setattr3args where
  object := [97]
  newAttributes :=
    { mode := .absent
      uid := .absent
      gid := .absent
      size := .absent
      atime := .other 1 (by decide)
      mtime := .dontChange }
  guard := .absent

/-- It succeeds, and sets the time of modification as well. -/
theorem setattr_touches_mtime :
    (nfs3Setattr singleKernel default (Stat.plain .reg 1) demoTouch Mem.zero).res 0 = 0 ∧
      ¬ReadsBack singleKernel default (Stat.plain .reg 1) demoTouch Mem.zero ⟨100, 0⟩ := by
  refine ⟨by decide, fun back => ?_⟩
  obtain ⟨before, after, reads, readsAfter, same⟩ := back default Mem.zero
  rw [nfs3Getattr_reports default Mem.zero (by decide) rfl] at reads readsAfter
  cases reads
  cases readsAfter
  exact absurd (congrArg Fattr3.mtime same) (by decide)

end Answers

end Dnfs
