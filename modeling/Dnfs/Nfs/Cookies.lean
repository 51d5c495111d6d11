import Dnfs.Nfs.Progress

/-! Positions in a directory that was changed after a client got them. -/

namespace Dnfs

variable {σ : Type}

section Verifier

/-- The time of the last change fits what is reported of it. -/
structure Stat.Reportable (st : Stat) : Prop where
  seconds : st.stCtim.tvSec.toNat < 2 ^ 32
  nanoseconds : st.stCtim.tvNsec.toNat < 1000000000

variable {st other : Stat}

/-- The verifier is the time in nanoseconds. -/
theorem Stat.Reportable.toNat_cookieverf (reportable : st.Reportable) :
    st.cookieverf.toNat = st.stCtim.tvSec.toNat * 1000000000 + st.stCtim.tvNsec.toNat := by
  -- Neither of the two numbers is cut, and what is made of them fits 64 bits.
  have seconds := reportable.seconds
  have nanoseconds := reportable.nanoseconds
  have wholeSeconds : st.stCtim.tvSec.toNat % 2 ^ 32 = st.stCtim.tvSec.toNat :=
    Nat.mod_eq_of_lt seconds
  have wholeNanoseconds : st.stCtim.tvNsec.toNat % 2 ^ 32 = st.stCtim.tvNsec.toNat :=
    Nat.mod_eq_of_lt (by omega)
  have factor : (1000000000 : UInt64).toNat = 1000000000 := rfl
  simp only [Stat.cookieverf, Stat.fattr3, timespecToNsecs, UInt64.toNat_add, UInt64.toNat_mul,
    UInt32.toNat_toUInt64, UInt64.toNat_toUInt32, factor, wholeSeconds, wholeNanoseconds]
  omega

/-- Different times have different verifiers. -/
theorem cookieverf_eq_iff (reportable : st.Reportable) (alike : other.Reportable) :
    st.cookieverf = other.cookieverf ↔ st.stCtim = other.stCtim := by
  constructor
  · intro same
    have equal := congrArg UInt64.toNat same
    rw [reportable.toNat_cookieverf, alike.toNat_cookieverf] at equal
    -- Fewer nanoseconds than a second has leave both parts determined.
    have first := reportable.nanoseconds
    have second := alike.nanoseconds
    have seconds : st.stCtim.tvSec = other.stCtim.tvSec := UInt64.toNat_inj.mp (by omega)
    have nanoseconds : st.stCtim.tvNsec = other.stCtim.tvNsec := UInt64.toNat_inj.mp (by omega)
    cases times : st.stCtim
    cases others : other.stCtim
    rw [times, others] at seconds nanoseconds
    cases seconds
    cases nanoseconds
    rfl
  · intro same
    simp only [Stat.cookieverf, Stat.fattr3, same]

end Verifier

section Calls

variable {k : Kernel σ} {env : Env} {fs : σ} {args : Readdirplus3args} {res : Mem} {st : Stat}

/-- The status that is left is the one stored last. -/
theorem status_leftReaddirplus : (leftReaddirplus k env fs args res).status
    = (nfs3Readdirplus k env fs args res).res 0 := by
  rw [leftReaddirplus, loadReaddirplus3res, loadStatus]
  split
  · next zero => exact zero.symm
  · rfl

/-- A position with another verifier is refused. -/
theorem leftReaddirplus_stale (env : Env) (res : Mem) (named : args.dir ≠ [])
    (found : k.lstat fs (cstr args.dir) = .ok st) (isDir : st.type = .dir)
    (stale : args.cookie ≠ 0 ∧ st.cookieverf ≠ args.cookieverf) :
    (leftReaddirplus k env fs args res).status = Nfsstat3.nfs3errBadCookie.code := by
  rw [status_leftReaddirplus, nfs3Readdirplus_stale named found isDir env res stale,
    refuse_status]

/-- A position is not refused at the beginning, or with the verifier of its directory. -/
theorem leftReaddirplus_fresh (env : Env) (res : Mem) (named : args.dir ≠ [])
    (found : k.lstat fs (cstr args.dir) = .ok st) (isDir : st.type = .dir)
    (fresh : args.cookie = 0 ∨ st.cookieverf = args.cookieverf) :
    (leftReaddirplus k env fs args res).status ≠ Nfsstat3.nfs3errBadCookie.code := by
  by_cases scans : args.Scans k fs st
  · -- The records are read, which ends in success or with another error.
    rw [status_leftReaddirplus, nfs3Readdirplus_scans env res named scans]
    cases readBuffers k env fs (cstr args.dir) (args.limits env) [] (args.buffers k fs) with
    | unreadable =>
      rw [PageResult.done, refuse_status]
      decide
    | unexamined =>
      rw [PageResult.done, examinedInPlace, refuse_status]
      decide
    | listed nodes eof =>
      have zero : listingStored st nodes eof res 0 = 0 := by
        cases eof <;> simp [listingStored, examinedInPlace, putStatus]
      exact ne_of_eq_of_ne zero (by decide)
  · rw [status_leftReaddirplus, nfs3Readdirplus_unopened named found isDir env res
      (not_stale_iff.mpr fresh) scans, refuse_status]
    decide

end Calls

/-- One call of READDIRPLUS, with what it finds. -/
structure ReaddirplusCall (σ : Type) where
  env : Env
  fs : σ
  args : Readdirplus3args
  /-- What the memory of the result held before. -/
  res : Mem

namespace ReaddirplusCall

variable {k : Kernel σ} {call : ReaddirplusCall σ} {st : Stat}

/-- What a call leaves to be written. -/
def left (k : Kernel σ) (call : ReaddirplusCall σ) : Readdirplus3res :=
  leftReaddirplus k call.env call.fs call.args call.res

/-- A call is for a directory in some state. -/
structure On (k : Kernel σ) (call : ReaddirplusCall σ) (st : Stat) : Prop where
  named : call.args.dir ≠ []
  found : k.lstat call.fs (cstr call.args.dir) = .ok st
  isDir : st.type = .dir
  reportable : st.Reportable

/-- The same call from the beginning, with some verifier. -/
def fromStart (call : ReaddirplusCall σ) (cookieverf : UInt64) : ReaddirplusCall σ :=
  { call with args := { call.args with cookie := 0, cookieverf } }

/-- Every object that a call gets to can be examined. -/
def Examines (k : Kernel σ) (call : ReaddirplusCall σ) : Prop :=
  ∀ dirent ∈ call.args.reached k call.env call.fs,
    examinable k call.fs (cstr call.args.dir) dirent = true

/-- A call that succeeds got to the records of its directory. -/
theorem On.scans {resok : Readdirplus3resok} (on : call.On k st)
    (succeeds : call.left k = .ok resok) : call.args.Scans k call.fs st := by
  by_contra unscanned
  refine leftReaddirplus_unscanned call.env call.res on.named ?_ resok succeeds
  intro other scans
  obtain rfl := Except.ok.inj (on.found.symm.trans scans.found)
  exact unscanned scans

/-- A call that succeeds returns the verifier of its directory if it can examine every object. -/
theorem On.cookieverf_examined {resok : Readdirplus3resok} (on : call.On k st)
    (succeeds : call.left k = .ok resok) (examines : call.Examines k) :
    resok.cookieverf = st.cookieverf := by
  have scans := on.scans succeeds
  have lists := leftReaddirplus_examined call.res on.named scans examines
  split at lists
  · exact absurd succeeds (lists resok)
  · obtain ⟨nodes, eof, _, _, listed⟩ := lists
    obtain rfl := StatusUnion.ok.inj (listed.symm.trans succeeds)
    rfl

/-- Otherwise it returns what memory held in place of the verifier. -/
theorem On.cookieverf_unexamined {resok : Readdirplus3resok} (on : call.On k st)
    (succeeds : call.left k = .ok resok) (unexamined : ¬ call.Examines k) :
    resok.cookieverf = call.res.getU64 26 := by
  have scans := on.scans succeeds
  obtain ⟨dirent, within, cannot⟩ := not_forall₂.mp unexamined
  have left := leftReaddirplus_unexamined call.res on.named scans within
    (Bool.eq_false_iff.mpr cannot)
  obtain rfl := StatusUnion.ok.inj (left.symm.trans succeeds)
  rfl

end ReaddirplusCall

section Rejecting

/--
A position that one call returned is refused by another just when the directory was changed.

The states are those that the two calls find the directory in. From the beginning, no verifier is
refused.
-/
structure RejectsStale (k : Kernel σ) (st : Stat) (second : ReaddirplusCall σ) (now : Stat) :
    Prop where
  changed : st.stCtim ≠ now.stCtim →
    (second.left k).status = Nfsstat3.nfs3errBadCookie.code
  unchanged : st.stCtim = now.stCtim →
    (second.left k).status ≠ Nfsstat3.nfs3errBadCookie.code
  beginning : ∀ cookieverf,
    ((second.fromStart cookieverf).left k).status ≠ Nfsstat3.nfs3errBadCookie.code

variable {k : Kernel σ} {first second : ReaddirplusCall σ} {st now : Stat}

/-- Positions are refused as they should be just when their verifier tells whether to. -/
theorem rejectsStale_iff (on : second.On k now) (later : second.args.cookie ≠ 0) :
    RejectsStale k st second now ↔
      (second.args.cookieverf = now.cookieverf ↔ st.stCtim = now.stCtim) := by
  constructor
  · intro rejects
    constructor
    · -- The verifier is accepted, so the directory is as it was.
      intro same
      by_contra differ
      exact leftReaddirplus_fresh second.env second.res on.named on.found on.isDir
        (.inr same.symm) (rejects.changed differ)
    · intro equal
      by_contra other
      exact rejects.unchanged equal (leftReaddirplus_stale second.env second.res on.named on.found
        on.isDir ⟨later, fun same => other same.symm⟩)
  · intro tells
    refine ⟨fun differ => ?_, fun equal => ?_, fun cookieverf => ?_⟩
    · exact leftReaddirplus_stale second.env second.res on.named on.found on.isDir
        ⟨later, fun same => differ (tells.mp same.symm)⟩
    · exact leftReaddirplus_fresh second.env second.res on.named on.found on.isDir
        (.inr (tells.mpr equal).symm)
    · exact leftReaddirplus_fresh second.env second.res on.named on.found on.isDir (.inl rfl)

/--
READDIRPLUS refuses a position just when the directory was changed, if a verifier was returned.

That is if the call that returned the position could examine every object it got to. Otherwise it
told of a success all the same, and what memory held is taken for the verifier.
-/
theorem readdirplus_rejectsStale_iff {resok : Readdirplus3resok} (before : first.On k st)
    (succeeds : first.left k = .ok resok) (after : second.On k now)
    (later : second.args.cookie ≠ 0) (carries : second.args.cookieverf = resok.cookieverf) :
    RejectsStale k st second now ↔
      first.Examines k ∨ (first.res.getU64 26 = now.cookieverf ↔ st.stCtim = now.stCtim) := by
  rw [rejectsStale_iff after later, carries]
  by_cases examines : first.Examines k
  · rw [before.cookieverf_examined succeeds examines,
      cookieverf_eq_iff before.reportable after.reportable]
    exact iff_of_true Iff.rfl (.inl examines)
  · rw [before.cookieverf_unexamined succeeds examines]
    exact (or_iff_right examines).symm

end Rejecting

section Demo

/-- The directory of the demonstration some time later. -/
def Stat.changedDir : Stat := { Stat.plain .dir 1 with stCtim := ⟨5, 6⟩ }

/-- Its file system then, with the entries it had. -/
def MemFs.demoChanged : MemFs :=
  { demoListing with
    nodes := [(demoDir, Stat.changedDir), (demoDir ++ 0x2f :: demoName, .plain .reg 2)] }

/-- The directory was changed between two calls, and the second one is refused. -/
theorem readdirplus_rejectsStale_changed : let first : ReaddirplusCall MemFs :=
      ⟨default, MemFs.demoListing, ⟨MemFs.demoDir, 0, 0, 0x100, 0x10000⟩, Mem.zero⟩
    let second : ReaddirplusCall MemFs :=
      ⟨default, MemFs.demoChanged, ⟨MemFs.demoDir, 3, 0, 0x100, 0x10000⟩, Mem.zero⟩
    first.Examines memKernel ∧ RejectsStale memKernel (.plain .dir 1) second Stat.changedDir ∧
      (second.left memKernel).status = Nfsstat3.nfs3errBadCookie.code := by
  intro first second
  have before : first.On memKernel (.plain .dir 1) :=
    ⟨by decide, rfl, rfl, ⟨by decide, by decide⟩⟩
  have examines : first.Examines memKernel := by
    unfold ReaddirplusCall.Examines
    decide
  obtain ⟨resok, succeeds⟩ : ∃ resok, first.left memKernel = .ok resok :=
    ⟨(first.left memKernel).resokD default, by decide⟩
  have verifier := before.cookieverf_examined succeeds examines
  have after : second.On memKernel Stat.changedDir :=
    ⟨by decide, rfl, rfl, ⟨by decide, by decide⟩⟩
  have rejects := (readdirplus_rejectsStale_iff before succeeds after (by decide)
    verifier.symm).mpr (.inl examines)
  exact ⟨examines, rejects, rejects.changed (by decide)⟩

/-- A position that was returned without its verifier is refused although nothing was changed. -/
theorem readdirplus_rejects_unchanged : let first : ReaddirplusCall MemFs :=
      ⟨default, MemFs.demoVanished, ⟨MemFs.demoDir, 0, 0, 0x100, 0x10000⟩, Mem.zero.putU64 26 7⟩
    let second : ReaddirplusCall MemFs :=
      ⟨default, MemFs.demoVanished, ⟨MemFs.demoDir, 2, 7, 0x100, 0x10000⟩, Mem.zero⟩
    (first.left memKernel).status = 0 ∧
      ((first.left memKernel).resokD default).cookieverf = second.args.cookieverf ∧
      (second.left memKernel).status = Nfsstat3.nfs3errBadCookie.code ∧
      ¬ RejectsStale memKernel (.plain .dir 1) second (.plain .dir 1) := by
  have refused : (ReaddirplusCall.left memKernel ⟨default, MemFs.demoVanished,
      ⟨MemFs.demoDir, 2, 7, 0x100, 0x10000⟩, Mem.zero⟩).status =
        Nfsstat3.nfs3errBadCookie.code := by decide
  exact ⟨by decide, by decide, refused, fun rejects => rejects.unchanged rfl refused⟩

end Demo

end Dnfs
