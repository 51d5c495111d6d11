import Dnfs.Os.Kernel

/-! What the calls that set attributes do to an object, and a system of a single object. -/

namespace Dnfs

variable {σ : Type}

/-- The owner or group that stands for leaving it alone. -/
def noId : UInt32 := 0xffffffff

/-- A point in time given with microseconds. -/
def Timespec.ofTimeval (t : Timespec) : Timespec := ⟨t.tvSec, t.tvNsec * 1000⟩

/-- What the object is once its permissions were set. -/
def Stat.chmod (st : Stat) (mode : UInt32) : Stat := { st with perm := Fin.ofNat 4096 mode.toNat }

/-- What it is once its owner and group were set, which may cost it bits above the permissions. -/
def Stat.chown (st : Stat) (owner group : UInt32) (perm : Fin 4096) : Stat :=
  { st with
    stUid := if owner = noId then st.stUid else owner
    stGid := if group = noId then st.stGid else group
    perm }

/-- What it is once its times were set, to the present if none are given. -/
def Stat.utimes (st : Stat) (times : Option (Timespec × Timespec)) (now : Timespec) : Stat :=
  { st with
    stAtim := (times.map fun t => t.1.ofTimeval).getD now
    stMtim := (times.map fun t => t.2.ofTimeval).getD now }

/-- The same object with another time of change. -/
def Stat.stamped (st : Stat) (stCtim : Timespec) : Stat := { st with stCtim }

/--
What may be assumed of the calls that set attributes of an object at a path.

A call that succeeds sets what it is given. One that fails changes nothing, and neither does one on
a link, which goes on to what the link leads to. The time of change may be anything.
-/
structure Metadata (k : Kernel σ) (path : Path) (clock : σ → Timespec) : Prop where
  chmod : ∀ s st mode, k.lstat s path = .ok st → ∃ ctim,
    k.lstat (k.chmod path mode s).2 path = .ok (Stat.stamped
      (if succeeded (k.chmod path mode s).1 ∧ st.type ≠ .lnk then st.chmod mode else st) ctim)
  chown : ∀ s st owner group, k.lstat s path = .ok st → ∃ perm ctim,
    perm.val % 512 = st.perm.val % 512 ∧
    k.lstat (k.chown path owner group s).2 path = .ok (Stat.stamped
      (if succeeded (k.chown path owner group s).1 ∧ st.type ≠ .lnk then st.chown owner group perm
        else st) ctim)
  utimes : ∀ s st times, k.lstat s path = .ok st → ∃ ctim,
    k.lstat (k.utimes path times s).2 path = .ok (Stat.stamped
      (if succeeded (k.utimes path times s).1 ∧ st.type ≠ .lnk then st.utimes times (clock s)
        else st) ctim)

section Single

/-- The present of the next system. -/
def singleClock (_ : Stat) : Timespec := ⟨100, 0⟩

/-- A call on the object, which a link passes on. -/
def Stat.unlessLink (st after : Stat) : Except Errno Unit × Stat :=
  (.ok (), if st.type = .lnk then st else after)

/-- A system of a single object, which is found at every path. -/
def singleKernel : Kernel Stat :=
  { Kernel.uniform fun st => (.error .enoent, st) with
    lstat := fun st _ => .ok st
    chmod := fun _ mode st => st.unlessLink (st.chmod mode)
    chown := fun _ owner group st => st.unlessLink (st.chown owner group st.perm)
    utimes := fun _ times st => st.unlessLink (st.utimes times (singleClock st)) }

/-- A call on the object sets what it is given, unless the object is a link. -/
theorem Stat.unlessLink_snd (st after : Stat) (kept : after.stCtim = st.stCtim) :
    (st.unlessLink after).2 = Stat.stamped
      (if succeeded (st.unlessLink after).1 ∧ st.type ≠ .lnk then after else st) st.stCtim := by
  by_cases link : st.type = .lnk
  · have same : (st.unlessLink after).2 = st := if_pos link
    rw [same, if_neg fun sets => sets.2 link]
    rfl
  · have same : (st.unlessLink after).2 = after := if_neg link
    rw [same, if_pos ⟨rfl, link⟩, ← kept]
    rfl

/-- Its calls are as may be assumed. -/
theorem singleKernel_metadata (path : Path) : Metadata singleKernel path singleClock where
  chmod := by
    rintro s st mode found
    obtain rfl : s = st := Except.ok.inj found
    exact ⟨s.stCtim, congrArg Except.ok (s.unlessLink_snd _ rfl)⟩
  chown := by
    rintro s st owner group found
    obtain rfl : s = st := Except.ok.inj found
    exact ⟨s.perm, s.stCtim, rfl, congrArg Except.ok (s.unlessLink_snd _ rfl)⟩
  utimes := by
    rintro s st times found
    obtain rfl : s = st := Except.ok.inj found
    exact ⟨s.stCtim, congrArg Except.ok (s.unlessLink_snd _ rfl)⟩

end Single

end Dnfs
