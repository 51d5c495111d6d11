import Dnfs.Os.Kernel

/-! Times in order, and times that fit the format. -/

namespace Dnfs

/-- The place of a time among all others: seconds first, then nanoseconds. -/
def Timespec.order (time : Timespec) : Nat := time.tvSec.toNat * 2 ^ 64 + time.tvNsec.toNat

/-- Both parts fit into 32 bits. -/
def Timespec.Fits (time : Timespec) : Prop :=
  time.tvSec.toNat < 2 ^ 32 ∧ time.tvNsec.toNat < 2 ^ 32

instance (time : Timespec) : Decidable time.Fits := inferInstanceAs (Decidable (_ ∧ _))

/-- Two times at one place are the same. -/
theorem Timespec.order_inj {a b : Timespec} : a.order = b.order ↔ a = b := by
  constructor
  · intro same
    have nsecA := a.tvNsec.toNat_lt
    have nsecB := b.tvNsec.toNat_lt
    unfold Timespec.order at same
    have sec : a.tvSec = b.tvSec := UInt64.toNat_inj.mp (by omega)
    have nsec : a.tvNsec = b.tvNsec := UInt64.toNat_inj.mp (by omega)
    cases a
    cases b
    cases sec
    cases nsec
    rfl
  · intro same
    rw [same]

/-- A number that fits is not changed by cutting it to 32 bits. -/
private theorem toNat_toUInt32_of_fits {n : UInt64} (fits : n.toNat < 2 ^ 32) :
    n.toUInt32.toNat = n.toNat := by
  rw [UInt64.toNat_toUInt32, Nat.mod_eq_of_lt fits]

/-- Times that fit are told apart by their two words. -/
theorem Timespec.Fits.eq {a b : Timespec} (fitsA : a.Fits) (fitsB : b.Fits)
    (sec : a.tvSec.toUInt32 = b.tvSec.toUInt32) (nsec : a.tvNsec.toUInt32 = b.tvNsec.toUInt32) :
    a = b := by
  rw [← Timespec.order_inj]
  have secs := congrArg UInt32.toNat sec
  have nsecs := congrArg UInt32.toNat nsec
  rw [toNat_toUInt32_of_fits fitsA.1, toNat_toUInt32_of_fits fitsB.1] at secs
  rw [toNat_toUInt32_of_fits fitsA.2, toNat_toUInt32_of_fits fitsB.2] at nsecs
  rw [Timespec.order, Timespec.order, secs, nsecs]

section Counting

variable (n : Fin 1000)

/-- Counting begins with nothing. -/
instance neZeroTicks : NeZero 1000 := ⟨by decide⟩

/-- A change, as long as there is room to count it. -/
def tick : Except Errno Unit × Fin 1000 :=
  if room : n.val + 1 < 1000 then (.ok (), ⟨n.val + 1, room⟩) else (.error (.other 28), n)

/-- A directory that has been changed some number of times. -/
def tickStat : Stat where
  type := .dir
  perm := 0o755
  stNlink := 2
  stUid := 0
  stGid := 0
  stSize := 0
  stBlocks := 0
  stRdev := 0
  stDev := 0
  stIno := 1
  stAtim := ⟨0, 0⟩
  stMtim := ⟨0, 0⟩
  stCtim := ⟨UInt64.ofNat n.val, 0⟩

/-- A file system with one directory under every path, which only counts the changes made to it. -/
def tickKernel : Kernel (Fin 1000) :=
  { Kernel.uniform tick with
    lstat := fun n _ => .ok (tickStat n)
    scandir := fun _ _ => .ok []
    fsync := fun _ n => (.ok (), n) }

/-- The time of the last change is the number of changes. -/
theorem tickStat_order : (tickStat n).stCtim.order = n.val * 2 ^ 64 := by
  have small : n.val < UInt64.size := Nat.lt_trans n.isLt (by decide)
  unfold Timespec.order tickStat
  dsimp only
  rw [UInt64.toNat_ofNat_of_lt' small, UInt64.toNat_zero, Nat.add_zero]

/-- So few changes fit. -/
theorem tickStat_fits : (tickStat n).stCtim.Fits := by
  have small : n.val < UInt64.size := Nat.lt_trans n.isLt (by decide)
  unfold Timespec.Fits tickStat
  dsimp only
  rw [UInt64.toNat_ofNat_of_lt' small]
  exact ⟨by omega, by decide⟩

/-- A change that succeeds is counted, and one that fails is none. -/
theorem tick_cases :
    (tick n).1 = .ok () ∧ n < (tick n).2 ∨ succeeded (tick n).1 = false ∧ (tick n).2 = n := by
  unfold tick
  split
  · exact .inl ⟨rfl, Fin.lt_def.mpr (Nat.lt_succ_self _)⟩
  · exact .inr ⟨rfl, rfl⟩

end Counting

end Dnfs
