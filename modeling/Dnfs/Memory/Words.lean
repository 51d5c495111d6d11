import Mathlib.Algebra.Group.Int.Defs
import Mathlib.Algebra.Group.Nat.Defs
import Mathlib.Algebra.GroupWithZero.Nat
import Mathlib.Logic.Function.Basic
import Mathlib.Tactic.Common

/-! Memory objects as 32-bit words, and the byte order in which integers cross the wire. -/

namespace Dnfs

/-- A byte string, in the order its bytes stand in memory or on the wire. -/
abbrev Bytes := List UInt8

/-- The words of one memory object, counted from its start. -/
abbrev Mem := Nat → UInt32

namespace Mem

/-- An object cleared to zero, as value initialization leaves it. -/
def zero : Mem := fun _ => 0

/-- Store one word. -/
def put (m : Mem) (i : Nat) (w : UInt32) : Mem := Function.update m i w

/-- The low word of a 64-bit integer. -/
def low (v : UInt64) : UInt32 := UInt32.ofNat (v.toNat % 2 ^ 32)

/-- The high word of a 64-bit integer. -/
def high (v : UInt64) : UInt32 := UInt32.ofNat (v.toNat / 2 ^ 32)

/-- Two words read as one 64-bit integer, low word first. -/
def join (lo hi : UInt32) : UInt64 := UInt64.ofNat (hi.toNat * 2 ^ 32 + lo.toNat)

/-- Store a 64-bit integer or a pointer, low word first. -/
def putU64 (m : Mem) (i : Nat) (v : UInt64) : Mem := (m.put i (low v)).put (i + 1) (high v)

/-- Read a 64-bit integer or a pointer. -/
def getU64 (m : Mem) (i : Nat) : UInt64 := join (m i) (m (i + 1))

/-- Copy a run of words from one object into another. -/
def copy (dst : Mem) (i : Nat) (src : Mem) (j n : Nat) : Mem := fun k =>
  -- Words outside the copied window keep what they held.
  if i ≤ k ∧ k < i + n then src (j + (k - i)) else dst k

/-- Every word of a cleared object is zero. -/
@[simp] theorem zero_apply (i : Nat) : zero i = 0 := rfl

/-- One word changes, the others stay. -/
@[simp] theorem put_apply (m : Mem) (i : Nat) (w : UInt32) (j : Nat) :
    m.put i w j = if j = i then w else m j := Function.update_apply m i w j

/-- Two words change, the others stay. -/
@[simp] theorem putU64_apply (m : Mem) (i : Nat) (v : UInt64) (j : Nat) :
    m.putU64 i v j = if j = i + 1 then high v else if j = i then low v else m j := by
  simp [putU64]

/-- The words of the window are those of the source. -/
@[simp] theorem copy_apply (dst : Mem) (i : Nat) (src : Mem) (j n k : Nat) :
    dst.copy i src j n k = if i ≤ k ∧ k < i + n then src (j + (k - i)) else dst k := rfl

/-- The two halves of a 64-bit integer give it back. -/
@[simp] theorem join_low_high (v : UInt64) : join (low v) (high v) = v := by
  -- Both halves stay below their word, so neither conversion wraps.
  have bound := v.toNat_lt
  have lowIs : (low v).toNat = v.toNat % 2 ^ 32 := by
    simp only [low, UInt32.toNat_ofNat']
    omega
  have highIs : (high v).toNat = v.toNat / 2 ^ 32 := by
    simp only [high, UInt32.toNat_ofNat']
    omega
  apply UInt64.toNat_inj.mp
  simp only [join, UInt64.toNat_ofNat', lowIs, highIs]
  omega

end Mem

/-- A 32-bit integer in network order. -/
def be32 (v : UInt32) : Bytes :=
  [UInt8.ofNat (v.toNat / 2 ^ 24), UInt8.ofNat (v.toNat / 2 ^ 16), UInt8.ofNat (v.toNat / 2 ^ 8),
    UInt8.ofNat v.toNat]

/-- Four bytes of network order read as a 32-bit integer. -/
def ofBe32 (a b c d : UInt8) : UInt32 :=
  UInt32.ofNat (a.toNat * 2 ^ 24 + b.toNat * 2 ^ 16 + c.toNat * 2 ^ 8 + d.toNat)

/-- Network order is read back by the same weights it was written with. -/
theorem ofBe32_be32 (v : UInt32) :
    ofBe32 (UInt8.ofNat (v.toNat / 2 ^ 24)) (UInt8.ofNat (v.toNat / 2 ^ 16))
      (UInt8.ofNat (v.toNat / 2 ^ 8)) (UInt8.ofNat v.toNat) = v := by
  -- Each byte is one base-256 digit of the value.
  have bound := v.toNat_lt
  apply UInt32.toNat_inj.mp
  simp only [ofBe32, UInt32.toNat_ofNat', UInt8.toNat_ofNat']
  omega

/-- A 32-bit integer crosses as four bytes. -/
@[simp] theorem be32_length (v : UInt32) : (be32 v).length = 4 := rfl

/-- The eight bytes of a 64-bit integer as they stand in memory, lowest first. -/
def le64 (v : UInt64) : Bytes :=
  (List.range 8).map fun i => UInt8.ofNat (v.toNat / 2 ^ (8 * i))

/-- Eight bytes of memory read as a 64-bit integer, lowest first. -/
def ofLe64 (bytes : Bytes) : UInt64 :=
  UInt64.ofNat (bytes.foldr (fun byte rest => byte.toNat + 256 * rest) 0)

/-- A 64-bit integer stands in eight bytes. -/
@[simp] theorem le64_length (v : UInt64) : (le64 v).length = 8 := rfl

/-- Eight bytes of memory hold the integer they were written from. -/
@[simp] theorem ofLe64_le64 (v : UInt64) : ofLe64 (le64 v) = v := by
  -- The fold rebuilds the value from its eight base-256 digits.
  have bound := v.toNat_lt
  apply UInt64.toNat_inj.mp
  simp only [ofLe64, le64, List.range, List.range.loop, List.map, List.foldr,
    UInt64.toNat_ofNat', UInt8.toNat_ofNat']
  omega

end Dnfs
