import Dnfs.Memory.Words

/-! Numbers with a sign: where the program takes them for sizes, and as they stand in memory. -/

namespace Dnfs

variable (n : Int32)

/-- A number as a size, where one below zero becomes huge. -/
def asSize : Nat := n.toInt64.toUInt64.toNat

/-- A size is the number it was made of, apart from a multiple of the word. -/
theorem asSize_cond :
    n.toInt = if 2 * asSize n < 2 ^ 64 then (asSize n : Int) else asSize n - (2 ^ 64 : Nat) := by
  have cond := BitVec.toInt_eq_toNat_cond n.toInt64.toBitVec
  rw [Int64.toInt_toBitVec, Int32.toInt_toInt64, Int64.toNat_toBitVec] at cond
  exact cond

/-- A size from zero on stays what it is. -/
theorem asSize_of_nonneg {n : Int32} (nonneg : 0 ≤ n.toInt) : (asSize n : Int) = n.toInt := by
  have cond := asSize_cond n
  have bound : asSize n < 2 ^ 64 := n.toInt64.toUInt64.toNat_lt
  split at cond
  · exact cond.symm
  · omega

/-- A negative one wraps around. -/
theorem asSize_of_neg {n : Int32} (neg : n.toInt < 0) : (asSize n : Int) = n.toInt + 2 ^ 64 := by
  have cond := asSize_cond n
  split at cond <;> omega

/-- A number below zero is a size beyond what can be allocated. -/
theorem asSize_huge {n : Int32} (neg : n.toInt < 0) : 2 ^ 63 ≤ asSize n := by
  have equal := asSize_of_neg neg
  have low := n.le_toInt
  omega

/-- What an allocation that is asked for with a number with a sign provides. -/
def malloc (request : Int32) : Nat :=
  -- More than half of the address space is refused, and a refusal provides nothing.
  if asSize request < 2 ^ 63 then asSize request else 0

/-- A number below zero asks for too much. -/
theorem malloc_of_neg {request : Int32} (neg : request.toInt < 0) : malloc request = 0 :=
  if_neg (Nat.not_lt.mpr (asSize_huge neg))

/-- As much is allocated as was asked for. -/
theorem malloc_of_nonneg {request : Int32} (nonneg : 0 ≤ request.toInt) :
    (malloc request : Int) = request.toInt := by
  have equal := asSize_of_nonneg nonneg
  have high := request.toInt_lt
  rw [malloc, if_pos (by omega), equal]

/-- No request provides more than the greatest number. -/
theorem malloc_lt (request : Int32) : malloc request < 2 ^ 31 := by
  rcases Int.lt_or_le request.toInt 0 with neg | nonneg
  · rw [malloc_of_neg neg]
    decide
  · have equal := malloc_of_nonneg nonneg
    have high := request.toInt_lt
    omega

/-- The four bytes of a number as they stand in memory, lowest first. -/
def le32 : Bytes :=
  (List.range 4).map fun i => UInt8.ofNat (n.toUInt32.toNat / 2 ^ (8 * i))

/-- Four bytes of memory read as a number, lowest first. -/
def ofLe32 (bytes : Bytes) : Int32 :=
  (UInt32.ofNat (bytes.foldr (fun byte rest => byte.toNat + 256 * rest) 0)).toInt32

/-- There are four bytes. -/
@[simp] theorem le32_length : (le32 n).length = 4 := rfl

/-- Four bytes of memory hold the number they were written from. -/
@[simp] theorem ofLe32_le32 : ofLe32 (le32 n) = n := by
  -- The fold rebuilds the value from its four base-256 digits.
  have bound := n.toUInt32.toNat_lt
  have same : UInt32.ofNat ((le32 n).foldr (fun byte rest => byte.toNat + 256 * rest) 0) =
      n.toUInt32 := by
    apply UInt32.toNat_inj.mp
    simp only [le32, List.range, List.range.loop, List.map, List.foldr, UInt32.toNat_ofNat',
      UInt8.toNat_ofNat']
    omega
  rw [ofLe32, same, Int32.toInt32_toUInt32]

/-- The highest byte of a number tells it from others. -/
theorem ofLe32_top {a b c d e : UInt8} (same : ofLe32 [a, b, c, d] = ofLe32 [a, b, c, e]) :
    d = e := by
  have words := congrArg (fun n => n.toUInt32.toNat) same
  simp only [ofLe32, List.foldr, UInt32.toUInt32_toInt32, UInt32.toNat_ofNat'] at words
  have boundA := a.toNat_lt
  have boundB := b.toNat_lt
  have boundC := c.toNat_lt
  have boundD := d.toNat_lt
  have boundE := e.toNat_lt
  apply UInt8.toNat_inj.mp
  omega

end Dnfs
