import Dnfs.Base.PersistentLaws

/-! When it is safe to load a map from a file with any content. -/

namespace Dnfs

namespace PairTypes

variable {κ υ : Type} {cmp : κ → κ → Ordering} (types : PairTypes κ υ)

section Header

variable {stack : Int32} {file : Bytes}

/-- A count that is read as a whole leaves nothing of what the variable held before. -/
theorem headerCount_whole (whole : 4 ≤ file.length) (other : Int32) :
    headerCount other file = headerCount stack file := by
  have none : ∀ n, (le32 n).drop file.length = [] := fun n => List.drop_eq_nil_of_le whole
  rw [headerCount, headerCount, none, none]

/-- Of a count that is not read as a whole, the highest byte is what the variable held before. -/
theorem headerCount_short (short : file.length < 4) :
    headerCount 0 file ≠ headerCount (-16777216) file := by
  intro same
  have zero : le32 0 = [0, 0, 0, 0] := by decide
  have high : le32 (-16777216) = [0, 0, 0, 255] := by decide
  rw [headerCount, headerCount, zero, high] at same
  have top : (0 : UInt8) = 255 := by
    rcases file with _ | ⟨_, _ | ⟨_, _ | ⟨_, _ | ⟨_, _⟩⟩⟩⟩
    · exact ofLe32_top same
    · exact ofLe32_top same
    · exact ofLe32_top same
    · exact ofLe32_top same
    · simp only [List.length_cons] at short
      omega
  exact absurd top (by decide)

end Header

variable [Std.TransCmp cmp]

/-- Loading is safe: it gives nothing, or just what the file has behind a count that was read. -/
structure LoadsSafely (stack : Int32) (file : Bytes) (map : Std.ExtTreeMap κ υ cmp) : Prop where
  /-- The count is the one of the file, whatever the variable for it held before. -/
  counted : ∀ other, headerCount other file = headerCount stack file
  /-- The buffer is large enough for as many pairs. -/
  allocated : (headerCount stack file).toInt * types.size ≤
    malloc (types.pairSize * headerCount stack file)
  loaded : types.load stack file map = (.ok false, map) ∨
    ∃ extended, types.load stack file map = (.ok true, extended) ∧
      0 ≤ (headerCount stack file).toInt ∧
      4 + (headerCount stack file).toInt * types.size ≤ file.length ∧
      ExtendedBy map (types.pairsOf (headerCount stack file).toInt.toNat (file.drop 4)) extended

/--
A file that can be loaded safely.

Its count is there, and either the size of as many pairs can be computed, or the count is below
zero and no more follows than the buffer has that is allocated then.
-/
def Loadable (stack : Int32) (file : Bytes) : Prop :=
  4 ≤ file.length ∧
    if (headerCount stack file).toInt < 0 then
      file.length - 4 ≤ malloc (types.pairSize * headerCount stack file)
    else (headerCount stack file).toInt * types.size < 2 ^ 31

section Load

variable {types} {stack : Int32} {file : Bytes} (map : Std.ExtTreeMap κ υ cmp)

/-- The pairs of an array do not depend on what follows them. -/
theorem pairsOf_take (n : Nat) (array : Bytes) :
    types.pairsOf n (array.take (types.size * n)) = types.pairsOf n array := by
  refine List.map_congr_left fun i member => ?_
  have below : i + 1 ≤ n := List.mem_range.mp member
  have inside := Nat.mul_le_mul_left types.size below
  rw [Nat.mul_add, Nat.mul_one, Nat.mul_comm types.size i] at inside
  rw [List.drop_take, List.take_take, Nat.min_eq_left (by omega)]

/-- A count below zero is never reached, so nothing is loaded. -/
theorem load_negative (negative : (headerCount stack file).toInt < 0)
    (room : file.length - 4 ≤ malloc (types.pairSize * headerCount stack file)) :
    types.load stack file map = (.ok false, map) := by
  have huge := asSize_huge negative
  have small := malloc_lt (types.pairSize * headerCount stack file)
  have length : ((file.drop 4).take (types.size * asSize (headerCount stack file))).length ≤
      file.length - 4 := by
    rw [List.length_take, List.length_drop]
    omega
  have items := Nat.div_le_self
    ((file.drop 4).take (types.size * asSize (headerCount stack file))).length types.size
  rw [load, if_neg (by omega), if_pos (by omega)]

/-- With a count below zero, more bytes than the buffer has are written beyond its end. -/
theorem load_overflow (negative : (headerCount stack file).toInt < 0)
    (more : malloc (types.pairSize * headerCount stack file) < file.length - 4) :
    types.load stack file map = (.error .overflow, map) := by
  have huge := asSize_huge negative
  have small := malloc_lt (types.pairSize * headerCount stack file)
  have wide := Nat.le_mul_of_pos_left (asSize (headerCount stack file)) types.size_pos
  have length : malloc (types.pairSize * headerCount stack file) <
      ((file.drop 4).take (types.size * asSize (headerCount stack file))).length := by
    rw [List.length_take, List.length_drop]
    omega
  rw [load, if_pos length]

/-- With a count whose pairs fit, all of them are loaded, or none. -/
theorem load_counted {n : Nat} (whole : 4 ≤ file.length)
    (count : (headerCount stack file).toInt = n)
    (fits : (n : Int) * types.size < 2 ^ 31) :
    types.load stack file map = (.ok false, map) ∨
      types.load stack file map =
          (.ok true, emplaceAll map (types.pairsOf n (file.drop 4))) ∧
        4 + n * types.size ≤ file.length := by
  have nonneg : 0 ≤ (headerCount stack file).toInt := by omega
  have size := asSize_of_nonneg nonneg
  have room := types.malloc_array nonneg (by rw [count, Int.mul_comm]; exact fits)
  rw [count] at size room
  have sameSize : asSize (headerCount stack file) = n := by omega
  have sameRoom : malloc (types.pairSize * headerCount stack file) = types.size * n := by
    exact_mod_cast room
  have length : ((file.drop 4).take (types.size * n)).length =
      min (types.size * n) (file.length - 4) := by
    rw [List.length_take, List.length_drop]
  rw [load, sameSize, sameRoom, count, if_neg (by omega)]
  -- Either as many pairs as announced are there, or fewer.
  by_cases all : ((file.drop 4).take (types.size * n)).length / types.size = n
  · refine .inr ⟨?_, ?_⟩
    · rw [if_neg (fun differ => differ all), Int.toNat_natCast, pairsOf_take]
    · have most := Nat.div_mul_le_self ((file.drop 4).take (types.size * n)).length types.size
      rw [all, length] at most
      omega
  · exact .inl (if_pos all)

end Load

/-- Loading is safe just when the file can be loaded safely. -/
theorem load_safe_iff (stack : Int32) (file : Bytes) (map : Std.ExtTreeMap κ υ cmp) :
    types.LoadsSafely stack file map ↔ types.Loadable stack file := by
  constructor
  · intro safe
    have whole : 4 ≤ file.length := by
      by_contra short
      exact headerCount_short (Nat.lt_of_not_le short)
        ((safe.counted 0).trans (safe.counted (-16777216)).symm)
    refine ⟨whole, ?_⟩
    split
    · next negative =>
      by_contra more
      have beyond := load_overflow map negative (Nat.lt_of_not_le more)
      rcases safe.loaded with same | ⟨_, same, _⟩ <;> cases beyond.symm.trans same
    · have small := malloc_lt (types.pairSize * headerCount stack file)
      have enough := safe.allocated
      omega
  · rintro ⟨whole, fits⟩
    split at fits
    · next negative =>
      -- The size of fewer than no pairs is below zero, so any buffer will do.
      have below := Int.mul_nonpos_of_nonpos_of_nonneg (Int.le_of_lt negative)
        (Int.natCast_nonneg types.size)
      exact ⟨headerCount_whole whole, by omega, .inl (load_negative map negative fits)⟩
    · next nonneg =>
      obtain ⟨n, count⟩ := Int.eq_ofNat_of_zero_le (Int.not_lt.mp nonneg)
      rw [count] at fits
      have room := types.malloc_array (Int.not_lt.mp nonneg)
        (by rw [count, Int.mul_comm]; exact fits)
      refine ⟨headerCount_whole whole, Int.le_of_eq (by rw [room, Int.mul_comm]), ?_⟩
      rcases load_counted map whole count fits with none | ⟨all, inside⟩
      · exact .inl none
      · refine .inr ⟨_, all, Int.not_lt.mp nonneg, ?_, ?_⟩
        · rw [count]
          exact_mod_cast inside
        · rw [count]
          exact emplaceAll_extendedBy map _

/-- The file of the test's map is loaded safely. -/
theorem load_safe_test :
    testPairs.LoadsSafely 7 (testPairs.dumped (fun _ => 0) testMap)
      (∅ : Std.ExtTreeMap Int32 Int32) :=
  (testPairs.load_safe_iff 7 (testPairs.dumped (fun _ => 0) testMap) ∅).mpr
    ⟨by decide, by decide⟩

/-- A count whose pairs take 2 ^ 32 bytes gets a buffer of none, and whatever follows is read. -/
theorem load_overflows :
    let file := le32 0x08000000 ++ List.replicate 64 0
    malloc (testPairs.pairSize * 0x08000000) = 0 ∧
      testPairs.load 0 file (∅ : Std.ExtTreeMap Int32 Int32) = (Except.error .overflow, ∅) ∧
      ¬ testPairs.LoadsSafely 0 file (∅ : Std.ExtTreeMap Int32 Int32) := by
  refine ⟨by decide, rfl, fun safe => ?_⟩
  exact absurd safe.allocated (by decide)

end PairTypes

end Dnfs
