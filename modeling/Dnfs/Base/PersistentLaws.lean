import Dnfs.Base.Persistent
import Mathlib.Data.List.Induction

/-! A map that was dumped is loaded again, unless it was empty. -/

namespace Dnfs

namespace PairTypes

variable {κ υ : Type} (types : PairTypes κ υ)

section Sizes

/-- The size of a pair is within the range of an `int`. -/
theorem pairSize_toInt : types.pairSize.toInt = types.size :=
  Int32.toInt_ofNat_of_lt types.size_lt

/-- The size of an array, as long as it fits the number it is computed in. -/
theorem malloc_array {n : Int32} (nonneg : 0 ≤ n.toInt) (fits : types.size * n.toInt < 2 ^ 31) :
    (malloc (types.pairSize * n) : Int) = types.size * n.toInt := by
  have product : (types.pairSize * n).toInt = types.size * n.toInt := by
    rw [Int32.toInt_mul, pairSize_toInt]
    have positive := Int.mul_nonneg (Int.natCast_nonneg types.size) nonneg
    exact Int.bmod_eq_of_le (by omega) (by omega)
  rw [malloc_of_nonneg, product]
  rw [product]
  exact Int.mul_nonneg (Int.natCast_nonneg types.size) nonneg

end Sizes

section Arrays

variable {buffer : Bytes} {pair : κ × υ} {pairs : List (κ × υ)}

/-- Pairs are read off one after the other. -/
theorem pairsOf_succ (n : Nat) (array : Bytes) :
    types.pairsOf (n + 1) array =
      types.read (array.take types.size) :: types.pairsOf n (array.drop types.size) := by
  -- The places after the first are those of an array that starts one place later.
  rw [pairsOf, List.range_succ_eq_map, List.map_cons, List.map_map, Nat.zero_mul, List.drop_zero]
  refine congrArg _ (List.map_congr_left fun i _ => ?_)
  rw [Function.comp_apply, List.drop_drop, Nat.succ_mul, Nat.add_comm]

/-- Filling an array keeps its length. -/
theorem fill_length (enough : buffer.length = types.size * pairs.length) :
    (types.fill buffer pairs).length = buffer.length := by
  induction pairs generalizing buffer with
  | nil => rfl
  | cons pair pairs ih =>
    rw [List.length_cons, Nat.mul_succ] at enough
    have first : (buffer.take types.size).length = types.size := by
      rw [List.length_take]
      omega
    rw [fill, List.length_append, types.store_length _ _ first, ih, List.length_drop]
    · omega
    · rw [List.length_drop]
      omega

/-- The pairs of an array are those it was filled with. -/
theorem pairsOf_fill (enough : buffer.length = types.size * pairs.length) :
    types.pairsOf pairs.length (types.fill buffer pairs) = pairs := by
  induction pairs generalizing buffer with
  | nil => rfl
  | cons pair pairs ih =>
    rw [List.length_cons, Nat.mul_succ] at enough
    have first : (buffer.take types.size).length = types.size := by
      rw [List.length_take]
      omega
    have stored := types.store_length _ pair first
    rw [List.length_cons, pairsOf_succ, fill, List.take_left' stored, List.drop_left' stored,
      types.read_store _ _ first, ih]
    rw [List.length_drop]
    omega

end Arrays

section Files

variable {cmp : κ → κ → Ordering} {map : Std.ExtTreeMap κ υ cmp}

/-- A map whose pairs fit the memory that is computed for them. -/
structure Fits (map : Std.ExtTreeMap κ υ cmp) : Prop where
  count : map.size < 2 ^ 31
  bytes : types.size * map.size < 2 ^ 31

variable {types}

/-- A map that fits has as many entries as its header says. -/
theorem Fits.toInt_size (fits : types.Fits map) : (Int32.ofNat map.size).toInt = map.size :=
  Int32.toInt_ofNat_of_lt fits.count

/-- There is memory for just its pairs. -/
theorem Fits.malloc_eq (fits : types.Fits map) :
    malloc (types.pairSize * Int32.ofNat map.size) = types.size * map.size := by
  have bytes := fits.bytes
  have equal := types.malloc_array (n := Int32.ofNat map.size) (by rw [fits.toInt_size]; omega)
    (by rw [fits.toInt_size]; exact_mod_cast bytes)
  rw [fits.toInt_size] at equal
  exact_mod_cast equal

/-- Its size passes as the size of a read. -/
theorem Fits.asSize_eq (fits : types.Fits map) : asSize (Int32.ofNat map.size) = map.size := by
  have equal := asSize_of_nonneg (n := Int32.ofNat map.size) (by rw [fits.toInt_size]; omega)
  rw [fits.toInt_size] at equal
  exact_mod_cast equal

variable [Std.TransCmp cmp] {place : DumpPlace} {file : Option Bytes}

/-- The bytes of a map as they are dumped, over the memory they are put together in. -/
def dumped (types : PairTypes κ υ) (fresh : Nat → UInt8) (map : Std.ExtTreeMap κ υ cmp) : Bytes :=
  le32 (Int32.ofNat map.size) ++
    types.fill ((List.range (types.size * map.size)).map fresh) map.toList

/-- The array has room for every pair. -/
theorem array_length (types : PairTypes κ υ) (fresh : Nat → UInt8) (map : Std.ExtTreeMap κ υ cmp) :
    ((List.range (types.size * map.size)).map fresh).length = types.size * map.toList.length := by
  rw [List.length_map, List.length_range, Std.ExtTreeMap.length_toList]

/-- A map without entries is not dumped. -/
theorem dump_empty (types : PairTypes κ υ) (place : DumpPlace) (file : Option Bytes) :
    types.dump place (∅ : Std.ExtTreeMap κ υ cmp) file = (.ok false, file) := by
  rw [dump, Std.ExtTreeMap.size_empty]
  rfl

/-- The file can be opened, and all of a map can be written to it. -/
structure Takes (types : PairTypes κ υ) (place : DumpPlace) (map : Std.ExtTreeMap κ υ cmp) :
    Prop where
  opens : place.opens
  room : 4 + types.size * map.size ≤ place.room

/-- Both parts of a map are written, and nothing else is left of the file. -/
theorem fwrite_dumped (takes : types.Takes place map) :
    let f := (WriteStream.fwrite ⟨[], place.room⟩ (le32 (Int32.ofNat map.size)) 4).2
    f.fwrite (types.fill ((List.range (types.size * map.size)).map place.fresh) map.toList)
        types.size =
      (map.size, ⟨types.dumped place.fresh map, place.room - 4 - types.size * map.size⟩) := by
  have room := takes.room
  have length := types.fill_length (types.array_length place.fresh map)
  rw [List.length_map, List.length_range] at length
  have header : (le32 (Int32.ofNat map.size)).take place.room = le32 (Int32.ofNat map.size) :=
    List.take_of_length_le (by rw [le32_length]; omega)
  have body : (types.fill ((List.range (types.size * map.size)).map place.fresh) map.toList).take
      (place.room - 4) = types.fill ((List.range (types.size * map.size)).map place.fresh)
        map.toList := List.take_of_length_le (by omega)
  simp only [WriteStream.fwrite, header, le32_length, body, length, List.nil_append,
    Nat.mul_div_cancel_left _ types.size_pos]
  rfl

/-- A map with entries is dumped as a whole. -/
theorem dump_eq (key : types.keySerializable) (value : types.valueSerializable)
    (fits : types.Fits map) (takes : types.Takes place map) (entries : map ≠ ∅) :
    types.dump place map file = (.ok true, some (types.dumped place.fresh map)) := by
  have counted : Int32.ofNat map.size ≠ 0 := by
    intro zero
    have none := fits.toInt_size
    rw [zero, Int32.toInt_zero] at none
    exact entries (Std.ExtTreeMap.eq_empty_iff_size_eq_zero.mpr (by omega))
  have writes := fwrite_dumped takes
  simp only [dump, if_neg counted, key, value, takes.opens, fits.malloc_eq, Nat.lt_irrefl,
    if_false, Bool.not_true, Bool.false_eq_true]
  rw [writes]
  simp [fits.asSize_eq]

/-- What was dumped is loaded again, whatever was in memory before. -/
theorem load_dumped (fits : types.Fits map) (fresh : Nat → UInt8) (stack : Int32) :
    types.load stack (types.dumped fresh map) (∅ : Std.ExtTreeMap κ υ cmp) = (.ok true, map) := by
  have length := types.fill_length (types.array_length fresh map)
  have pairs := types.pairsOf_fill (types.array_length fresh map)
  rw [List.length_map, List.length_range] at length
  rw [Std.ExtTreeMap.length_toList] at pairs
  -- The four bytes of the count come first, the pairs behind them.
  have header : headerCount stack (types.dumped fresh map) = Int32.ofNat map.size := by
    rw [headerCount, dumped, List.take_left' (le32_length _), List.drop_eq_nil_of_le,
      List.append_nil, ofLe32_le32]
    rw [List.length_append, le32_length, le32_length]
    omega
  have body : (types.dumped fresh map).drop 4 =
      types.fill ((List.range (types.size * map.size)).map fresh) map.toList :=
    List.drop_left' (le32_length _)
  have count : (Int32.ofNat map.size).toInt.toNat = map.size := by
    rw [fits.toInt_size]
    rfl
  simp only [load, header, body, fits.asSize_eq, fits.malloc_eq,
    List.take_of_length_le (Nat.le_of_eq length), length, Nat.lt_irrefl, if_false,
    Nat.mul_div_cancel_left _ types.size_pos, ne_eq, not_true_eq_false, count, pairs,
    emplaceAll_toList]

end Files

section Sequences

variable {cmp : κ → κ → Ordering}

/-- One dump to a path. -/
structure DumpCall (κ υ : Type) (cmp : κ → κ → Ordering) where
  place : DumpPlace
  map : Std.ExtTreeMap κ υ cmp

/-- The last map among those dumped that has any entries. -/
def lastDumped (calls : List (DumpCall κ υ cmp)) : Option (Std.ExtTreeMap κ υ cmp) :=
  ((calls.map DumpCall.map).filter (!·.isEmpty)).getLast?

variable {calls : List (DumpCall κ υ cmp)} {call : DumpCall κ υ cmp}

/-- Dumping an empty map dumps nothing. -/
theorem lastDumped_concat_empty (none : call.map = ∅) :
    lastDumped (calls ++ [call]) = lastDumped calls := by
  simp [lastDumped, none]

variable [Std.TransCmp cmp]

/-- Any other map is the last one that was dumped. -/
theorem lastDumped_concat (entries : call.map ≠ ∅) :
    lastDumped (calls ++ [call]) = some call.map := by
  have filled : call.map.isEmpty = false := by
    rw [Bool.eq_false_iff]
    exact fun empty => entries (Std.ExtTreeMap.isEmpty_iff.mp empty)
  simp [lastDumped, filled]

/-- What is at a path after some dumps to it. -/
def dumpAll (calls : List (DumpCall κ υ cmp)) (file : Option Bytes) : Option Bytes :=
  calls.foldl (fun file call => (types.dump call.place call.map file).2) file

variable {types} {file : Option Bytes}

/-- The last call finds the file that those before it left. -/
theorem dumpAll_concat : types.dumpAll (calls ++ [call]) file =
    (types.dump call.place call.map (types.dumpAll calls file)).2 := by
  rw [dumpAll, List.foldl_append]
  rfl

/-- The last map with entries is at the path, if there was any, and else what was there before. -/
theorem dumpAll_last (key : types.keySerializable) (value : types.valueSerializable)
    (all : ∀ call ∈ calls, types.Fits call.map ∧ types.Takes call.place call.map)
    (file : Option Bytes) :
    match lastDumped calls with
    | some last =>
      types.Fits last ∧ ∃ fresh, types.dumpAll calls file = some (types.dumped fresh last)
    | none => types.dumpAll calls file = file := by
  induction calls using List.reverseRecOn with
  | nil => rfl
  | append_singleton calls call ih =>
    obtain ⟨fits, takes⟩ := all call (List.mem_append_right _ List.mem_cons_self)
    have before := ih fun call member => all call (List.mem_append_left _ member)
    rw [dumpAll_concat]
    by_cases entries : call.map = ∅
    · -- The file stays as the dumps before left it.
      rw [lastDumped_concat_empty entries, entries, dump_empty]
      exact before
    · rw [lastDumped_concat entries, dump_eq key value fits takes entries]
      exact ⟨fits, call.place.fresh, rfl⟩

end Sequences

end PairTypes

section RoundTrip

variable {κ υ : Type} {cmp : κ → κ → Ordering} [Std.TransCmp cmp]

/--
A map with entries that is dumped is loaded again, and an empty one is not dumped.

So what is loaded after any number of dumps is the last map that had entries.
-/
theorem persistent_roundTrip (types : PairTypes κ υ) (key : types.keySerializable)
    (value : types.valueSerializable) :
    (∀ (place : DumpPlace) (map : Std.ExtTreeMap κ υ cmp) (file : Option Bytes),
      types.Fits map → types.Takes place map → map ≠ ∅ →
      (types.dump place map file).1 = .ok true ∧
        ∀ stack, types.loadPath stack (types.dump place map file).2 ∅ = (.ok true, map)) ∧
    (∀ (place : DumpPlace) (file : Option Bytes),
      types.dump place (∅ : Std.ExtTreeMap κ υ cmp) file = (.ok false, file)) ∧
    ∀ (calls : List (PairTypes.DumpCall κ υ cmp)) (file : Option Bytes),
      (∀ call ∈ calls, types.Fits call.map ∧ types.Takes call.place call.map) →
      match PairTypes.lastDumped calls with
      | some last => ∀ stack, types.loadPath stack (types.dumpAll calls file) ∅ = (.ok true, last)
      | none => types.dumpAll calls file = file := by
  refine ⟨fun place map file fits takes entries => ?_, PairTypes.dump_empty types,
    fun calls file all => ?_⟩
  · rw [PairTypes.dump_eq key value fits takes entries]
    exact ⟨rfl, PairTypes.load_dumped fits place.fresh⟩
  · -- The last dump that was not empty decides.
    have last := PairTypes.dumpAll_last key value all file
    cases dumped : PairTypes.lastDumped calls with
    | none =>
      rw [dumped] at last
      exact last
    | some map =>
      rw [dumped] at last
      obtain ⟨fits, fresh, same⟩ := last
      rw [same]
      exact PairTypes.load_dumped fits fresh

/-- The map of the test comes back. -/
theorem persistent_roundTrip_test :
    (testPairs.dump testPlace testMap none).1 = .ok true ∧
      ∀ stack, testPairs.loadPath stack (testPairs.dump testPlace testMap none).2
        (∅ : Std.ExtTreeMap Int32 Int32) = (Except.ok true, testMap) :=
  (persistent_roundTrip testPairs rfl rfl).1 testPlace testMap none ⟨by decide, by decide⟩
    ⟨rfl, by decide⟩ Std.ExtTreeMap.insert_ne_empty

/-- An empty map that is dumped last is not what is loaded then. -/
theorem persistent_forgets_empty :
    let file := (testPairs.dump testPlace testMap none).2
    let after := testPairs.dump testPlace (∅ : Std.ExtTreeMap Int32 Int32) file
    after.1 = .ok false ∧
      testPairs.loadPath 0 after.2 (∅ : Std.ExtTreeMap Int32 Int32) = (Except.ok true, testMap) ∧
      testMap ≠ ∅ := by
  have fits : testPairs.Fits testMap := ⟨by decide, by decide⟩
  have takes : testPairs.Takes testPlace testMap := ⟨rfl, by decide⟩
  have entries : testMap ≠ ∅ := Std.ExtTreeMap.insert_ne_empty
  intro file after
  have left : after = (.ok false, file) := PairTypes.dump_empty testPairs testPlace file
  have written : file = some (testPairs.dumped testPlace.fresh testMap) :=
    congrArg Prod.snd (PairTypes.dump_eq rfl rfl fits takes entries)
  rw [left, written]
  exact ⟨rfl, PairTypes.load_dumped fits testPlace.fresh 0, entries⟩

end RoundTrip

end Dnfs
