import Dnfs.Base.Maps
import Dnfs.Memory.Sizes

/-! Maps dumped into a file, as a count and an array of pairs, and loaded from one. -/

namespace Dnfs

/-- How the pairs of a key type and a value type lie in memory, and what is known of the types. -/
structure PairTypes (κ υ : Type) where
  /-- The size of a pair. -/
  size : Nat
  /-- Assign a pair to a place. What belongs to no member of it stays as it was. -/
  store : Bytes → κ × υ → Bytes
  /-- The pair at a place. -/
  read : Bytes → κ × υ
  keyName : String
  valueName : String
  /-- Whether the types are derived from the base class of what can be serialized. -/
  keySerializable : Bool
  valueSerializable : Bool
  size_pos : 0 < size
  size_lt : size < 2 ^ 31
  store_length : ∀ place pair, place.length = size → (store place pair).length = size
  read_store : ∀ place pair, place.length = size → read (store place pair) = pair

/-- Why a call does not return. -/
inductive Mishap where
  | exception (what : String)
  /-- A file that could not be opened is written to. -/
  | nullFile
  /-- A buffer is written beyond its end. -/
  | overflow
  deriving DecidableEq, Repr

/-- Where a dump finds its file and its memory. -/
structure DumpPlace where
  /-- Whether the file can be opened for writing. -/
  opens : Bool
  /-- How many bytes can be written to it. -/
  room : Nat
  /-- The bytes of newly allocated memory. -/
  fresh : Nat → UInt8

/-- Bytes that are being written, and room for more. -/
structure WriteStream where
  written : Bytes
  room : Nat

/-- Write items of some size, and return how many of them were written as a whole. -/
def WriteStream.fwrite (f : WriteStream) (data : Bytes) (size : Nat) : Nat × WriteStream :=
  let put := data.take f.room
  (put.length / size, ⟨f.written ++ put, f.room - put.length⟩)

namespace PairTypes

variable {κ υ : Type} {cmp : κ → κ → Ordering} [Std.TransCmp cmp] (types : PairTypes κ υ)

/-- The size of a pair as the code keeps it. -/
def pairSize : Int32 := Int32.ofNat types.size

/-- Assign pairs to the places of an array. -/
def fill : Bytes → List (κ × υ) → Bytes
  | buffer, [] => buffer
  | buffer, pair :: pairs =>
    types.store (buffer.take types.size) pair ++ fill (buffer.drop types.size) pairs

/-- Dump a map into a file, and return whether that worked, with the file as it is then. -/
def dump (place : DumpPlace) (map : Std.ExtTreeMap κ υ cmp) (file : Option Bytes) :
    Except Mishap Bool × Option Bytes :=
  let mSize := Int32.ofNat map.size
  if mSize = 0 then (.ok false, file)
  else if !types.keySerializable then
    (.error (.exception ("class " ++ types.keyName ++ " does not support serialization")), file)
  else if !types.valueSerializable then
    (.error (.exception (types.valueName ++ " does not support serialization")), file)
  else
    let capacity := malloc (types.pairSize * mSize)
    if capacity < types.size * map.size then (.error .overflow, file)
    else if !place.opens then (.error .nullFile, file)
    else
      let buffer := types.fill ((List.range capacity).map place.fresh) map.toList
      -- Opening the file has emptied it.
      let (_, f) := WriteStream.fwrite ⟨[], place.room⟩ (le32 mSize) 4
      let (res, f) := f.fwrite buffer types.size
      (.ok (res = asSize mSize), some f.written)

/-- The count that is read from a file, over what the variable for it held before. -/
def headerCount (stack : Int32) (file : Bytes) : Int32 :=
  ofLe32 (file.take 4 ++ (le32 stack).drop file.length)

/-- The first pairs of an array. -/
def pairsOf (n : Nat) (array : Bytes) : List (κ × υ) :=
  (List.range n).map fun i => types.read ((array.drop (i * types.size)).take types.size)

/-- Load a map from a file that was opened, over what the map and the variables held before. -/
def load (stack : Int32) (file : Bytes) (map : Std.ExtTreeMap κ υ cmp) :
    Except Mishap Bool × Std.ExtTreeMap κ υ cmp :=
  let mSize := headerCount stack file
  let capacity := malloc (types.pairSize * mSize)
  let array := (file.drop 4).take (types.size * asSize mSize)
  if capacity < array.length then (.error .overflow, map)
  else
    let res := array.length / types.size
    if res ≠ asSize mSize then (.ok false, map)
    else (.ok true, emplaceAll map (types.pairsOf mSize.toInt.toNat array))

/-- Load a map from a path, at which there may be no file. -/
def loadPath (stack : Int32) (file : Option Bytes) (map : Std.ExtTreeMap κ υ cmp) :
    Except Mishap Bool × Std.ExtTreeMap κ υ cmp :=
  match file with
  | none => (.ok false, map)
  | some file => types.load stack file map

end PairTypes

section Demo

/--
Pairs of the classes that the test dumps: an `int`, and a `float` by its bits.

The address of its functions stands before each, and padding after it. Neither is ever assigned.
-/
def testPairs : PairTypes Int32 Int32 where
  size := 32
  store place pair :=
    place.take 8 ++ (le32 pair.1 ++ ((place.drop 12).take 12 ++ (le32 pair.2 ++ place.drop 28)))
  read place := (ofLe32 ((place.drop 8).take 4), ofLe32 ((place.drop 24).take 4))
  keyName := "13SerializableA"
  valueName := "13SerializableB"
  keySerializable := true
  valueSerializable := true
  size_pos := by decide
  size_lt := by decide
  store_length place pair whole := by
    simp [whole]
  read_store place pair whole := by
    have front : (place.take 8).length = 8 := by simp [whole]
    have middle : ((place.drop 12).take 12).length = 12 := by simp [whole]
    -- What comes before the second member has a fixed length as well.
    have behind : ∀ rest : Bytes,
        (place.take 8 ++ (le32 pair.1 ++ ((place.drop 12).take 12 ++ rest))).drop 24 = rest := by
      intro rest
      rw [← List.append_assoc, ← List.append_assoc]
      exact List.drop_left' (by simp only [List.length_append, front, middle, le32_length])
    rw [behind, List.drop_left' front, List.take_left' (le32_length _),
      List.take_left' (le32_length _), ofLe32_le32, ofLe32_le32]

/-- The map that the test dumps. -/
def testMap : Std.ExtTreeMap Int32 Int32 :=
  (∅ : Std.ExtTreeMap Int32 Int32).insert 1 0x3f800000 |>.insert 2 0x40000000

/-- A file that can be opened and written. -/
def testPlace : DumpPlace := ⟨true, 4096, fun _ => 0xa5⟩

end Demo

end Dnfs
