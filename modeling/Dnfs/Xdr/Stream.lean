import Dnfs.Memory.Words

/-! XDR streams and the primitive routines that write to them or read from them. -/

namespace Dnfs

/-- The part of a buffer a C string reader sees: everything before its first NUL. -/
def cstr (buffer : Bytes) : Bytes := buffer.takeWhile (· ≠ 0)

/-- The direction a routine runs in. -/
inductive XdrOp where
  /-- The object is written to the stream. -/
  | encode
  /-- The stream is read into the object. -/
  | decode
  deriving DecidableEq, Repr

/-- A stream holds the bytes written so far, or the bytes still to be read. -/
structure Xdr where
  /-- Which of the two directions this stream serves. -/
  xOp : XdrOp
  /-- Bytes written so far when encoding, bytes left when decoding. -/
  xData : Bytes
  deriving DecidableEq, Repr

/--
One routine serves both directions, chosen by the stream it is given.

Refusal is `none`, and success returns the moved stream and the object as the routine leaves it.
-/
abbrev Xdrproc (α : Type) := Xdr → α → Option (Xdr × α)

/-- Move one field, then go on with the moved stream and the field as it now stands. -/
def Xdr.field {α β : Type} (xdrs : Xdr) (proc : Xdrproc α) (a : α)
    (next : Xdr → α → Option β) : Option β :=
  match proc xdrs a with
  | some (xdrs, a) => next xdrs a
  -- The first field that fails fails the whole routine.
  | none => none

/-- Take one 32-bit unit off the front of the input. -/
def getUnit : Bytes → Option (UInt32 × Bytes)
  | a :: b :: c :: d :: rest => some (ofBe32 a b c d, rest)
  -- Fewer than four bytes are no unit.
  | _ => none

/-- Take a counted run of bytes off the front of the input. -/
def getBytes (count : Nat) (input : Bytes) : Option (Bytes × Bytes) :=
  if count ≤ input.length then some (input.take count, input.drop count) else none

/-- The number of bytes that fill a run out to whole units. -/
def roundUp (count : Nat) : Nat := (4 - count % 4) % 4

/-- A routine for a void arm moves nothing. -/
def xdrVoid : Xdrproc Unit := fun xdrs objp => some (xdrs, objp)

/-- Unsigned 32-bit integers, and enumerations, which travel as the same unit. -/
def xdrUInt : Xdrproc UInt32
  | ⟨.encode, out⟩, v => some (⟨.encode, out ++ be32 v⟩, v)
  | ⟨.decode, input⟩, _ => do
    let (v, rest) ← getUnit input
    return (⟨.decode, rest⟩, v)

/-- Unsigned 64-bit integers travel as two units, high half first. -/
def xdrULonglong : Xdrproc UInt64
  | ⟨.encode, out⟩, v =>
    some (⟨.encode, out ++ be32 (Mem.high v) ++ be32 (Mem.low v)⟩, v)
  | ⟨.decode, input⟩, _ => do
    let (high, rest) ← getUnit input
    let (low, rest) ← getUnit rest
    return (⟨.decode, rest⟩, Mem.join low high)

/-- Booleans are written as zero or one, and any nonzero unit is read as one. -/
def xdrBool : Xdrproc UInt32
  -- Writing leaves the object as it was, even when it is neither zero nor one.
  | ⟨.encode, out⟩, v => some (⟨.encode, out ++ be32 (if v ≠ 0 then 1 else 0)⟩, v)
  | ⟨.decode, input⟩, _ => do
    let (v, rest) ← getUnit input
    return (⟨.decode, rest⟩, if v ≠ 0 then 1 else 0)

/-- Enumerations travel as the unit of their underlying integer. -/
def xdrEnum : Xdrproc UInt32 := xdrUInt

/-- Write a run of bytes, filled out with zeros to whole units. -/
def xdrOpaqueEncode (out data : Bytes) : Bytes :=
  out ++ data ++ List.replicate (roundUp data.length) 0

/-- Read a counted run of bytes and skip what fills it out, whatever it holds. -/
def xdrOpaqueDecode (count : Nat) (input : Bytes) : Option (Bytes × Bytes) := do
  let (data, rest) ← getBytes count input
  let (_, rest) ← getBytes (roundUp count) rest
  return (data, rest)

/-- Eight opaque bytes, held in memory as one 64-bit integer. -/
def xdrOpaque8 : Xdrproc UInt64
  | ⟨.encode, out⟩, v => some (⟨.encode, xdrOpaqueEncode out (le64 v)⟩, v)
  | ⟨.decode, input⟩, _ => do
    let (data, rest) ← xdrOpaqueDecode 8 input
    return (⟨.decode, rest⟩, ofLe64 data)

/-- Counted bytes, at most `maxsize` of them. -/
def xdrBytes (maxsize : Nat) : Xdrproc Bytes
  | ⟨.encode, out⟩, data =>
    -- A longer run is refused before anything is written.
    if data.length > maxsize then none
    else some (⟨.encode, xdrOpaqueEncode (out ++ be32 (UInt32.ofNat data.length)) data⟩, data)
  | ⟨.decode, input⟩, _ => do
    let (size, rest) ← getUnit input
    if size.toNat > maxsize then none
    else
      let (data, rest) ← xdrOpaqueDecode size.toNat rest
      return (⟨.decode, rest⟩, data)

/-- Strings are written up to their first NUL, and read as counted bytes. -/
def xdrString (maxsize : Nat) : Xdrproc Bytes
  | ⟨.encode, out⟩, s =>
    if (cstr s).length > maxsize then none
    else
      some (⟨.encode, xdrOpaqueEncode (out ++ be32 (UInt32.ofNat (cstr s).length)) (cstr s)⟩, s)
  | ⟨.decode, input⟩, _ => do
    let (size, rest) ← getUnit input
    if size.toNat > maxsize then none
    else
      let (data, rest) ← xdrOpaqueDecode size.toNat rest
      return (⟨.decode, rest⟩, data)

/--
A chain of nodes, each announced by a true boolean, ended by a false one.

The depth bounds how many links are followed, and the next definition always supplies enough.
-/
def xdrChainAt {α : Type} (proc : Xdrproc α) (fresh : α) : Nat → Xdrproc (List α)
  | 0, _, _ => none
  | depth + 1, xdrs, objp =>
    -- A null link is announced as false, and ends the chain in both directions.
    xdrs.field xdrBool (if objp.isEmpty then 0 else 1) fun xdrs moreData =>
    if moreData = 0 then some (xdrs, [])
    else
      xdrs.field proc (objp.headD fresh) fun xdrs node =>
      xdrs.field (xdrChainAt proc fresh depth) objp.tail fun xdrs nextentry =>
      some (xdrs, node :: nextentry)

/-- A chain of nodes of any length. -/
def xdrChain {α : Type} (proc : Xdrproc α) (fresh : α) : Xdrproc (List α) := fun xdrs objp =>
  -- Writing follows one link a node, and reading takes at least one unit off the input a link.
  xdrChainAt proc fresh (objp.length + xdrs.xData.length + 1) xdrs objp

/-- What a routine writes for an object, from an empty stream. -/
def encodeOf {α : Type} (proc : Xdrproc α) (x : α) : Option Bytes :=
  (proc ⟨.encode, []⟩ x).map fun (xdrs, _) => xdrs.xData

/-- What a routine reads from an input into a cleared object, and what it leaves unread. -/
def decodeOf {α : Type} [Inhabited α] (proc : Xdrproc α) (input : Bytes) : Option (α × Bytes) :=
  (proc ⟨.decode, input⟩ default).map fun (xdrs, x) => (x, xdrs.xData)

end Dnfs
