import Dnfs.Memory.Sizes

/-! The cache of the values used last: a linked list, and a table of the nodes of its values. -/

namespace Dnfs

variable {α : Type}

/-- What adding a value reports. -/
structure LruAddRes (α : Type) where
  isPop : Bool := false
  /-- The value that was pushed out, and nothing in particular as long as none was. -/
  popItem : Option α := none
  deriving DecidableEq, Repr

/-- A cache of values. -/
structure Lru (α : Type) where
  /-- The nodes of the list from the front on, each with an address that stays its own. -/
  mList : List (Nat × α)
  /-- The node that is kept for a value. -/
  mMap : α → Option Nat
  capacity : Int32
  /-- The address of the node that is made next. -/
  fresh : Nat

namespace Lru

variable (s : Lru α) (value : α)

/-- A cache that was just constructed. -/
def new (cap : Int32) : Lru α := ⟨[], fun _ => none, cap, 0⟩

/-- The values that are held. -/
def values : List α := s.mList.map Prod.snd

/-- The capacity as a size is compared with it. -/
def limit : Nat := asSize s.capacity

/-- The list without one of its nodes, which is undefined for a node that is gone. -/
def unlink (node : Nat) : Option (List (Nat × α)) :=
  if s.mList.any (·.1 = node) then some (s.mList.filter (·.1 ≠ node)) else none

variable [DecidableEq α]

/-- Keep a node for a value, or none any more. -/
def setNode (node : Option Nat) : α → Option Nat :=
  fun other => if other = value then node else s.mMap other

/-- Push out the last value if the limit is reached. An empty list has no last value. -/
def makeRoom : Option (Lru α × LruAddRes α) :=
  if s.mList.length = s.limit then do
    let last ← s.mList.getLast?
    return ({ s with mList := s.mList.dropLast, mMap := s.setNode last.2 none },
      { isPop := true, popItem := some last.2 })
  else some (s, {})

/-- Put a value in front. -/
def pushFront : Lru α :=
  { s with
    mList := (s.fresh, value) :: s.mList
    mMap := s.setNode value (some s.fresh)
    fresh := s.fresh + 1 }

/-- Add a value. -/
def add (s : Lru α) : Option (Lru α × LruAddRes α) := do
  let (s, res) ← s.makeRoom
  return (s.pushFront value, res)

/-- Move the node of a value to the front. -/
def access (s : Lru α) : Option (Lru α) :=
  match s.mMap value with
  | some node => (s.unlink node).map fun rest => { s with mList := (node, value) :: rest }
  | none => some s

/-- Remove a value. -/
def remove (s : Lru α) : Option (Lru α) :=
  match s.mMap value with
  | some node => (s.unlink node).map fun rest =>
      { s with mList := rest, mMap := s.setNode value none }
  | none => some s

end Lru

/-- What is done with a cache. -/
inductive LruOp (α : Type) where
  | add (value : α)
  | access (value : α)
  | remove (value : α)
  deriving DecidableEq, Repr

namespace LruOp

variable [DecidableEq α]

/-- Do one thing with a cache, unless that is undefined. -/
def step : LruOp α → Lru α → Option (Lru α)
  | add value, s => (s.add value).map Prod.fst
  | access value, s => s.access value
  | remove value, s => s.remove value

/-- What one thing done with a cache reports as pushed out. -/
def popped : LruOp α → Lru α → Option α
  | add value, s => (s.add value).bind (·.2.popItem)
  | _, _ => none

/-- Whether something done is the use of a value. -/
def uses : LruOp α → α → Bool
  | add value, other => value = other
  | access value, other => value = other
  | remove _, _ => false

end LruOp

end Dnfs
