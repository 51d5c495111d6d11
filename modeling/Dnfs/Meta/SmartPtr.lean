import Dnfs.Memory.Words

/-! Smart pointers, and the pools that keep one for every value they were given. -/

namespace Dnfs

/-- What a value is asked for by whoever shares it. -/
class SmartPtrValue (α : Type) where
  getId : α → UInt64
  comporeData : α → α → Bool

open SmartPtrValue

/-- A smart pointer: where its value and the counter of that lie, and the pool it reports to. -/
structure SmartPtr where
  /-- Value and counter are made together and copied together, so one address stands for both. -/
  ptr : Nat
  smartPtrPool : Nat
  deriving DecidableEq, Repr

/-- A value that was inserted. -/
structure Shared (α : Type) where
  value : α
  /-- The pool that the value was inserted into, which nothing reads. -/
  home : Nat
  deriving DecidableEq, Repr

/-- One call of `delete_item`. -/
structure DeleteCall where
  pool : Nat
  ptr : Nat
  /-- Whether some smart pointer outside the pools held the value meanwhile. -/
  held : Bool
  deriving DecidableEq, Repr

/-- Any number of pools, with the values they were given and the smart pointers outside them. -/
structure Pools (α : Type) where
  /-- Every value there ever was, by address. -/
  shared : List (Shared α)
  /-- The counter of each of them. -/
  count : Nat → UInt32
  /-- The addresses whose value and counter were deleted, newest first. -/
  freed : List Nat
  /-- What each pool keeps for an id: a list that is never deleted, or nothing. -/
  handlePool : Nat → UInt64 → Option (List SmartPtr)
  /-- The smart pointers outside, each in a place of its own until it is destroyed. -/
  slots : List (Option SmartPtr)
  /-- The calls of `delete_item`, newest first. -/
  deleted : List DeleteCall

namespace Pools

variable {α : Type}

/-- Nothing was inserted yet. -/
def empty : Pools α := ⟨[], fun _ => 0, [], fun _ _ => none, [], []⟩

/-- What lies at an address, unless it was deleted. -/
def read (s : Pools α) (ptr : Nat) : Option (Shared α) :=
  if ptr ∈ s.freed then none else s.shared[ptr]?

/-- How many smart pointers outside hold a value. -/
def holders (s : Pools α) (ptr : Nat) : Nat := s.slots.countP fun slot => slot.any (·.ptr = ptr)

/-- Store a count. -/
def setCount (s : Pools α) (ptr : Nat) (count : UInt32) : Pools α :=
  { s with count := fun other => if other = ptr then count else s.count other }

/-- Delete a value and its counter. -/
def free (s : Pools α) (ptr : Nat) : Pools α := { s with freed := ptr :: s.freed }

/-- Store what a pool keeps for an id. -/
def setList (s : Pools α) (pool : Nat) (key : UInt64) (list : Option (List SmartPtr)) : Pools α :=
  { s with handlePool := fun p k => if p = pool ∧ k = key then list else s.handlePool p k }

/-- Note down a call of `delete_item`. -/
def note (s : Pools α) (pool ptr : Nat) : Pools α :=
  { s with deleted := ⟨pool, ptr, s.holders ptr ≠ 0⟩ :: s.deleted }

/-- Put a smart pointer in a place, or take it away. -/
def setSlot (s : Pools α) (i : Nat) (slot : Option SmartPtr) : Pools α :=
  { s with slots := s.slots.set i slot }

/-- Count one more. Touching what was deleted is undefined. -/
def addCount (s : Pools α) (ptr : Nat) : Option (Pools α) :=
  (s.read ptr).map fun _ => s.setCount ptr (s.count ptr + 1)

/-- Construct a copy of a smart pointer, outside. -/
def copy (s : Pools α) (item : SmartPtr) : Option (Pools α) :=
  (s.addCount item.ptr).map fun s => { s with slots := s.slots ++ [some item] }

variable [SmartPtrValue α]

/-- Release the first entry of a list whose value is the same, and leave it in the list. -/
def deleteData (release : SmartPtr → Pools α → Option (Pools α)) (deletePtr : Nat) :
    List SmartPtr → Pools α → Option (Pools α)
  | [], s => some s
  | item :: rest, s => do
    let deletes ← s.read deletePtr
    let other ← s.read item.ptr
    if comporeData deletes.value other.value then release item s
    else deleteData release deletePtr rest s

/-- Release the entry of a value, and drop whatever else is kept for its id. -/
def deleteItem (release : SmartPtr → Pools α → Option (Pools α)) (pool : Nat) (key : UInt64)
    (ptr : Nat) (s : Pools α) : Option (Pools α) := do
  let s := s.note pool ptr
  let s ← match s.handlePool pool key with
    | some list => deleteData release ptr list s
    | none => some s
  return s.setList pool key none

/-- Release a smart pointer, and the entry of its pool in some way. -/
def realseWith (release : SmartPtr → Pools α → Option (Pools α)) (item : SmartPtr)
    (s : Pools α) : Option (Pools α) := do
  let shared ← s.read item.ptr
  let count := s.count item.ptr - 1
  let s := s.setCount item.ptr count
  -- One that is left is taken to be the entry of the pool.
  if count = 1 then deleteItem release item.smartPtrPool (getId shared.value) item.ptr s
  else if count = 0 then return s.free item.ptr
  else return s

/--
Release a smart pointer, and the entry of its pool in the same way.

The depth bounds how many releases are nested, and the next definition always supplies enough.
-/
def realseAt : Nat → SmartPtr → Pools α → Option (Pools α)
  | 0, _, _ => none
  | depth + 1, item, s => realseWith (realseAt depth) item s

/-- All counts together. -/
def total (s : Pools α) : Nat :=
  ((List.range s.shared.length).map fun ptr => (s.count ptr).toNat).sum

/-- Release a smart pointer, where every nested release takes one off some count. -/
def realse (item : SmartPtr) (s : Pools α) : Option (Pools α) := realseAt (s.total + 1) item s

/-- The first entry of a list whose value is the same as one that is looked for. -/
def searchData (s : Pools α) (searched : α) : List SmartPtr → Option (Option SmartPtr)
  | [] => some none
  | item :: rest => do
    let other ← s.read item.ptr
    if comporeData searched other.value then some (some item) else searchData s searched rest

/-- The entry a pool keeps for a value. -/
def lookup (s : Pools α) (pool : Nat) (searched : α) : Option (Option SmartPtr) :=
  match s.handlePool pool (getId searched) with
  | some list => s.searchData searched list
  | none => some none

/-- Insert a new value, and return a copy of its entry. -/
def pushFh (pool : Nat) (value : α) (s : Pools α) : Option (Pools α) :=
  let item : SmartPtr := ⟨s.shared.length, pool⟩
  -- The entry is appended to the list of its id, which is made if there is none.
  let list := (s.handlePool pool (getId value)).getD [] ++ [item]
  let s : Pools α := { s with shared := s.shared ++ [⟨value, pool⟩] }
  ((s.setCount item.ptr 1).setList pool (getId value) (some list)).copy item

/-- Return a copy of the entry for a value, which is inserted if there is none. -/
def getFh (pool : Nat) (value : α) (s : Pools α) : Option (Pools α) := do
  match ← s.lookup pool value with
  | some item => s.copy item
  | none => pushFh pool value s

/-- Destroy the smart pointer in some place. -/
def destroy (i : Nat) (s : Pools α) : Option (Pools α) :=
  match s.slots[i]? with
  | some (some item) => realse item (s.setSlot i none)
  | _ => some s

/-- Copy the smart pointer in some place. -/
def copySlot (i : Nat) (s : Pools α) : Option (Pools α) :=
  match s.slots[i]? with
  | some (some item) => s.copy item
  | _ => some s

/-- Assign the smart pointer in one place to that in another. -/
def assign (i j : Nat) (s : Pools α) : Option (Pools α) :=
  match s.slots[i]?, s.slots[j]? with
  | some (some item), some (some other) =>
    if item.ptr = other.ptr then some s
    else do
      let s ← realse item (s.setSlot i none)
      let s ← s.addCount other.ptr
      -- The pool is not assigned.
      return s.setSlot i (some ⟨other.ptr, item.smartPtrPool⟩)
  | _, _ => some s

end Pools

/-- What a program does with pools and smart pointers. -/
inductive PoolOp (α : Type) where
  | push (pool : Nat) (value : α)
  | get (pool : Nat) (value : α)
  | copy (i : Nat)
  | assign (i j : Nat)
  | destroy (i : Nat)
  deriving DecidableEq, Repr

/-- Do one thing, unless that is undefined. -/
def PoolOp.step {α : Type} [SmartPtrValue α] : PoolOp α → Pools α → Option (Pools α)
  | push pool value => Pools.pushFh pool value
  | get pool value => Pools.getFh pool value
  | copy i => Pools.copySlot i
  | assign i j => Pools.assign i j
  | destroy i => Pools.destroy i

section Demo

/-- A value of which the id is only a part, compared as a whole. -/
structure Tagged where
  id : UInt64
  data : Nat
  deriving DecidableEq, Repr

instance : SmartPtrValue Tagged where
  getId := Tagged.id
  comporeData a b := a = b

end Demo

end Dnfs
