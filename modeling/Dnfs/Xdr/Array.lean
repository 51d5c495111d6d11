import Dnfs.Xdr.Laws

/-! Counted arrays, whose elements are moved one after another by a routine of their own. -/

namespace Dnfs

variable {α : Type}

/-- So many elements one after another, each moved in its own place of the array. -/
def xdrElements (elem : Xdrproc α) (fresh : α) : Nat → Xdrproc (List α)
  | 0, xdrs, _ => some (xdrs, [])
  | count + 1, xdrs, objp =>
    -- Places that were not there before are allocated as zeros.
    xdrs.field elem (objp.headD fresh) fun xdrs a =>
    xdrs.field (xdrElements elem fresh count) objp.tail fun xdrs rest =>
    some (xdrs, a :: rest)

/-- Counted arrays of at most so many elements. -/
def xdrArray (maxsize : Nat) (elem : Xdrproc α) (fresh : α) : Xdrproc (List α) := fun xdrs objp =>
  match xdrs.xOp with
  | .encode =>
    -- A longer array is refused before anything is written.
    if objp.length > maxsize then none
    else
      xdrs.field xdrUInt (UInt32.ofNat objp.length) fun xdrs _ =>
      xdrElements elem fresh objp.length xdrs objp
  | .decode =>
    xdrs.field xdrUInt 0 fun xdrs size =>
    if size.toNat > maxsize then none else xdrElements elem fresh size.toNat xdrs objp

variable {elem : Xdrproc α} {fresh : α}

/-- Elements that are carried one by one are carried in a row. -/
theorem xdrElements_carried {xs : List α} (each : ∀ x ∈ xs, Carried elem x) :
    Carried (xdrElements elem fresh xs.length) xs := by
  -- The induction follows the array, whose first element is written in front of the others.
  induction xs with
  | nil => exact ⟨[], fun out => by simp [xdrElements], fun old rest => by simp [xdrElements]⟩
  | cons x xs ih =>
    obtain ⟨front, first⟩ := each x List.mem_cons_self
    obtain ⟨back, later⟩ := ih fun y within => each y (List.mem_cons_of_mem x within)
    refine ⟨front ++ back, ?_, ?_⟩
    · intro out
      simp only [List.length_cons, xdrElements, List.headD_cons, List.tail_cons,
        Xdr.field_of_some (first.writes out), Xdr.field_of_some (later.writes _),
        List.append_assoc]
    · intro old rest
      simp only [List.length_cons, xdrElements, List.append_assoc,
        Xdr.field_of_some (first.reads _ _), Xdr.field_of_some (later.reads _ _)]

/-- An array within its bound is carried when its elements are. -/
theorem xdrArray_carried {maxsize : Nat} {xs : List α} (small : maxsize < 2 ^ 32)
    (within : xs.length ≤ maxsize) (each : ∀ x ∈ xs, Carried elem x) :
    Carried (xdrArray maxsize elem fresh) xs := by
  -- The count fits its unit, so as many elements are read as were written.
  have count : (UInt32.ofNat xs.length).toNat = xs.length :=
    UInt32.toNat_ofNat_of_lt' (Nat.lt_of_le_of_lt within small)
  have counted := xdrUInt_carries (UInt32.ofNat xs.length)
  have fits : ¬xs.length > maxsize := Nat.not_lt.mpr within
  have elements : Carried (xdrElements elem fresh xs.length) xs := xdrElements_carried each
  obtain ⟨bytes, elements⟩ := elements
  refine ⟨be32 (UInt32.ofNat xs.length) ++ bytes, ?_, ?_⟩
  · intro out
    simp only [xdrArray, fits, if_false, Xdr.field_of_some (counted.writes out), elements.writes,
      List.append_assoc]
  · intro old rest
    simp only [xdrArray, List.append_assoc, Xdr.field_of_some (counted.reads 0 _), count, fits,
      if_false, elements.reads]

end Dnfs
