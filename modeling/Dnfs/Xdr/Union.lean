import Dnfs.Xdr.Laws

/-! Discriminated unions: those switched on a boolean and those switched on a status. -/

namespace Dnfs

/-- A union whose arm follows a boolean discriminant. -/
inductive BoolUnion (α : Type) where
  /-- The discriminant is false and no arm follows. -/
  | absent
  /-- The discriminant is true and the arm follows. -/
  | present (arm : α)
  /-- The discriminant is neither, which memory can hold and the wire cannot. -/
  | other (discriminant : UInt32) (outside : discriminant ≠ 0 ∧ discriminant ≠ 1)
  deriving DecidableEq, Repr

namespace BoolUnion

variable {α : Type}

instance : Inhabited (BoolUnion α) := ⟨.absent⟩

/-- The discriminant as it stands in memory. -/
def discriminant : BoolUnion α → UInt32
  | absent => 0
  | present _ => 1
  | other d _ => d

/-- The arm, or what memory holds in its place. -/
def armD (fresh : α) : BoolUnion α → α
  | present arm => arm
  | _ => fresh

/-- Only the two boolean values are well formed, and an arm that follows must be. -/
def Wf (armWf : α → Prop) : BoolUnion α → Prop
  | absent => True
  | present arm => armWf arm
  | other _ _ => False

end BoolUnion

/--
The routine of a union switched on a boolean.

Some switches end in a default that refuses, and some have none and let any discriminant pass.
-/
def xdrBoolUnion {α : Type} (arm : Xdrproc α) (fresh : α) (refuses : Bool) :
    Xdrproc (BoolUnion α) := fun xdrs objp =>
  xdrs.field xdrBool objp.discriminant fun xdrs follows =>
  if follows = 1 then
    xdrs.field arm (objp.armD fresh) fun xdrs a =>
    some (xdrs, .present a)
  else if follows = 0 then some (xdrs, .absent)
  else if refuses then none
  else some (xdrs, objp)

/-- A union switched on a status, zero for the success arm and anything else for the other. -/
inductive StatusUnion (α β : Type) where
  /-- The status is zero and the success arm follows. -/
  | ok (resok : α)
  /-- The status is an error and the failure arm follows. -/
  | fail (status : UInt32) (nonzero : status ≠ 0) (resfail : β)
  deriving DecidableEq, Repr

namespace StatusUnion

variable {α β : Type}

instance [Inhabited α] : Inhabited (StatusUnion α β) := ⟨.ok default⟩

/-- The status as it stands in memory. -/
def status : StatusUnion α β → UInt32
  | ok _ => 0
  | fail s _ _ => s

/-- The success arm, or what memory holds in its place. -/
def resokD (fresh : α) : StatusUnion α β → α
  | ok a => a
  | fail _ _ _ => fresh

/-- The failure arm, or what memory holds in its place. -/
def resfailD (fresh : β) : StatusUnion α β → β
  | ok _ => fresh
  | fail _ _ b => b

/-- The arm that follows must be well formed. -/
def Wf (okWf : α → Prop) (failWf : β → Prop) : StatusUnion α β → Prop
  | ok a => okWf a
  | fail _ _ b => failWf b

end StatusUnion

/-- The routine of a union switched on a status. -/
def xdrStatusUnion {α β : Type} [Inhabited α] [Inhabited β] (resok : Xdrproc α)
    (resfail : Xdrproc β) : Xdrproc (StatusUnion α β) := fun xdrs objp =>
  xdrs.field xdrEnum objp.status fun xdrs status =>
  if zero : status = 0 then
    xdrs.field resok (objp.resokD default) fun xdrs a =>
    some (xdrs, .ok a)
  else
    xdrs.field resfail (objp.resfailD default) fun xdrs b =>
    some (xdrs, .fail status zero b)

section Laws

variable {α β : Type}

/-- A union switched on a boolean is lawful when its arm is, whether or not it has a default. -/
theorem xdrBoolUnion_lawful {arm : Xdrproc α} {wf : (Bytes → Bytes) → α → Prop} {fresh : α}
    {refuses : Bool} (lawful : Lawful arm wf) :
    Lawful (xdrBoolUnion arm fresh refuses) fun look => BoolUnion.Wf (wf look) := by
  constructor
  · intro x good
    cases x with
    | absent =>
      -- A false discriminant is all there is to write.
      refine .step ⟨_, xdrBool_carries (Or.inl rfl)⟩ ?_
      exact .ite (fun c => absurd c (show (0 : UInt32) ≠ 1 by decide)) fun _ =>
        .ite (fun _ => .done rfl)
        fun c => absurd rfl c
    | present a =>
      -- A true discriminant is followed by the arm.
      refine .step ⟨_, xdrBool_carries (Or.inr rfl)⟩ ?_
      exact .ite (fun _ => .step (lawful.carries a good) (.done rfl)) fun c => absurd rfl c
    | other d outside => exact good.elim
  · -- A boolean that was read is zero or one, so the last two branches are never reached.
    refine .step xdrBool_yields fun follows isBool => ?_
    refine .ite (fun _ => .step lawful.yields fun a good => .done good) fun notOne => ?_
    exact .ite (fun _ => .done trivial) fun notZero => absurd isBool (not_or.mpr ⟨notZero, notOne⟩)

/-- A union switched on a status is lawful when both its arms are. -/
theorem xdrStatusUnion_lawful [Inhabited α] [Inhabited β] {resok : Xdrproc α}
    {resfail : Xdrproc β} {okWf : (Bytes → Bytes) → α → Prop}
    {failWf : (Bytes → Bytes) → β → Prop} (okLawful : Lawful resok okWf)
    (failLawful : Lawful resfail failWf) :
    Lawful (xdrStatusUnion resok resfail) fun look =>
      StatusUnion.Wf (okWf look) (failWf look) := by
  constructor
  · intro x good
    cases x with
    | ok a =>
      -- A zero status is followed by the success arm.
      refine .step ⟨_, xdrUInt_carries 0⟩ ?_
      exact .dite (fun _ => .step (okLawful.carries a good) (.done rfl)) fun c => absurd rfl c
    | fail status nonzero b =>
      -- Any other status is followed by the failure arm.
      refine .step ⟨_, xdrUInt_carries status⟩ ?_
      exact .dite (fun c => absurd c nonzero) fun _ => .step (failLawful.carries b good) (.done rfl)
  · refine .step xdrUInt_yields fun status _ => ?_
    exact .dite (fun _ => .step okLawful.yields fun a good => .done good)
      fun _ => .step failLawful.yields fun b good => .done good

end Laws

end Dnfs
