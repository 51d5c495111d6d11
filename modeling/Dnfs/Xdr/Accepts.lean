import Dnfs.Xdr.Union

/-! What can be concluded about an object from its having been written. -/

namespace Dnfs

variable {α β σ : Type}

/--
If the routine writes this object at all, some fact about the object holds.

Writing keeps the direction and leaves the object as it was.
-/
def AcceptsAt (proc : Xdrproc α) (x : α) (fact : Prop) : Prop :=
  ∀ xdrs after y, xdrs.xOp = .encode → proc xdrs x = some (after, y) →
    after.xOp = .encode ∧ y = x ∧ fact

/-- Every object the routine writes satisfies the predicate. -/
def Accepts (proc : Xdrproc α) (good : α → Prop) : Prop := ∀ x, AcceptsAt proc x (good x)

section Rules

/-- With every field moved, only the fact itself remains to be shown. -/
theorem AcceptsAt.done {mk x : σ} {fact : Prop} (same : mk = x) (holds : fact) :
    AcceptsAt (fun xdrs _ => some (xdrs, mk)) x fact := by
  intro xdrs after y op wrote
  obtain ⟨rfl, rfl⟩ : xdrs = after ∧ mk = y := by simpa using wrote
  exact ⟨op, same, holds⟩

/-- What a field was accepted for may be relied on by what is written after it. -/
theorem AcceptsAt.step {proc : Xdrproc α} {get : σ → α} {next : α → Xdrproc σ} {x : σ}
    {part fact : Prop} (first : AcceptsAt proc (get x) part)
    (later : part → AcceptsAt (next (get x)) x fact) :
    AcceptsAt (fun xdrs objp => xdrs.field proc (get objp) fun xdrs a => next a xdrs objp) x
      fact := by
  intro xdrs after y op wrote
  obtain ⟨moved, a, wroteFirst, wroteLater⟩ := Xdr.field_eq_some wrote
  obtain ⟨movedOp, rfl, holds⟩ := first _ _ _ op wroteFirst
  exact later holds _ _ _ movedOp wroteLater

/-- Both branches of a test must lead to the fact. -/
theorem AcceptsAt.ite {c : Prop} [Decidable c] {yes no : Xdrproc σ} {x : σ} {fact : Prop}
    (whenYes : c → AcceptsAt yes x fact) (whenNo : ¬c → AcceptsAt no x fact) :
    AcceptsAt (fun xdrs objp => if c then yes xdrs objp else no xdrs objp) x fact := by
  by_cases holds : c
  · simpa only [if_pos holds] using whenYes holds
  · simpa only [if_neg holds] using whenNo holds

/-- The same for a test whose outcome the branches rely on. -/
theorem AcceptsAt.dite {c : Prop} [Decidable c] {yes : c → Xdrproc σ} {no : ¬c → Xdrproc σ} {x : σ}
    {fact : Prop} (whenYes : ∀ holds, AcceptsAt (yes holds) x fact)
    (whenNo : ∀ fails, AcceptsAt (no fails) x fact) :
    AcceptsAt (fun xdrs objp => if h : c then yes h xdrs objp else no h xdrs objp) x fact := by
  by_cases holds : c
  · simpa only [dif_pos holds] using whenYes holds
  · simpa only [dif_neg holds] using whenNo holds

/-- A branch that refuses leads to anything at all. -/
theorem AcceptsAt.refuse {x : σ} {fact : Prop} :
    AcceptsAt (fun _ _ => (none : Option (Xdr × σ))) x fact := by
  intro xdrs after y op wrote
  cases wrote

/-- What follows from a fact that was accepted is accepted too. -/
theorem AcceptsAt.imp {proc : Xdrproc α} {x : α} {fact other : Prop}
    (accepts : AcceptsAt proc x fact) (implies : fact → other) : AcceptsAt proc x other := by
  intro xdrs after y op wrote
  obtain ⟨afterOp, same, holds⟩ := accepts xdrs after y op wrote
  exact ⟨afterOp, same, implies holds⟩

/-- An object that is carried is left as it was. -/
theorem Carried.accepts {proc : Xdrproc α} {x : α} (carried : Carried proc x) :
    AcceptsAt proc x True := by
  obtain ⟨bytes, carried⟩ := carried
  rintro ⟨_, out⟩ after y rfl wrote
  obtain ⟨rfl, rfl⟩ : _ ∧ x = y := by simpa using (carried.writes out).symm.trans wrote
  exact ⟨rfl, rfl, trivial⟩

/-- An object that contradicts what it would be accepted for cannot be written. -/
theorem AcceptsAt.encodeOf_eq_none {proc : Xdrproc α} {x : α} {fact : Prop}
    (accepts : AcceptsAt proc x fact) (fails : ¬fact) : encodeOf proc x = none := by
  cases wrote : proc ⟨.encode, []⟩ x with
  | none => simp [encodeOf, wrote]
  | some result =>
    obtain ⟨after, y⟩ := result
    exact absurd (accepts _ _ _ rfl wrote).2.2 fails

end Rules

section Primitives

/-- Counted bytes are written only in bound. -/
theorem xdrBytes_accepts (maxsize : Nat) :
    Accepts (xdrBytes maxsize) fun data => data.length ≤ maxsize := by
  rintro data ⟨_, out⟩ after y rfl wrote
  by_cases exceeds : data.length > maxsize
  · simp [xdrBytes, exceeds] at wrote
  · obtain ⟨rfl, rfl⟩ : _ ∧ data = y := by simpa [xdrBytes, exceeds] using wrote
    exact ⟨rfl, rfl, Nat.le_of_not_lt exceeds⟩

/-- Strings are written only in bound. -/
theorem xdrString_accepts (maxsize : Nat) :
    Accepts (xdrString maxsize) fun s => (cstr s).length ≤ maxsize := by
  rintro s ⟨_, out⟩ after y rfl wrote
  by_cases exceeds : (cstr s).length > maxsize
  · simp [xdrString, exceeds] at wrote
  · obtain ⟨rfl, rfl⟩ : _ ∧ s = y := by simpa [xdrString, exceeds] using wrote
    exact ⟨rfl, rfl, Nat.le_of_not_lt exceeds⟩

/-- Booleans are left as they were, even when they are neither zero nor one. -/
theorem xdrBool_accepts (v : UInt32) : AcceptsAt xdrBool v True := by
  rintro ⟨_, out⟩ after y rfl wrote
  obtain ⟨rfl, rfl⟩ : _ ∧ v = y := by simpa [xdrBool] using wrote
  exact ⟨rfl, rfl, trivial⟩

/-- A union whose switch has a default is written only with a boolean discriminant. -/
theorem xdrBoolUnion_accepts {arm : Xdrproc α} {good : α → Prop} {fresh : α}
    (each : Accepts arm good) : Accepts (xdrBoolUnion arm fresh true) (BoolUnion.Wf good) := by
  intro x
  refine .step (xdrBool_accepts _) fun _ => ?_
  cases x with
  | absent =>
    exact .ite (fun c => absurd c (show (0 : UInt32) ≠ 1 by decide)) fun _ =>
      .ite (fun _ => .done rfl trivial) fun c => absurd rfl c
  | present a =>
    exact .ite (fun _ => .step (each a) fun holds => .done rfl holds) fun c => absurd rfl c
  | other d outside =>
    exact .ite (fun one => absurd one outside.2) fun _ =>
      .ite (fun zero => absurd zero outside.1) fun _ => .refuse

/-- A union switched on a status is written only with an arm that can be. -/
theorem xdrStatusUnion_accepts [Inhabited α] [Inhabited β] {resok : Xdrproc α}
    {resfail : Xdrproc β} {okGood : α → Prop} {failGood : β → Prop}
    (okAccepts : Accepts resok okGood)
    (failAccepts : Accepts resfail failGood) :
    Accepts (xdrStatusUnion resok resfail) (StatusUnion.Wf okGood failGood) := by
  intro x
  refine .step (Carried.accepts ⟨_, xdrUInt_carries _⟩) fun _ => ?_
  cases x with
  | ok a =>
    exact .dite (fun _ => .step (okAccepts a) fun holds => .done rfl holds) fun c => absurd rfl c
  | fail status nonzero b =>
    exact .dite (fun c => absurd c nonzero) fun _ =>
      .step (failAccepts b) fun holds => .done rfl holds

end Primitives

section Chains

variable {proc : Xdrproc α} {fresh : α} {good : α → Prop}

/-- Every node of a chain that was written was accepted. -/
theorem xdrChainAt_accepts (each : Accepts proc good) (depth : Nat) :
    Accepts (xdrChainAt proc fresh depth) fun xs => ∀ x ∈ xs, good x := by
  induction depth with
  | zero =>
    intro xs xdrs after y op wrote
    cases wrote
  | succ depth ih =>
    intro xs
    refine .step (xdrBool_accepts _) fun _ => ?_
    cases xs with
    | nil => exact .ite (fun _ => .done rfl (by simp)) fun c => absurd rfl c
    | cons node nodes =>
      refine .ite (fun c => absurd c (show (1 : UInt32) ≠ 0 by decide)) fun _ => ?_
      refine .step (each node) fun nodeGood => ?_
      exact .step (ih nodes) fun nodesGood =>
        .done rfl (List.forall_mem_cons.mpr ⟨nodeGood, nodesGood⟩)

/-- The same for a chain of any length. -/
theorem xdrChain_accepts (each : Accepts proc good) :
    Accepts (xdrChain proc fresh) fun xs => ∀ x ∈ xs, good x := by
  intro xs xdrs after y op wrote
  exact xdrChainAt_accepts each _ xs xdrs after y op wrote

end Chains

end Dnfs
