import Dnfs.Xdr.Accepts

/-! How many bytes an object takes on the wire. -/

namespace Dnfs

variable {α β σ : Type}

/-- If the routine writes this object at all, it writes so many bytes. -/
def TakesAt (proc : Xdrproc α) (x : α) (size : Nat) : Prop :=
  ∀ xdrs after y, xdrs.xOp = .encode → proc xdrs x = some (after, y) →
    after.xOp = .encode ∧ y = x ∧ after.xData.length = xdrs.xData.length + size

/-- Every object the routine writes takes as many bytes as the measure says. -/
def Takes (proc : Xdrproc α) (size : α → Nat) : Prop := ∀ x, TakesAt proc x (size x)

section Rules

/-- With every field moved, nothing more is written. -/
theorem TakesAt.done {mk x : σ} (same : mk = x) : TakesAt (fun xdrs _ => some (xdrs, mk)) x 0 := by
  intro xdrs after y op wrote
  obtain ⟨rfl, rfl⟩ : xdrs = after ∧ mk = y := by simpa using wrote
  exact ⟨op, same, rfl⟩

/-- A field adds its own bytes to those of what is written after it. -/
theorem TakesAt.step {proc : Xdrproc α} {get : σ → α} {next : α → Xdrproc σ} {x : σ}
    {part size : Nat} (first : TakesAt proc (get x) part)
    (later : TakesAt (next (get x)) x size) :
    TakesAt (fun xdrs objp => xdrs.field proc (get objp) fun xdrs a => next a xdrs objp) x
      (part + size) := by
  intro xdrs after y op wrote
  obtain ⟨moved, a, wroteFirst, wroteLater⟩ := Xdr.field_eq_some wrote
  obtain ⟨movedOp, rfl, grown⟩ := first _ _ _ op wroteFirst
  obtain ⟨afterOp, same, grownLater⟩ := later _ _ _ movedOp wroteLater
  exact ⟨afterOp, same, by rw [grownLater, grown, Nat.add_assoc]⟩

/-- Both branches of a test must take the same. -/
theorem TakesAt.ite {c : Prop} [Decidable c] {yes no : Xdrproc σ} {x : σ} {size : Nat}
    (whenYes : c → TakesAt yes x size) (whenNo : ¬c → TakesAt no x size) :
    TakesAt (fun xdrs objp => if c then yes xdrs objp else no xdrs objp) x size := by
  by_cases holds : c
  · simpa only [if_pos holds] using whenYes holds
  · simpa only [if_neg holds] using whenNo holds

/-- A branch that refuses takes anything at all. -/
theorem TakesAt.refuse {x : σ} {size : Nat} :
    TakesAt (fun _ _ => (none : Option (Xdr × σ))) x size := by
  intro xdrs after y op wrote
  cases wrote

/-- What is written from an empty stream is as long as the object takes. -/
theorem TakesAt.encodeOf_length {proc : Xdrproc α} {x : α} {size : Nat} {bytes : Bytes}
    (takes : TakesAt proc x size) (wrote : encodeOf proc x = some bytes) : bytes.length = size := by
  obtain ⟨⟨after, y⟩, moved, rfl⟩ := Option.map_eq_some_iff.mp wrote
  obtain ⟨_, _, grown⟩ := takes _ _ _ rfl moved
  rw [grown, List.length_nil, Nat.zero_add]

end Rules

section Primitives

/-- The bytes of a counted run: the count, the run itself and what fills it out. -/
def countedSize (data : Bytes) : Nat := 4 + data.length + roundUp data.length

/-- An integer takes one unit. -/
theorem xdrUInt_takes : Takes xdrUInt fun _ => 4 := by
  rintro v ⟨_, out⟩ after y rfl wrote
  obtain ⟨rfl, rfl⟩ : _ ∧ v = y := by simpa [xdrUInt] using wrote
  exact ⟨rfl, rfl, by simp⟩

/-- A long integer takes two. -/
theorem xdrULonglong_takes : Takes xdrULonglong fun _ => 8 := by
  rintro v ⟨_, out⟩ after y rfl wrote
  obtain ⟨rfl, rfl⟩ : _ ∧ v = y := by simpa [xdrULonglong] using wrote
  exact ⟨rfl, rfl, by simp⟩

/-- A boolean takes one unit. -/
theorem xdrBool_takes : Takes xdrBool fun _ => 4 := by
  rintro v ⟨_, out⟩ after y rfl wrote
  obtain ⟨rfl, rfl⟩ : _ ∧ v = y := by simpa [xdrBool] using wrote
  exact ⟨rfl, rfl, by simp⟩

/-- Eight opaque bytes take two units. -/
theorem xdrOpaque8_takes : Takes xdrOpaque8 fun _ => 8 := by
  rintro v ⟨_, out⟩ after y rfl wrote
  obtain ⟨rfl, rfl⟩ : _ ∧ v = y := by simpa [xdrOpaque8] using wrote
  exact ⟨rfl, rfl, by simp [xdrOpaqueEncode, roundUp]⟩

/-- A counted run takes its count and is filled out to whole units. -/
theorem xdrBytes_takes (maxsize : Nat) : Takes (xdrBytes maxsize) countedSize := by
  rintro data ⟨_, out⟩ after y rfl wrote
  by_cases exceeds : data.length > maxsize
  · simp [xdrBytes, exceeds] at wrote
  · obtain ⟨rfl, rfl⟩ : _ ∧ data = y := by simpa [xdrBytes, exceeds] using wrote
    exact ⟨rfl, rfl, by simp [xdrOpaqueEncode, countedSize, Nat.add_assoc]⟩

/-- So does a string, up to its NUL. -/
theorem xdrString_takes (maxsize : Nat) : Takes (xdrString maxsize) (countedSize ∘ cstr) := by
  rintro s ⟨_, out⟩ after y rfl wrote
  by_cases exceeds : (cstr s).length > maxsize
  · simp [xdrString, exceeds] at wrote
  · obtain ⟨rfl, rfl⟩ : _ ∧ s = y := by simpa [xdrString, exceeds] using wrote
    exact ⟨rfl, rfl, by simp [xdrOpaqueEncode, countedSize, Nat.add_assoc]⟩

/-- The bytes of a union switched on a boolean. -/
def BoolUnion.size (armSize : α → Nat) : BoolUnion α → Nat
  | present arm => 4 + armSize arm
  | _ => 4

/-- A union takes its discriminant, and its arm where that follows. -/
theorem xdrBoolUnion_takes {arm : Xdrproc α} {armSize : α → Nat} {fresh : α}
    (each : Takes arm armSize) : Takes (xdrBoolUnion arm fresh true) (BoolUnion.size armSize) := by
  intro x
  cases x with
  | absent =>
    show TakesAt _ _ (4 + 0)
    refine .step (xdrBool_takes _) ?_
    exact .ite (fun c => absurd c (show (0 : UInt32) ≠ 1 by decide)) fun _ =>
      .ite (fun _ => .done rfl) fun c => absurd rfl c
  | present a =>
    show TakesAt _ _ (4 + (armSize a + 0))
    refine .step (xdrBool_takes _) ?_
    exact .ite (fun _ => .step (each a) (.done rfl)) fun c => absurd rfl c
  | other d outside =>
    show TakesAt _ _ (4 + 0)
    refine .step (xdrBool_takes _) ?_
    exact .ite (fun one => absurd one outside.2) fun _ =>
      .ite (fun zero => absurd zero outside.1) fun _ => .refuse

end Primitives

section Chains

variable {proc : Xdrproc α} {fresh : α} {size : α → Nat}

/-- The bytes of a chain: a boolean before each node, and one at the end. -/
def chainSize (size : α → Nat) (xs : List α) : Nat := (xs.map fun x => 4 + size x).sum + 4

/-- A list takes one unit more than its nodes and the marks before them. -/
theorem xdrChainAt_takes (each : Takes proc size) (depth : Nat) :
    Takes (xdrChainAt proc fresh depth) (chainSize size) := by
  -- Each node has a flag before it, and so has the end.
  induction depth with
  | zero =>
    intro xs xdrs after y op wrote
    cases wrote
  | succ depth ih =>
    intro xs
    cases xs with
    | nil =>
      show TakesAt _ _ (4 + 0)
      refine .step (xdrBool_takes _) ?_
      exact .ite (fun _ => .done rfl) fun c => absurd rfl c
    | cons node nodes =>
      have total : 4 + (size node + (chainSize size nodes + 0))
          = chainSize size (node :: nodes) := by
        simp only [chainSize, List.map_cons, List.sum_cons]
        omega
      rw [← total]
      refine .step (xdrBool_takes _) ?_
      refine .ite (fun c => absurd c (show (1 : UInt32) ≠ 0 by decide)) fun _ => ?_
      exact .step (each node) (.step (ih nodes) (.done rfl))

/-- A chain takes what its nodes take. -/
theorem xdrChain_takes (each : Takes proc size) : Takes (xdrChain proc fresh) (chainSize size) := by
  intro xs xdrs after y op wrote
  exact xdrChainAt_takes each _ xs xdrs after y op wrote

end Chains

end Dnfs
