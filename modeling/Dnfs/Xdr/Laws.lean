import Dnfs.Xdr.Stream
import Mathlib.Data.List.TakeWhile

/-! What it means for a routine to write an object back faithfully, and how routines compose. -/

namespace Dnfs

/--
The routine writes exactly these bytes for this object, and rebuilds the object from them.

What the stream held before and what follows the bytes are both left alone.
-/
structure Carries {α : Type} (proc : Xdrproc α) (x : α) (bytes : Bytes) : Prop where
  /-- Writing appends the bytes and leaves the object as it was. -/
  writes : ∀ out, proc ⟨.encode, out⟩ x = some (⟨.encode, out ++ bytes⟩, x)
  /-- Reading consumes the bytes, whatever the object held before and whatever follows. -/
  reads : ∀ old rest, proc ⟨.decode, bytes ++ rest⟩ old = some (⟨.decode, rest⟩, x)

/-- The routine carries this object, by some bytes or other. -/
def Carried {α : Type} (proc : Xdrproc α) (x : α) : Prop := ∃ bytes, Carries proc x bytes

/-- Every object the routine reads off any input satisfies the predicate. -/
def Yields {α : Type} (proc : Xdrproc α) (wf : α → Prop) : Prop :=
  ∀ xdrs old after x, xdrs.xOp = .decode → proc xdrs old = some (after, x) →
    after.xOp = .decode ∧ wf x

/--
A routine is lawful for a well-formedness predicate when both directions respect it.

The predicate takes the way strings are looked at. Objects to be written are looked at as they
are, and objects that were read are looked at through the eyes of a C string reader.
-/
structure Lawful {α : Type} (proc : Xdrproc α) (wf : (Bytes → Bytes) → α → Prop) : Prop where
  /-- A well-formed object can be written and survives being read back. -/
  carries : ∀ x, wf id x → Carried proc x
  /-- Whatever is read is well formed. -/
  yields : Yields proc (wf cstr)

variable {α σ : Type}

/-- A field that moves hands over to the rest of the routine. -/
theorem Xdr.field_of_some {xdrs moved : Xdr} {proc : Xdrproc α} {a b : α}
    {next : Xdr → α → Option σ} (moves : proc xdrs a = some (moved, b)) :
    xdrs.field proc a next = next moved b := by
  simp only [Xdr.field, moves]

/-- A routine that gets past a field moved it, and the rest of the routine succeeded. -/
theorem Xdr.field_eq_some {xdrs : Xdr} {proc : Xdrproc α} {a : α}
    {next : Xdr → α → Option σ} {result : σ} (done : xdrs.field proc a next = some result) :
    ∃ moved b, proc xdrs a = some (moved, b) ∧ next moved b = some result := by
  simp only [Xdr.field] at done
  split at done
  · rename_i moved b moves
    exact ⟨moved, b, moves, done⟩
  · cases done

/-- With every field moved, nothing is left to write or to read. -/
theorem Carried.done {mk : σ} {x : σ} (same : mk = x) :
    Carried (fun xdrs _ => some (xdrs, mk)) x := by
  subst same
  exact ⟨[], fun out => by simp, fun old rest => by simp⟩

/-- One field is moved, and the rest of the routine carries on from there. -/
theorem Carried.step {proc : Xdrproc α} {get : σ → α} {next : α → Xdrproc σ} {x : σ}
    (first : Carried proc (get x)) (later : Carried (next (get x)) x) :
    Carried (fun xdrs objp => xdrs.field proc (get objp) fun xdrs a => next a xdrs objp) x := by
  obtain ⟨front, first⟩ := first
  obtain ⟨back, later⟩ := later
  refine ⟨front ++ back, ?_, ?_⟩
  · -- The field appends its bytes, and the rest of the routine appends its own behind them.
    intro out
    rw [Xdr.field_of_some (first.writes out), later.writes, List.append_assoc]
  · -- The field consumes its bytes, and what follows them is what the rest was written as.
    intro old rest
    rw [List.append_assoc, Xdr.field_of_some (first.reads (get old) (back ++ rest)), later.reads]

/-- A routine that settles a test one way carries what that branch carries. -/
theorem Carried.ite {c : Prop} [Decidable c] {yes no : Xdrproc σ} {x : σ}
    (whenYes : c → Carried yes x) (whenNo : ¬c → Carried no x) :
    Carried (fun xdrs objp => if c then yes xdrs objp else no xdrs objp) x := by
  by_cases holds : c
  · simpa only [if_pos holds] using whenYes holds
  · simpa only [if_neg holds] using whenNo holds

/-- The same for a test whose outcome the branches rely on. -/
theorem Carried.dite {c : Prop} [Decidable c] {yes : c → Xdrproc σ} {no : ¬c → Xdrproc σ} {x : σ}
    (whenYes : ∀ holds, Carried (yes holds) x) (whenNo : ∀ fails, Carried (no fails) x) :
    Carried (fun xdrs objp => if h : c then yes h xdrs objp else no h xdrs objp) x := by
  by_cases holds : c
  · simpa only [dif_pos holds] using whenYes holds
  · simpa only [dif_neg holds] using whenNo holds

/-- Once every field is read, only the assembled object remains to be judged. -/
theorem Yields.done {mk : σ} {wf : σ → Prop} (holds : wf mk) :
    Yields (fun xdrs _ => some (xdrs, mk)) wf := by
  intro xdrs old after x op read
  obtain ⟨rfl, rfl⟩ : xdrs = after ∧ mk = x := by simpa using read
  exact ⟨op, holds⟩

/-- A field read off the input may be relied on by what is read after it. -/
theorem Yields.step {proc : Xdrproc α} {get : σ → α} {next : α → Xdrproc σ}
    {part : α → Prop} {wf : σ → Prop} (first : Yields proc part)
    (later : ∀ a, part a → Yields (next a) wf) :
    Yields (fun xdrs objp => xdrs.field proc (get objp) fun xdrs a => next a xdrs objp) wf := by
  intro xdrs old after x op read
  obtain ⟨moved, a, readFirst, readLater⟩ := Xdr.field_eq_some read
  obtain ⟨movedOp, holds⟩ := first _ _ _ _ op readFirst
  exact later a holds _ _ _ _ movedOp readLater

/-- Both branches of a test must yield what is asked for. -/
theorem Yields.ite {c : Prop} [Decidable c] {yes no : Xdrproc σ} {wf : σ → Prop}
    (whenYes : c → Yields yes wf) (whenNo : ¬c → Yields no wf) :
    Yields (fun xdrs objp => if c then yes xdrs objp else no xdrs objp) wf := by
  by_cases holds : c
  · simpa only [if_pos holds] using whenYes holds
  · simpa only [if_neg holds] using whenNo holds

/-- The same for a test whose outcome the branches rely on. -/
theorem Yields.dite {c : Prop} [Decidable c] {yes : c → Xdrproc σ} {no : ¬c → Xdrproc σ}
    {wf : σ → Prop} (whenYes : ∀ holds, Yields (yes holds) wf)
    (whenNo : ∀ fails, Yields (no fails) wf) :
    Yields (fun xdrs objp => if h : c then yes h xdrs objp else no h xdrs objp) wf := by
  by_cases holds : c
  · simpa only [dif_pos holds] using whenYes holds
  · simpa only [dif_neg holds] using whenNo holds

/-- A branch that refuses yields anything at all. -/
theorem Yields.refuse {wf : σ → Prop} : Yields (fun _ _ => (none : Option (Xdr × σ))) wf := by
  intro xdrs old after x op read
  cases read

section Records

variable {α₁ α₂ α₃ α₄ α₅ : Type} {p₁ : Xdrproc α₁} {p₂ : Xdrproc α₂} {p₃ : Xdrproc α₃}
  {p₄ : Xdrproc α₄} {p₅ : Xdrproc α₅} {f₁ : σ → α₁} {f₂ : σ → α₂} {f₃ : σ → α₃} {f₄ : σ → α₄}
  {f₅ : σ → α₅} {wf₁ : (Bytes → Bytes) → α₁ → Prop} {wf₂ : (Bytes → Bytes) → α₂ → Prop}
  {wf₃ : (Bytes → Bytes) → α₃ → Prop} {wf₄ : (Bytes → Bytes) → α₄ → Prop}
  {wf₅ : (Bytes → Bytes) → α₅ → Prop} {wf : (Bytes → Bytes) → σ → Prop}

/-- A record of two fields is lawful if both are, and it is well formed just if both are. -/
theorem Lawful.two {mk : α₁ → α₂ → σ} (first : Lawful p₁ wf₁) (second : Lawful p₂ wf₂)
    (iff : ∀ look a b, wf look (mk a b) ↔ wf₁ look a ∧ wf₂ look b)
    (same : ∀ x, mk (f₁ x) (f₂ x) = x) :
    Lawful (fun xdrs objp => xdrs.field p₁ (f₁ objp) fun xdrs a =>
      xdrs.field p₂ (f₂ objp) fun xdrs b => some (xdrs, mk a b)) wf := by
  constructor
  · intro x good
    rw [← same x, iff] at good
    exact .step (first.carries _ good.1) (.step (second.carries _ good.2) (.done (same x)))
  · refine .step first.yields fun a goodA => .step second.yields fun b goodB => ?_
    exact .done ((iff _ _ _).mpr ⟨goodA, goodB⟩)

/-- The same for three fields. -/
theorem Lawful.three {mk : α₁ → α₂ → α₃ → σ} (first : Lawful p₁ wf₁) (second : Lawful p₂ wf₂)
    (third : Lawful p₃ wf₃)
    (iff : ∀ look a b c, wf look (mk a b c) ↔ wf₁ look a ∧ wf₂ look b ∧ wf₃ look c)
    (same : ∀ x, mk (f₁ x) (f₂ x) (f₃ x) = x) :
    Lawful (fun xdrs objp => xdrs.field p₁ (f₁ objp) fun xdrs a =>
      xdrs.field p₂ (f₂ objp) fun xdrs b => xdrs.field p₃ (f₃ objp) fun xdrs c =>
      some (xdrs, mk a b c)) wf := by
  constructor
  · intro x good
    rw [← same x, iff] at good
    exact .step (first.carries _ good.1) (.step (second.carries _ good.2.1)
      (.step (third.carries _ good.2.2) (.done (same x))))
  · refine .step first.yields fun a goodA => .step second.yields fun b goodB => ?_
    exact .step third.yields fun c goodC => .done ((iff _ _ _ _).mpr ⟨goodA, goodB, goodC⟩)

/-- The same for four fields. -/
theorem Lawful.four {mk : α₁ → α₂ → α₃ → α₄ → σ} (first : Lawful p₁ wf₁)
    (second : Lawful p₂ wf₂) (third : Lawful p₃ wf₃) (fourth : Lawful p₄ wf₄)
    (iff : ∀ look a b c d,
      wf look (mk a b c d) ↔ wf₁ look a ∧ wf₂ look b ∧ wf₃ look c ∧ wf₄ look d)
    (same : ∀ x, mk (f₁ x) (f₂ x) (f₃ x) (f₄ x) = x) :
    Lawful (fun xdrs objp => xdrs.field p₁ (f₁ objp) fun xdrs a =>
      xdrs.field p₂ (f₂ objp) fun xdrs b => xdrs.field p₃ (f₃ objp) fun xdrs c =>
      xdrs.field p₄ (f₄ objp) fun xdrs d => some (xdrs, mk a b c d)) wf := by
  constructor
  · intro x good
    rw [← same x, iff] at good
    exact .step (first.carries _ good.1) (.step (second.carries _ good.2.1)
      (.step (third.carries _ good.2.2.1) (.step (fourth.carries _ good.2.2.2) (.done (same x)))))
  · refine .step first.yields fun a goodA => .step second.yields fun b goodB => ?_
    refine .step third.yields fun c goodC => .step fourth.yields fun d goodD => ?_
    exact .done ((iff _ _ _ _ _).mpr ⟨goodA, goodB, goodC, goodD⟩)

/-- The same for five fields. -/
theorem Lawful.five {mk : α₁ → α₂ → α₃ → α₄ → α₅ → σ} (first : Lawful p₁ wf₁)
    (second : Lawful p₂ wf₂) (third : Lawful p₃ wf₃) (fourth : Lawful p₄ wf₄)
    (fifth : Lawful p₅ wf₅)
    (iff : ∀ look a b c d e, wf look (mk a b c d e) ↔
      wf₁ look a ∧ wf₂ look b ∧ wf₃ look c ∧ wf₄ look d ∧ wf₅ look e)
    (same : ∀ x, mk (f₁ x) (f₂ x) (f₃ x) (f₄ x) (f₅ x) = x) :
    Lawful (fun xdrs objp => xdrs.field p₁ (f₁ objp) fun xdrs a =>
      xdrs.field p₂ (f₂ objp) fun xdrs b => xdrs.field p₃ (f₃ objp) fun xdrs c =>
      xdrs.field p₄ (f₄ objp) fun xdrs d => xdrs.field p₅ (f₅ objp) fun xdrs e =>
      some (xdrs, mk a b c d e)) wf := by
  constructor
  · intro x good
    rw [← same x, iff] at good
    exact .step (first.carries _ good.1) (.step (second.carries _ good.2.1)
      (.step (third.carries _ good.2.2.1) (.step (fourth.carries _ good.2.2.2.1)
      (.step (fifth.carries _ good.2.2.2.2) (.done (same x))))))
  · refine .step first.yields fun a goodA => .step second.yields fun b goodB => ?_
    refine .step third.yields fun c goodC => .step fourth.yields fun d goodD => ?_
    exact .step fifth.yields fun e goodE =>
      .done ((iff _ _ _ _ _ _).mpr ⟨goodA, goodB, goodC, goodD, goodE⟩)

end Records

/-- What an object is carried by is what writing it to an empty stream gives. -/
theorem Carries.encodeOf {proc : Xdrproc α} {x : α} {bytes : Bytes}
    (carried : Carries proc x bytes) : encodeOf proc x = some bytes := by
  simp [Dnfs.encodeOf, carried.writes]

/-- What an object is carried by is read back as the object, with nothing left over. -/
theorem Carries.decodeOf [Inhabited α] {proc : Xdrproc α} {x : α} {bytes : Bytes}
    (carried : Carries proc x bytes) : decodeOf proc bytes = some (x, []) := by
  have reads := carried.reads default []
  rw [List.append_nil] at reads
  simp [Dnfs.decodeOf, reads]

/-- What a routine reads off some input is what it yields. -/
theorem Lawful.wf_of_decodeOf [Inhabited α] {proc : Xdrproc α} {wf : (Bytes → Bytes) → α → Prop}
    (lawful : Lawful proc wf) {bytes rest : Bytes} {x : α}
    (read : decodeOf proc bytes = some (x, rest)) : wf cstr x := by
  simp only [Dnfs.decodeOf, Option.map_eq_some_iff] at read
  obtain ⟨⟨after, y⟩, moves, same⟩ := read
  obtain ⟨rfl, rfl⟩ := Prod.mk.inj same
  exact (lawful.yields _ _ _ _ rfl moves).2

section Primitives

/-- A unit read off the front is the integer it was written from. -/
@[simp] theorem getUnit_be32 (v : UInt32) (rest : Bytes) :
    getUnit (be32 v ++ rest) = some (v, rest) := by
  show getUnit (_ :: _ :: _ :: _ :: rest) = _
  simp only [getUnit]
  exact congrArg (fun w => some (w, rest)) (ofBe32_be32 v)

/-- A counted run is read off the front of what follows it. -/
@[simp] theorem getBytes_append (data rest : Bytes) :
    getBytes data.length (data ++ rest) = some (data, rest) := by
  simp [getBytes]

/-- An opaque run is read back, and what filled it out is skipped. -/
theorem xdrOpaqueDecode_encode (data rest : Bytes) :
    xdrOpaqueDecode data.length (xdrOpaqueEncode [] data ++ rest) = some (data, rest) := by
  have filler : getBytes (roundUp data.length)
      (List.replicate (roundUp data.length) 0 ++ rest)
        = some (List.replicate (roundUp data.length) 0, rest) := by
    simpa using getBytes_append (List.replicate (roundUp data.length) 0) rest
  simp [xdrOpaqueDecode, xdrOpaqueEncode, filler]

/-- What an opaque run adds to a stream does not depend on what the stream holds. -/
theorem xdrOpaqueEncode_append (out data : Bytes) :
    xdrOpaqueEncode out data = out ++ xdrOpaqueEncode [] data := by
  simp [xdrOpaqueEncode]

/-- A run read as opaque has the length that was asked for. -/
theorem xdrOpaqueDecode_length {count : Nat} {input data rest : Bytes}
    (read : xdrOpaqueDecode count input = some (data, rest)) : data.length = count := by
  simp only [xdrOpaqueDecode, getBytes, Option.bind_eq_bind, Option.bind_eq_some_iff,
    Prod.exists] at read
  obtain ⟨front, _, taken, _, _, _, done⟩ := read
  split at taken
  · rename_i enough
    simp only [Option.some.injEq, Prod.mk.injEq, Option.pure_def] at taken done
    rw [← done.1, ← taken.1, List.length_take]
    omega
  · cases taken

/-- A void arm is carried by no bytes. -/
theorem xdrVoid_carries : Carries xdrVoid () [] :=
  ⟨fun out => by simp [xdrVoid], fun old rest => by simp [xdrVoid]⟩

/-- Every 32-bit integer is carried by its unit. -/
theorem xdrUInt_carries (v : UInt32) : Carries xdrUInt v (be32 v) :=
  ⟨fun out => rfl, fun old rest => by simp [xdrUInt]⟩

/-- Reading an integer keeps the direction of the stream. -/
theorem xdrUInt_yields : Yields xdrUInt fun _ => True := by
  intro ⟨op, input⟩ old after x isDecode read
  subst isDecode
  simp only [xdrUInt, Option.bind_eq_bind, Option.bind_eq_some_iff, Prod.exists,
    Option.pure_def, Option.some.injEq, Prod.mk.injEq] at read
  obtain ⟨_, _, _, rfl, _⟩ := read
  exact ⟨rfl, trivial⟩

/-- Every 64-bit integer is carried by its two units. -/
theorem xdrULonglong_carries (v : UInt64) :
    Carries xdrULonglong v (be32 (Mem.high v) ++ be32 (Mem.low v)) :=
  ⟨fun out => by simp [xdrULonglong], fun old rest => by simp [xdrULonglong, Mem.join_low_high]⟩

/-- Reading a long integer keeps the direction of the stream. -/
theorem xdrULonglong_yields : Yields xdrULonglong fun _ => True := by
  intro ⟨op, input⟩ old after x isDecode read
  subst isDecode
  simp only [xdrULonglong, Option.bind_eq_bind, Option.bind_eq_some_iff, Prod.exists,
    Option.pure_def, Option.some.injEq, Prod.mk.injEq] at read
  obtain ⟨_, _, _, _, _, _, rfl, _⟩ := read
  exact ⟨rfl, trivial⟩

/-- A boolean that is zero or one is carried by its unit. -/
theorem xdrBool_carries {v : UInt32} (isBool : v = 0 ∨ v = 1) : Carries xdrBool v (be32 v) := by
  rcases isBool with rfl | rfl <;> exact ⟨fun out => rfl, fun old rest => by simp [xdrBool]⟩

/-- A boolean that was read is zero or one. -/
theorem xdrBool_yields : Yields xdrBool fun v => v = 0 ∨ v = 1 := by
  intro ⟨op, input⟩ old after x isDecode read
  subst isDecode
  simp only [xdrBool, Option.bind_eq_bind, Option.bind_eq_some_iff, Prod.exists,
    Option.pure_def, Option.some.injEq, Prod.mk.injEq] at read
  obtain ⟨v, _, _, rfl, rfl⟩ := read
  refine ⟨rfl, ?_⟩
  split
  · exact Or.inr rfl
  · exact Or.inl rfl

/-- Eight opaque bytes are carried as they lie in memory. -/
theorem xdrOpaque8_carries (v : UInt64) : Carries xdrOpaque8 v (xdrOpaqueEncode [] (le64 v)) := by
  constructor
  · intro out
    simp only [xdrOpaque8]
    rw [xdrOpaqueEncode_append]
  · intro old rest
    have read := xdrOpaqueDecode_encode (le64 v) rest
    rw [le64_length] at read
    simp [xdrOpaque8, read, ofLe64_le64]

/-- Reading eight opaque bytes keeps the direction of the stream. -/
theorem xdrOpaque8_yields : Yields xdrOpaque8 fun _ => True := by
  intro ⟨op, input⟩ old after x isDecode read
  subst isDecode
  simp only [xdrOpaque8, Option.bind_eq_bind, Option.bind_eq_some_iff, Prod.exists,
    Option.pure_def, Option.some.injEq, Prod.mk.injEq] at read
  obtain ⟨_, _, _, rfl, _⟩ := read
  exact ⟨rfl, trivial⟩

/-- Counted bytes within the bound are carried by their count and themselves. -/
theorem xdrBytes_carries {maxsize : Nat} {data : Bytes} (small : maxsize < 2 ^ 32)
    (within : data.length ≤ maxsize) :
    Carries (xdrBytes maxsize) data
      (be32 (UInt32.ofNat data.length) ++ xdrOpaqueEncode [] data) := by
  -- The count fits its unit, so it is read back as it was written.
  have count : (UInt32.ofNat data.length).toNat = data.length :=
    UInt32.toNat_ofNat_of_lt' (Nat.lt_of_le_of_lt within small)
  constructor
  · intro out
    rw [xdrBytes, if_neg (by omega), xdrOpaqueEncode_append, List.append_assoc]
  · intro old rest
    have read := xdrOpaqueDecode_encode data rest
    simp [xdrBytes, count, read, within]

/-- Counted bytes that were read respect the bound. -/
theorem xdrBytes_yields (maxsize : Nat) :
    Yields (xdrBytes maxsize) fun data => data.length ≤ maxsize := by
  intro ⟨op, input⟩ old after x isDecode read
  subst isDecode
  simp only [xdrBytes, Option.bind_eq_bind, Option.bind_eq_some_iff, Prod.exists] at read
  obtain ⟨size, rest, _, read⟩ := read
  split at read
  · cases read
  · simp only [Option.bind_eq_some_iff, Prod.exists, Option.pure_def, Option.some.injEq,
      Prod.mk.injEq] at read
    obtain ⟨_, _, opaqueRead, rfl, rfl⟩ := read
    have length := xdrOpaqueDecode_length opaqueRead
    exact ⟨rfl, by omega⟩

/-- Bytes before the first NUL hold no NUL. -/
theorem cstr_nul_free (buffer : Bytes) : 0 ∉ cstr buffer := by
  intro within
  have kept := List.mem_takeWhile_imp within
  simp at kept

/-- A buffer without a NUL is read whole. -/
theorem cstr_eq_self {buffer : Bytes} (nulFree : 0 ∉ buffer) : cstr buffer = buffer := by
  rw [cstr, List.takeWhile_eq_self_iff]
  intro byte within
  simp only [ne_eq, decide_eq_true_eq]
  rintro rfl
  exact nulFree within

/-- A C string is never longer than the buffer it is read from. -/
theorem cstr_length_le (buffer : Bytes) : (cstr buffer).length ≤ buffer.length :=
  (List.takeWhile_sublist _).length_le

/-- A string is well formed when it holds no NUL and respects the bound. -/
def StringWf (maxsize : Nat) (look : Bytes → Bytes) (s : Bytes) : Prop :=
  0 ∉ look s ∧ (look s).length ≤ maxsize

/-- The bytes a string without a NUL is written as. -/
def stringBytes (s : Bytes) : Bytes :=
  be32 (UInt32.ofNat s.length) ++ xdrOpaqueEncode [] s

/-- A string without a NUL and within the bound is carried by its count and itself. -/
theorem xdrString_carries {maxsize : Nat} {s : Bytes} (small : maxsize < 2 ^ 32)
    (wf : StringWf maxsize id s) : Carries (xdrString maxsize) s (stringBytes s) := by
  obtain ⟨nulFree, within⟩ := wf
  simp only [id_eq] at nulFree within
  -- Without a NUL the whole buffer is written, just as counted bytes are.
  have whole := cstr_eq_self nulFree
  have carried := xdrBytes_carries small within
  refine ⟨?_, carried.reads⟩
  intro out
  have written := carried.writes out
  simp only [xdrBytes] at written
  simp only [xdrString, whole]
  exact written

/-- Strings are lawful: those without a NUL survive, and those read are C strings in bound. -/
theorem xdrString_lawful {maxsize : Nat} (small : maxsize < 2 ^ 32) :
    Lawful (xdrString maxsize) (StringWf maxsize) := by
  constructor
  · intro s wf
    exact ⟨_, xdrString_carries small wf⟩
  · -- Reading a string is reading counted bytes, whose first part up to a NUL is shorter still.
    intro xdrs old after x op read
    have bytesRead : xdrBytes maxsize xdrs old = some (after, x) := by
      obtain ⟨dir, data⟩ := xdrs
      subst op
      exact read
    obtain ⟨afterOp, within⟩ := xdrBytes_yields maxsize _ _ _ _ op bytesRead
    exact ⟨afterOp, cstr_nul_free x, Nat.le_trans (cstr_length_le x) within⟩

end Primitives

section Chains

variable {proc : Xdrproc α} {fresh : α} {wf : (Bytes → Bytes) → α → Prop}

/--
A chain is carried by its nodes one after another, each behind a true boolean.

Enough depth is one link more than there are nodes, and each link costs at least one byte.
-/
theorem xdrChainAt_carries (fresh : α) (each : ∀ x, wf id x → Carried proc x)
    (xs : List α) (good : ∀ x ∈ xs, wf id x) :
    ∃ bytes, xs.length < bytes.length ∧
      ∀ depth, xs.length < depth → Carries (xdrChainAt proc fresh depth) xs bytes := by
  -- Each node takes a level of its own and at least one byte.
  induction xs with
  | nil =>
    refine ⟨be32 0, by simp, ?_⟩
    intro depth enough
    obtain ⟨depth, rfl⟩ := Nat.exists_eq_add_one.mpr (Nat.zero_lt_of_lt enough)
    constructor
    · intro out
      simp [xdrChainAt, Xdr.field, (xdrBool_carries (Or.inl rfl)).writes]
    · intro old rest
      simp [xdrChainAt, Xdr.field, (xdrBool_carries (Or.inl rfl)).reads]
  | cons node nodes ih =>
    obtain ⟨tail, longer, carriedTail⟩ := ih fun x within => good x (List.mem_cons_of_mem _ within)
    obtain ⟨front, carried⟩ := each node (good node List.mem_cons_self)
    refine ⟨be32 1 ++ (front ++ tail), by simp; omega, ?_⟩
    intro depth enough
    obtain ⟨depth, rfl⟩ := Nat.exists_eq_add_one.mpr (Nat.zero_lt_of_lt enough)
    have carriedTail := carriedTail depth (by simpa using enough)
    constructor
    · intro out
      simp [xdrChainAt, Xdr.field, (xdrBool_carries (Or.inr rfl)).writes, carried.writes,
        carriedTail.writes]
    · intro old rest
      simp [xdrChainAt, Xdr.field, (xdrBool_carries (Or.inr rfl)).reads, carried.reads,
        carriedTail.reads]

/-- Every node of a chain that was read was read by the routine for nodes. -/
theorem xdrChainAt_yields {good : α → Prop} (each : Yields proc good) (depth : Nat) :
    Yields (xdrChainAt proc fresh depth) fun xs => ∀ x ∈ xs, good x := by
  induction depth with
  | zero =>
    intro xdrs old after xs op read
    cases read
  | succ depth ih =>
    intro xdrs old after xs op read
    obtain ⟨moved, moreData, readBool, read⟩ := Xdr.field_eq_some read
    obtain ⟨movedOp, _⟩ := xdrBool_yields _ _ _ _ op readBool
    split at read
    · -- A false boolean ends the chain with no node.
      simp only [Option.some.injEq, Prod.mk.injEq] at read
      obtain ⟨rfl, rfl⟩ := read
      exact ⟨movedOp, by simp⟩
    · -- A true boolean announces a node and the rest of the chain.
      obtain ⟨afterNode, node, readNode, read⟩ := Xdr.field_eq_some read
      obtain ⟨afterTail, nodes, readTail, read⟩ := Xdr.field_eq_some read
      simp only [Option.some.injEq, Prod.mk.injEq] at read
      obtain ⟨rfl, rfl⟩ := read
      obtain ⟨nodeOp, nodeGood⟩ := each _ _ _ _ movedOp readNode
      obtain ⟨tailOp, tailGood⟩ := ih _ _ _ _ nodeOp readTail
      exact ⟨tailOp, List.forall_mem_cons.mpr ⟨nodeGood, tailGood⟩⟩

/-- A chain is lawful when its nodes are. -/
theorem xdrChain_lawful (each : Lawful proc wf) :
    Lawful (xdrChain proc fresh) fun look xs => ∀ x ∈ xs, wf look x := by
  constructor
  · intro xs good
    obtain ⟨bytes, longer, carried⟩ := xdrChainAt_carries fresh each.carries xs good
    refine ⟨bytes, ?_, ?_⟩
    · intro out
      exact (carried _ (by omega)).writes out
    · intro old rest
      -- The bytes alone already allow for more links than there are nodes.
      exact (carried _ (by simp; omega)).reads old rest
  · intro xdrs old after xs op read
    exact xdrChainAt_yields each.yields _ _ _ _ _ op read

end Chains

end Dnfs
