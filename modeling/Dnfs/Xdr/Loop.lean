import Dnfs.Xdr.Laws

/-! Linked lists moved by a loop instead of a recursion, and the bytes the loop agrees on. -/

namespace Dnfs

/-- What one turn of a list loop comes to. -/
inductive LoopTurn (α : Type) where
  /-- The boolean or the node could not be moved, and the whole routine fails. -/
  | refused
  /-- A false boolean was moved, so the list ends at the link the loop stands at. -/
  | ended (xdrs : Xdr)
  /-- A node was moved, and the loop goes on at the link inside it. -/
  | moved (xdrs : Xdr) (node : α)
  deriving DecidableEq

/-- What a list loop comes to within the turns it is given. -/
inductive LoopEnd (α : Type) where
  /-- Some turn was refused. -/
  | refused
  /-- Some turn ended the list, which now hangs off the pointer the loop started at. -/
  | done (xdrs : Xdr) (list : List α)
  /-- Every turn moved a node, and the loop is still going. -/
  | unfinished
  deriving DecidableEq

/--
One turn, standing at a link that is null or leads to the nodes given.

A null link is followed only when reading, and then a zeroed node is allocated behind it. A
node that is there already is moved in place.
-/
def listTurn {α : Type} (proc : Xdrproc α) (fresh : α) (xdrs : Xdr) (objp : List α) : LoopTurn α :=
  match xdrBool xdrs (if objp.isEmpty then 0 else 1) with
  | none => .refused
  | some (xdrs, moreElements) =>
    if moreElements = 0 then .ended xdrs
    else
      match proc xdrs (objp.headD fresh) with
      | none => .refused
      | some (xdrs, node) => .moved xdrs node

/-- The loop, with the nodes it has passed so far and the link it stands at. -/
def listLoop {α : Type} (proc : Xdrproc α) (fresh : α) :
    Nat → List α → Xdr → List α → LoopEnd α
  | 0, _, _, _ => .unfinished
  | turns + 1, passed, xdrs, objp =>
    match listTurn proc fresh xdrs objp with
    | .refused => .refused
    -- The link is left as it is, so nodes that were there already stay behind it.
    | .ended xdrs => .done xdrs (passed ++ objp)
    -- A zeroed node has a null link, and a node in place keeps the link it had.
    | .moved xdrs node => listLoop proc fresh turns (passed ++ [node]) xdrs objp.tail

/-- The routine for a list, which gives the loop more turns than it can use. -/
def xdrLoop {α : Type} (proc : Xdrproc α) (fresh : α) : Xdrproc (List α) := fun xdrs objp =>
  match listLoop proc fresh (objp.length + xdrs.xData.length + 1) [] xdrs objp with
  | .done xdrs list => some (xdrs, list)
  | _ => none

/-- The recursive format: a true boolean, a node and the rest, or a false boolean. -/
def chainBytes {α : Type} (nodeBytes : α → Bytes) : List α → Bytes
  | [] => be32 0
  | node :: nodes => be32 1 ++ (nodeBytes node ++ chainBytes nodeBytes nodes)

/--
The routine writes exactly these bytes for this object, and rebuilds it from a zeroed one.

Unlike an object that is carried, it need not survive being read over an older object.
-/
structure Rebuilds {α : Type} (proc : Xdrproc α) (fresh x : α) (bytes : Bytes) : Prop where
  /-- Writing appends the bytes and leaves the object as it was. -/
  writes : ∀ out, proc ⟨.encode, out⟩ x = some (⟨.encode, out ++ bytes⟩, x)
  /-- Reading into a zeroed object consumes the bytes, whatever follows them. -/
  reads : ∀ rest, proc ⟨.decode, bytes ++ rest⟩ fresh = some (⟨.decode, rest⟩, x)

/-- A routine that reads never gives back more input than it was given. -/
def Shrinks {α : Type} (proc : Xdrproc α) : Prop :=
  ∀ input old after x, proc ⟨.decode, input⟩ old = some (after, x) →
    after.xOp = .decode ∧ after.xData.length ≤ input.length

/-- One turn takes four bytes or more off the input, unless it is refused. -/
def TurnConsumes {α : Type} (proc : Xdrproc α) (fresh : α) : Prop :=
  ∀ input objp xdrs,
    (listTurn proc fresh ⟨.decode, input⟩ objp = .ended xdrs ∨
      ∃ node, listTurn proc fresh ⟨.decode, input⟩ objp = .moved xdrs node) →
    xdrs.xOp = .decode ∧ xdrs.xData.length + 4 ≤ input.length

variable {α : Type} {proc : Xdrproc α} {fresh : α}

section Turns

/-- Standing at a null link while writing, the turn announces the end. -/
theorem listTurn_writes_nil (out : Bytes) :
    listTurn proc fresh ⟨.encode, out⟩ [] = .ended ⟨.encode, out ++ be32 0⟩ := by
  have announced := (xdrBool_carries (Or.inl rfl)).writes out
  simp [listTurn, announced]

/-- Standing at a node while writing, the turn announces it and writes it. -/
theorem listTurn_writes_cons {node : α} {bytes : Bytes} (nodes : List α) (out : Bytes)
    (first : Rebuilds proc fresh node bytes) :
    listTurn proc fresh ⟨.encode, out⟩ (node :: nodes)
      = .moved ⟨.encode, out ++ be32 1 ++ bytes⟩ node := by
  have announced := (xdrBool_carries (Or.inr rfl)).writes out
  have written := first.writes (out ++ be32 1)
  simp only [listTurn, List.isEmpty_cons, Bool.false_eq_true, if_false, announced,
    List.headD_cons, written]
  rfl

/-- A false boolean off the input ends the list. -/
theorem listTurn_reads_nil (objp : List α) (rest : Bytes) :
    listTurn proc fresh ⟨.decode, be32 0 ++ rest⟩ objp = .ended ⟨.decode, rest⟩ := by
  have announced := (xdrBool_carries (Or.inl rfl)).reads (if objp.isEmpty then 0 else 1) rest
  simp only [listTurn, announced, if_true]

/-- A true boolean off the input has a node read into a zeroed one. -/
theorem listTurn_reads_cons {node : α} {bytes : Bytes} (rest : Bytes)
    (first : Rebuilds proc fresh node bytes) :
    listTurn proc fresh ⟨.decode, be32 1 ++ (bytes ++ rest)⟩ []
      = .moved ⟨.decode, rest⟩ node := by
  have announced := (xdrBool_carries (Or.inr rfl)).reads 0 (bytes ++ rest)
  have read := first.reads rest
  simp only [listTurn, List.isEmpty_nil, if_true, announced, List.headD_nil, read]
  rfl

/-- Taking a unit off the input takes four bytes off it. -/
theorem getUnit_length {input rest : Bytes} {v : UInt32} (taken : getUnit input = some (v, rest)) :
    rest.length + 4 = input.length := by
  match input, taken with
  | a :: b :: c :: d :: tail, taken =>
    simp only [getUnit, Option.some.injEq, Prod.mk.injEq] at taken
    rw [← taken.2]
    simp

/-- Reading a boolean takes four bytes off the input. -/
theorem xdrBool_length {input : Bytes} {old v : UInt32} {after : Xdr}
    (read : xdrBool ⟨.decode, input⟩ old = some (after, v)) :
    after.xOp = .decode ∧ after.xData.length + 4 = input.length := by
  simp only [xdrBool, Option.bind_eq_bind, Option.bind_eq_some_iff, Prod.exists,
    Option.pure_def, Option.some.injEq, Prod.mk.injEq] at read
  obtain ⟨unit, rest, taken, same, _⟩ := read
  subst same
  exact ⟨rfl, getUnit_length taken⟩

/-- Every turn that is not refused has read its boolean, and the node shrinks what is left. -/
theorem turnConsumes_of_shrinks (shrinks : Shrinks proc) (fresh : α) : TurnConsumes proc fresh := by
  intro input objp xdrs went
  unfold listTurn at went
  rcases bool : xdrBool ⟨.decode, input⟩ (if objp.isEmpty then 0 else 1) with _ | ⟨moved, more⟩
  · -- Without a boolean the turn is refused.
    rw [bool] at went
    simp at went
  · obtain ⟨op, shorter⟩ := xdrBool_length bool
    obtain ⟨dir, left⟩ := moved
    subst op
    simp only at shorter
    rw [bool] at went
    by_cases last : more = 0
    · -- A false boolean is all that is read.
      simp only [last, if_true, LoopTurn.ended.injEq, reduceCtorEq, exists_false, or_false] at went
      subst went
      exact ⟨rfl, Nat.le_of_eq shorter⟩
    · rcases node : proc ⟨.decode, left⟩ (objp.headD fresh) with _ | ⟨after, x⟩
      · simp only [last, if_false, node, reduceCtorEq, exists_false, or_false] at went
      · -- The node takes what it takes off what the boolean left.
        obtain ⟨afterOp, afterShorter⟩ := shrinks _ _ _ _ node
        simp only [last, if_false, node, reduceCtorEq, LoopTurn.moved.injEq, false_or] at went
        obtain ⟨_, same, _⟩ := went
        subst same
        exact ⟨afterOp, by omega⟩

end Turns

section Loops

variable {nodeBytes : α → Bytes} {nodes : List α}

/-- Writing a list takes a turn for each node and one more for the end. -/
theorem listLoop_writes (each : ∀ x ∈ nodes, Rebuilds proc fresh x (nodeBytes x))
    (turns : Nat) (enough : nodes.length < turns) (passed : List α) (out : Bytes) :
    listLoop proc fresh turns passed ⟨.encode, out⟩ nodes
      = .done ⟨.encode, out ++ chainBytes nodeBytes nodes⟩ (passed ++ nodes) := by
  -- The nodes passed so far and the bytes written so far both grow as the list is walked.
  induction nodes generalizing turns passed out with
  | nil =>
    obtain ⟨turns, rfl⟩ := Nat.exists_eq_add_one.mpr (Nat.zero_lt_of_lt enough)
    rw [listLoop, listTurn_writes_nil]
    rfl
  | cons node nodes ih =>
    obtain ⟨turns, rfl⟩ := Nat.exists_eq_add_one.mpr (Nat.zero_lt_of_lt enough)
    have first := each node List.mem_cons_self
    have later := ih (fun x within => each x (List.mem_cons_of_mem _ within)) turns
      (by simpa using enough) (passed ++ [node]) (out ++ be32 1 ++ nodeBytes node)
    rw [listLoop, listTurn_writes_cons nodes out first]
    simp only [List.tail_cons]
    rw [later]
    simp [chainBytes]

/-- Reading what a list was written as rebuilds it behind a null link. -/
theorem listLoop_reads (each : ∀ x ∈ nodes, Rebuilds proc fresh x (nodeBytes x))
    (turns : Nat) (enough : nodes.length < turns) (passed : List α) (rest : Bytes) :
    listLoop proc fresh turns passed ⟨.decode, chainBytes nodeBytes nodes ++ rest⟩ []
      = .done ⟨.decode, rest⟩ (passed ++ nodes) := by
  -- Each node read is passed, and the link inside it is null as the first one was.
  induction nodes generalizing turns passed with
  | nil =>
    obtain ⟨turns, rfl⟩ := Nat.exists_eq_add_one.mpr (Nat.zero_lt_of_lt enough)
    rw [listLoop, chainBytes, listTurn_reads_nil]
  | cons node nodes ih =>
    obtain ⟨turns, rfl⟩ := Nat.exists_eq_add_one.mpr (Nat.zero_lt_of_lt enough)
    have first := each node List.mem_cons_self
    have later := ih (fun x within => each x (List.mem_cons_of_mem _ within)) turns
      (by simpa using enough) (passed ++ [node])
    rw [listLoop, chainBytes, List.append_assoc, List.append_assoc,
      listTurn_reads_cons _ first]
    simp only [List.tail_nil]
    rw [later]
    simp

/-- A list costs at least four bytes a node and four for its end. -/
theorem chainBytes_length (nodeBytes : α → Bytes) (nodes : List α) :
    4 * nodes.length + 4 ≤ (chainBytes nodeBytes nodes).length := by
  induction nodes with
  | nil => simp [chainBytes]
  | cons node nodes ih =>
    simp only [chainBytes, List.length_append, List.length_cons, be32_length]
    omega

/-- A list whose nodes are each rebuilt is rebuilt as a whole, from the recursive format. -/
theorem xdrLoop_rebuilds (each : ∀ x ∈ nodes, Rebuilds proc fresh x (nodeBytes x)) :
    Rebuilds (xdrLoop proc fresh) [] nodes (chainBytes nodeBytes nodes) := by
  constructor
  · intro out
    rw [xdrLoop, listLoop_writes each _ (by omega)]
    rfl
  · intro rest
    -- The bytes alone already allow for more turns than there are nodes.
    have long := chainBytes_length nodeBytes nodes
    have enough : nodes.length < (chainBytes nodeBytes nodes ++ rest).length + 1 := by
      rw [List.length_append]
      omega
    rw [xdrLoop, listLoop_reads each _ (by simpa using enough)]
    rfl

/-- On any input whatever, the loop is over before its turns have used the input up. -/
theorem listLoop_finishes (consumes : TurnConsumes proc fresh) (turns : Nat) (passed : List α)
    (xdrs : Xdr) (objp : List α) (op : xdrs.xOp = .decode)
    (enough : xdrs.xData.length < 4 * turns) :
    listLoop proc fresh turns passed xdrs objp ≠ .unfinished := by
  -- Each turn that goes on leaves four bytes less for one turn less.
  induction turns generalizing passed xdrs objp with
  | zero => omega
  | succ turns ih =>
    obtain ⟨dir, input⟩ := xdrs
    subst op
    simp only at enough
    rw [listLoop]
    rcases turn : listTurn proc fresh ⟨.decode, input⟩ objp with _ | ended | ⟨moved, node⟩
    · simp
    · simp
    · obtain ⟨movedOp, shorter⟩ := consumes input objp moved (Or.inr ⟨node, turn⟩)
      exact ih _ moved _ movedOp (by omega)

/-- A loop that is done has only ever taken bytes off its input. -/
theorem listLoop_shrinks (consumes : TurnConsumes proc fresh) (turns : Nat) (passed : List α)
    (xdrs after : Xdr) (objp list : List α) (op : xdrs.xOp = .decode)
    (read : listLoop proc fresh turns passed xdrs objp = .done after list) :
    after.xOp = .decode ∧ after.xData.length ≤ xdrs.xData.length := by
  -- No turn gives bytes back.
  induction turns generalizing passed xdrs objp with
  | zero => cases read
  | succ turns ih =>
    obtain ⟨dir, input⟩ := xdrs
    subst op
    rw [listLoop] at read
    rcases turn : listTurn proc fresh ⟨.decode, input⟩ objp with _ | ended | ⟨moved, node⟩
    · rw [turn] at read
      cases read
    · rw [turn] at read
      simp only [LoopEnd.done.injEq] at read
      obtain ⟨endedOp, shorter⟩ := consumes input objp ended (Or.inl turn)
      rw [← read.1]
      exact ⟨endedOp, by show _ ≤ input.length; omega⟩
    · rw [turn] at read
      obtain ⟨movedOp, shorter⟩ := consumes input objp moved (Or.inr ⟨node, turn⟩)
      obtain ⟨afterOp, afterShorter⟩ := ih _ moved _ movedOp read
      exact ⟨afterOp, by show _ ≤ input.length; omega⟩

/-- A list routine shrinks its input when its nodes do. -/
theorem xdrLoop_shrinks (shrinks : Shrinks proc) : Shrinks (xdrLoop proc fresh) := by
  intro input old after list read
  simp only [xdrLoop] at read
  split at read
  · rename_i xdrs nodes loop
    simp only [Option.some.injEq, Prod.mk.injEq] at read
    obtain ⟨rfl, rfl⟩ := read
    exact listLoop_shrinks (turnConsumes_of_shrinks shrinks fresh) _ _ _ _ _ _ rfl loop
  · cases read

end Loops

section Fields

/-- A routine that moves one field and then shrinks shrinks as a whole. -/
theorem Shrinks.step {β : Type} {field : Xdrproc β} {get : α → β} {next : β → Xdrproc α}
    (first : Shrinks field) (later : ∀ b, Shrinks (next b)) :
    Shrinks fun xdrs objp => xdrs.field field (get objp) fun xdrs b => next b xdrs objp := by
  intro input old after x read
  obtain ⟨⟨dir, left⟩, b, readField, readLater⟩ := Xdr.field_eq_some read
  obtain ⟨op, shorter⟩ := first _ _ _ _ readField
  simp only at op shorter
  subst op
  obtain ⟨afterOp, afterShorter⟩ := later b _ _ _ _ readLater
  exact ⟨afterOp, Nat.le_trans afterShorter shorter⟩

/-- With every field moved, the input stays as it is. -/
theorem Shrinks.done (mk : α) : Shrinks fun xdrs _ => some (xdrs, mk) := by
  intro input old after x read
  simp only [Option.some.injEq, Prod.mk.injEq] at read
  rw [← read.1]
  exact ⟨rfl, Nat.le_refl _⟩

/-- Skipping and keeping bytes both leave a tail of the input. -/
theorem xdrOpaqueDecode_shrinks {count : Nat} {input data rest : Bytes}
    (read : xdrOpaqueDecode count input = some (data, rest)) : rest.length ≤ input.length := by
  simp only [xdrOpaqueDecode, getBytes, Option.bind_eq_bind, Option.bind_eq_some_iff,
    Prod.exists, Option.pure_def, Option.some.injEq, Prod.mk.injEq] at read
  obtain ⟨_, middle, taken, _, _, skipped, _, same⟩ := read
  split at taken
  · split at skipped
    · simp only [Option.some.injEq, Prod.mk.injEq] at taken skipped
      rw [← same, ← skipped.2, ← taken.2, List.length_drop, List.length_drop]
      omega
    · cases skipped
  · cases taken

/-- Reading a string takes its count and its bytes off the input. -/
theorem xdrString_shrinks (maxsize : Nat) : Shrinks (xdrString maxsize) := by
  intro input old after s read
  simp only [xdrString, Option.bind_eq_bind, Option.bind_eq_some_iff, Prod.exists] at read
  obtain ⟨size, rest, taken, read⟩ := read
  have unitLength := getUnit_length taken
  split at read
  · cases read
  · simp only [Option.bind_eq_some_iff, Prod.exists, Option.pure_def, Option.some.injEq,
      Prod.mk.injEq] at read
    obtain ⟨data, left, opaqueRead, same, _⟩ := read
    have shorter := xdrOpaqueDecode_shrinks opaqueRead
    subst same
    exact ⟨rfl, by show left.length ≤ input.length; omega⟩

end Fields

end Dnfs
