import Mathlib.Data.List.Infix
import Mathlib.Tactic.Common

/-! Texts in which marked words stand for values. -/

namespace Dnfs

variable {α β : Type}

/-- Words that stand for values: each has the mark at its beginning and nowhere else. -/
structure Markup (α β : Type) where
  mark : α
  body : β → List α
  unmarked : ∀ b, mark ∉ body b
  /-- No word is the beginning of another one. -/
  apart : ∀ b c, body b <+: body c → b = c
  fields : List β
  complete : ∀ b, b ∈ fields

/-- A character that stands for itself, or a word. -/
inductive Piece (α β : Type) where
  | char (c : α)
  | hole (b : β)
  deriving DecidableEq

namespace Markup

variable (markup : Markup α β)

def keyword (b : β) : List α := markup.mark :: markup.body b

/-- What a piece is written as, where some words have values. -/
def text (value : β → Option (List α)) : Piece α β → List α
  | .char c => [c]
  | .hole b => (value b).getD (markup.keyword b)

/-- What pieces are written as. -/
def render (value : β → Option (List α)) (pieces : List (Piece α β)) : List α :=
  pieces.flatMap (markup.text value)

/-- The pieces of a text, behind some characters that belong to a word. -/
def piecesFrom [DecidableEq α] : Nat → List α → List (Piece α β)
  | _, [] => []
  | skip + 1, _ :: rest => piecesFrom skip rest
  | 0, c :: rest =>
    match markup.fields.find? fun b => markup.keyword b <+: c :: rest with
    | some b => .hole b :: piecesFrom (markup.body b).length rest
    | none => .char c :: piecesFrom 0 rest

/-- The pieces of a text. -/
def pieces [DecidableEq α] (text : List α) : List (Piece α β) := markup.piecesFrom 0 text

/--
A word is written only where it stands as a word: at no place within the other pieces does it
begin.
-/
def Clear (value : β → Option (List α)) (b : β) : List (Piece α β) → Prop
  | [] => True
  | piece :: pieces =>
    (piece ≠ .hole b → ∀ k < (markup.text value piece).length,
      ¬markup.keyword b <+: (markup.text value piece ++ markup.render value pieces).drop k) ∧
    Clear value b pieces

end Markup

namespace Markup

variable {markup : Markup α β} {value : β → Option (List α)} {b c : β} {text rest : List α}
  {pieces : List (Piece α β)}

/-- Pieces are rendered one after the other. -/
theorem render_cons (piece : Piece α β) :
    markup.render value (piece :: pieces)
      = markup.text value piece ++ markup.render value pieces := List.flatMap_cons

/-- So are runs of pieces. -/
theorem render_append (first second : List (Piece α β)) :
    markup.render value (first ++ second)
      = markup.render value first ++ markup.render value second := List.flatMap_append

/-- Only one word begins at a place. -/
theorem eq_of_keyword_begins (first : markup.keyword b <+: text)
    (second : markup.keyword c <+: text) : b = c := by
  rcases List.prefix_or_prefix_of_prefix first second with inside | inside
  · exact markup.apart b c (List.cons_prefix_cons.mp inside).2
  · exact (markup.apart c b (List.cons_prefix_cons.mp inside).2).symm

/-- What begins with a word has the mark in front. -/
theorem head?_of_keyword_begins (begins : markup.keyword b <+: text) :
    text.head? = some markup.mark := by
  obtain ⟨rest, rfl⟩ := begins
  rfl

/-- Pieces without a word do not depend on its value. -/
theorem render_congr {other : β → Option (List α)}
    (same : ∀ b, .hole b ∈ pieces → value b = other b) :
    markup.render value pieces = markup.render other pieces := by
  refine List.flatMap_congr fun piece mem => ?_
  cases piece with
  | char c => rfl
  | hole b => rw [Markup.text, Markup.text, same b mem]

section Reading

variable [DecidableEq α]

/-- A word is recognised where it begins. -/
theorem find?_fields (begins : markup.keyword b <+: text) :
    markup.fields.find? (fun c => markup.keyword c <+: text) = some b := by
  cases found : markup.fields.find? (fun c => markup.keyword c <+: text) with
  | none =>
    have nowhere := List.find?_eq_none.mp found b (markup.complete b)
    simp only [decide_eq_true_eq] at nowhere
    exact absurd begins nowhere
  | some c =>
    have here := List.find?_some found
    simp only [decide_eq_true_eq] at here
    rw [eq_of_keyword_begins here begins]

/-- Where a word is recognised, it stands. -/
theorem of_find?_fields {first : α}
    (found : markup.fields.find? (fun c => markup.keyword c <+: first :: rest) = some b) :
    ∃ after, first = markup.mark ∧ rest = markup.body b ++ after := by
  have here := List.find?_some found
  simp only [decide_eq_true_eq] at here
  obtain ⟨isMark, after, whole⟩ := List.cons_prefix_cons.mp here
  exact ⟨after, isMark.symm, whole.symm⟩

/-- With every hole left as it is, the text comes out again. -/
theorem render_piecesFrom (skip : Nat) (text : List α) :
    markup.render (fun _ => none) (markup.piecesFrom skip text) = text.drop skip := by
  -- A keyword is one hole, and its other characters are skipped.
  induction text generalizing skip with
  | nil => rw [piecesFrom, List.drop_nil]; rfl
  | cons c rest ih =>
    cases skip with
    | succ skip => exact ih skip
    | zero =>
      rw [piecesFrom]
      cases found : markup.fields.find? (fun b => markup.keyword b <+: c :: rest) with
      | none =>
        dsimp only
        rw [render_cons, ih]
        rfl
      | some b =>
        obtain ⟨after, rfl, rfl⟩ := of_find?_fields found
        dsimp only
        rw [render_cons, ih, List.drop_left]
        rfl

/-- Pieces are written as the text they were read from. -/
theorem render_pieces (markup : Markup α β) (text : List α) :
    markup.render (fun _ => none) (markup.pieces text) = text := render_piecesFrom 0 text

/-- Wherever a keyword begins there is a hole. -/
theorem hole_mem_piecesFrom {skip k : Nat} (behind : skip ≤ k)
    (begins : markup.keyword b <+: text.drop k) :
    .hole b ∈ markup.piecesFrom skip text := by
  induction text generalizing skip k with
  | nil =>
    rw [List.drop_nil] at begins
    exact absurd (List.prefix_nil.mp begins) (List.cons_ne_nil _ _)
  | cons c rest ih =>
    cases skip with
    | succ skip =>
      cases k with
      | zero => omega
      | succ k => exact ih (Nat.le_of_succ_le_succ behind) begins
    | zero =>
      rw [piecesFrom]
      cases k with
      | zero =>
        rw [List.drop_zero] at begins
        rw [find?_fields begins]
        exact List.mem_cons_self
      | succ k =>
        rw [List.drop_succ_cons] at begins
        cases found : markup.fields.find? (fun b => markup.keyword b <+: c :: rest) with
        | none => exact List.mem_cons_of_mem _ (ih (Nat.zero_le k) begins)
        | some other =>
          obtain ⟨after, rfl, rfl⟩ := of_find?_fields found
          refine List.mem_cons_of_mem _ (ih ?_ begins)
          -- Inside of a word there is no mark.
          by_contra inside
          have within : k < (markup.body other).length := by omega
          have marked := head?_of_keyword_begins begins
          rw [List.head?_drop, List.getElem?_append_left within] at marked
          exact markup.unmarked other (List.mem_of_getElem? marked)

/-- The words among the pieces of a text are those that are in it. -/
theorem hole_mem_pieces_iff : .hole b ∈ markup.pieces text ↔ markup.keyword b <:+: text := by
  constructor
  · intro mem
    obtain ⟨before, after, split_⟩ := List.append_of_mem mem
    refine ⟨markup.render (fun _ => none) before, markup.render (fun _ => none) after, ?_⟩
    rw [← render_pieces markup text, split_, render_append, render_cons,
      List.append_assoc]
    rfl
  · rintro ⟨before, after, whole⟩
    refine hole_mem_piecesFrom (Nat.zero_le before.length) ?_
    rw [← whole, List.append_assoc, List.drop_left]
    exact List.prefix_append _ _

end Reading

section Clearing

/-- Values without the mark, between characters without it, make no new words. -/
theorem clear_of_unmarked (literal : .char markup.mark ∉ pieces)
    (values : ∀ c, .hole c ∈ pieces → ∀ text, value c = some text → markup.mark ∉ text) :
    markup.Clear value b pieces := by
  induction pieces with
  | nil => trivial
  | cons piece pieces ih =>
    refine ⟨fun other k within begins => ?_, ih (fun mem => literal (List.mem_cons_of_mem _ mem))
      fun c mem => values c (List.mem_cons_of_mem _ mem)⟩
    have marked := head?_of_keyword_begins begins
    rw [List.head?_drop, List.getElem?_append_left within] at marked
    have mem := List.mem_of_getElem? marked
    cases piece with
    | char c =>
      obtain rfl := List.mem_singleton.mp mem
      exact literal List.mem_cons_self
    | hole c =>
      cases given : value c with
      | some text =>
        rw [Markup.text, given] at mem
        exact values c List.mem_cons_self text given mem
      | none =>
        -- It is another word, which has the mark in front only.
        rw [Markup.text, given] at begins marked
        cases k with
        | zero =>
          have same := eq_of_keyword_begins begins (List.prefix_append (markup.keyword c) _)
          exact other (by rw [same])
        | succ k => exact markup.unmarked c (List.mem_of_getElem? marked)

end Clearing

section Values

variable {other : β → Option (List α)}

/-- A longer value of a word does not make a shorter text. -/
theorem length_render_le (differ : ∀ c, c ≠ b → value c = other c)
    (shorter : (markup.text value (.hole b)).length ≤ (markup.text other (.hole b)).length) :
    (markup.render value pieces).length ≤ (markup.render other pieces).length := by
  induction pieces with
  | nil => exact le_rfl
  | cons piece pieces ih =>
    rw [render_cons, render_cons, List.length_append, List.length_append]
    refine Nat.add_le_add ?_ ih
    cases piece with
    | char c => exact le_rfl
    | hole c =>
      by_cases same : c = b
      · rw [same]
        exact shorter
      · rw [Markup.text, Markup.text, differ c same]

/-- Two values of a word make the same text only if they are the same. -/
theorem eq_of_render_eq (differ : ∀ c, c ≠ b → value c = other c) (mem : .hole b ∈ pieces)
    (same : markup.render value pieces = markup.render other pieces) :
    markup.text value (.hole b) = markup.text other (.hole b) := by
  obtain ⟨before, after, rfl⟩ := List.append_of_mem mem
  rw [render_append, render_append, render_cons, render_cons] at same
  have total := congrArg List.length same
  simp only [List.length_append] at total
  have differ' : ∀ c, c ≠ b → other c = value c := fun c apart => (differ c apart).symm
  -- A longer value would make a longer text, so both are of one length.
  rcases Nat.le_total (markup.text value (.hole b)).length (markup.text other (.hole b)).length
    with shorter | longer
  · have front : (markup.render value before).length ≤ (markup.render other before).length :=
      length_render_le differ shorter
    have back : (markup.render value after).length ≤ (markup.render other after).length :=
      length_render_le differ shorter
    have rest := (List.append_inj same (by omega)).2
    exact (List.append_inj rest (by omega)).1
  · have front : (markup.render other before).length ≤ (markup.render value before).length :=
      length_render_le differ' longer
    have back : (markup.render other after).length ≤ (markup.render value after).length :=
      length_render_le differ' longer
    have rest := (List.append_inj same (by omega)).2
    exact (List.append_inj rest (by omega)).1

end Values

end Markup

end Dnfs
