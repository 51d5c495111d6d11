import Mathlib.Algebra.BigOperators.Group.Finset.Basic
import Mathlib.Algebra.Order.Group.Multiset
import Mathlib.Data.Fintype.BigOperators

/-! Queues that are gathered into one batch and written in order, by one flush at a time. -/

namespace Dnfs

variable {β ε : Type}

/-- How far a flush has got. -/
inductive SpoolStage (β : Type) where
  /-- Some queues were taken into the batch. -/
  | gathering (taken : Finset β)
  /-- So many items of the batch were written. -/
  | writing (count : Nat)
  /-- All of them were written. -/
  | written
  | cleared

/-- The queues that a flush is done with. -/
def SpoolStage.taken [Fintype β] : SpoolStage β → Finset β
  | gathering taken => taken
  | _ => Finset.univ

/-- Items on their way from the queues to the output, and the flushes that take them there. -/
structure Spool (β ε : Type) where
  queues : β → List ε
  batch : List ε
  /-- What was written, with the number of the flush that wrote it. -/
  output : List (Nat × ε)
  /-- Everything that was ever queued. -/
  added : List ε
  /-- How many flushes were begun, which also numbers them. -/
  begun : Nat
  /-- The flushes that have yet to get their turn. -/
  waiting : Finset Nat
  running : Option (Nat × SpoolStage β)
  finished : List Nat

namespace Spool

/-- Nothing was queued yet. -/
def empty : Spool β ε := ⟨fun _ => [], [], [], [], 0, ∅, none, []⟩

/-- What one flush wrote. -/
def writtenBy (a : Spool β ε) (flush : Nat) : List ε :=
  (a.output.filter (·.1 = flush)).map Prod.snd

/-- What is in the batch and not yet written. -/
def unwritten (a : Spool β ε) : List ε :=
  match a.running with
  | some (_, .writing count) => a.batch.drop count
  | some (_, .written) => []
  | _ => a.batch

section Numbering

variable {a : Spool β ε}

/-- Flushes are told apart by their numbers. -/
structure Numbered (a : Spool β ε) : Prop where
  waiting : ∀ flush ∈ a.waiting, flush < a.begun
  running : ∀ flush stage, a.running = some (flush, stage) →
    flush < a.begun ∧ flush ∉ a.waiting
  finished : ∀ flush ∈ a.finished, flush < a.begun

/-- Without flushes there is nothing to tell apart. -/
theorem Numbered.empty : (empty : Spool β ε).Numbered := by
  constructor <;> simp [Spool.empty]

/-- The flush that runs goes on to another stage. -/
theorem Numbered.goesOn (numbered : a.Numbered) {flush : Nat} {stage next : SpoolStage β}
    (running : a.running = some (flush, stage)) :
    ∀ other stage, some (flush, next) = some (other, stage) →
      other < a.begun ∧ other ∉ a.waiting := by
  intro other stage same
  cases same
  exact numbered.running flush _ running

/-- A flush has yet to be begun, to get its turn or to write. -/
def Silent (a : Spool β ε) (flush : Nat) : Prop :=
  a.begun ≤ flush ∨ flush ∈ a.waiting ∨ ∃ taken, a.running = some (flush, .gathering taken)

/-- It had yet to before, if nothing but the flush that runs has changed. -/
theorem Silent.earlier {b : Spool β ε} {flush : Nat} (silent : b.Silent flush)
    (begun : b.begun = a.begun) (waiting : b.waiting = a.waiting)
    (gathers : ∀ taken, b.running = some (flush, .gathering taken) → a.Silent flush) :
    a.Silent flush := by
  rcases silent with above | mem | ⟨taken, running⟩
  · exact .inl (begun ▸ above)
  · exact .inr (.inl (waiting ▸ mem))
  · exact gathers taken running

/-- Every flush writes in order, and nothing before its time. -/
structure Written (le : ε → ε → Prop) (a : Spool β ε) : Prop where
  silent : ∀ flush, a.Silent flush → a.writtenBy flush = []
  writing : ∀ flush count, a.running = some (flush, .writing count) →
    a.batch.Pairwise le ∧ a.writtenBy flush = a.batch.take count
  cleared : ∀ flush, a.running = some (flush, .cleared) → a.batch = []
  sorted : ∀ flush, (a.writtenBy flush).Pairwise le

/-- With nothing written everything is in order. -/
theorem Written.empty (le : ε → ε → Prop) : (empty : Spool β ε).Written le where
  silent _ _ := rfl
  writing := by simp [Spool.empty]
  cleared := by simp [Spool.empty]
  sorted _ := List.Pairwise.nil

/-- Writing an item adds it to what its flush wrote. -/
theorem writtenBy_write (output : List (Nat × ε)) (flush other : Nat) (item : ε) :
    ((output ++ [(flush, item)]).filter (·.1 = other)).map Prod.snd
      = (output.filter (·.1 = other)).map Prod.snd ++ if flush = other then [item] else [] := by
  by_cases same : flush = other <;> simp [same]

end Numbering

section Reaching

variable [Fintype β] {a : Spool β ε} {le : ε → ε → Prop} {old : ε → Prop} {first : Nat}

/-- No flush from some number on leaves old items in a queue it is done with, or in the batch. -/
structure Reaches (old : ε → Prop) (first : Nat) (a : Spool β ε) : Prop where
  known : ∀ item, old item → item ∈ a.added
  taken : ∀ flush stage, a.running = some (flush, stage) → first ≤ flush →
    ∀ b ∈ stage.taken, ∀ item ∈ a.queues b, ¬old item
  finished : ∀ flush ∈ a.finished, first ≤ flush →
    (∀ b, ∀ item ∈ a.queues b, ¬old item) ∧ ∀ item ∈ a.unwritten, ¬old item

/-- What was queued by now is old to every flush that is yet to be begun. -/
theorem Numbered.reaches (numbered : a.Numbered) : a.Reaches (· ∈ a.added) a.begun where
  known _ mem := mem
  taken flush stage running later :=
    absurd (numbered.running flush stage running).1 (Nat.not_lt.mpr later)
  finished flush mem later := absurd (numbered.finished flush mem) (Nat.not_lt.mpr later)

/-- A flush that is done with all queues goes on to another stage. -/
theorem Reaches.goesOn (reaches : a.Reaches old first) {flush : Nat} {stage next : SpoolStage β}
    (running : a.running = some (flush, stage)) (all : stage.taken = Finset.univ) :
    ∀ other stage, some (flush, next) = some (other, stage) → first ≤ other →
      ∀ b ∈ stage.taken, ∀ item ∈ a.queues b, ¬old item := by
  intro other stage same later b _
  cases same
  exact reaches.taken flush _ running later b (all ▸ Finset.mem_univ b)

/-- Where all items are: in a queue, in the batch, or written. -/
def places (a : Spool β ε) : Multiset ε :=
  ∑ b, (a.queues b : Multiset ε) + (a.unwritten : Multiset ε) + (a.output.map Prod.snd : List ε)

/-- Every item is in one place, and every flush writes in order. -/
structure Sound (le : ε → ε → Prop) (a : Spool β ε) : Prop
    extends Numbered a, Written le a where
  places : a.places = a.added
  nodup : a.added.Nodup

/-- Before anything is queued there is nothing to lose. -/
theorem Sound.empty (le : ε → ε → Prop) : (empty : Spool β ε).Sound le where
  toNumbered := .empty
  toWritten := .empty le
  places := by simp [Spool.empty, Spool.places, unwritten]
  nodup := List.nodup_nil

/-- What is written was queued, and is written once. -/
theorem Sound.output (sound : a.Sound le) :
    (a.output.map Prod.snd).Nodup ∧ ∀ item ∈ a.output.map Prod.snd, item ∈ a.added := by
  -- The output is one of the places, and together they hold every item once.
  have within : ((a.output.map Prod.snd : List ε) : Multiset ε) ≤ (a.added : Multiset ε) := by
    rw [← sound.places]
    exact Multiset.le_add_left _ _
  exact ⟨Multiset.coe_nodup.mp (Multiset.nodup_of_le within (Multiset.coe_nodup.mpr sound.nodup)),
    fun item mem => Multiset.mem_coe.mp (Multiset.mem_of_le within (Multiset.mem_coe.mpr mem))⟩

/-- Once a later flush has finished, every old item is written. -/
theorem Sound.reached (sound : a.Sound le) (reaches : a.Reaches old first) {flush : Nat}
    (finished : flush ∈ a.finished) (later : first ≤ flush) {item : ε} (isOld : old item) :
    item ∈ a.output.map Prod.snd := by
  obtain ⟨queues, batch⟩ := reaches.finished flush finished later
  -- It is in some place, and only the output is left.
  have somewhere : item ∈ a.places := by
    rw [sound.places]
    exact Multiset.mem_coe.mpr (reaches.known item isOld)
  rw [Spool.places, Multiset.mem_add, Multiset.mem_add, Multiset.mem_sum] at somewhere
  rcases somewhere with (⟨b, _, queued⟩ | batched) | written
  · exact absurd isOld (queues b item queued)
  · exact absurd isOld (batch item batched)
  · exact written

end Reaching

end Spool

end Dnfs
