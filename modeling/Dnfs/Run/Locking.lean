import Mathlib.Data.Finset.Basic
import Mathlib.Tactic.Common

/-! One thread that takes and gives back locks, and gets stuck once it misuses one. -/

namespace Dnfs

variable {κ α β : Type}

/-- What a thread does with the set of locks it holds, where misusing a lock ends it. -/
abbrev Locking (κ : Type) := StateT (Finset κ) Option

namespace Locking

variable {held : Finset κ} {l : κ}

/-- One thing done after another. -/
theorem bind_apply (run : Locking κ α) (next : α → Locking κ β) :
    (run >>= next) held = (run held).bind fun done => next done.1 done.2 := rfl

/-- What is done with the result takes no lock. -/
theorem map_apply (run : Locking κ α) (f : α → β) :
    (f <$> run) held = (run held).map fun done => (f done.1, done.2) := by
  show (run held).bind _ = _
  cases run held <;> rfl

/-- Returning takes no lock. -/
theorem pure_apply (result : α) : (pure result : Locking κ α) held = some (result, held) := rfl

/-- From a set of held locks no lock is misused, and the same locks are held in the end. -/
def Balanced (held : Finset κ) (run : Locking κ α) : Prop :=
  ∃ result, run held = some (result, held)

/-- What is thrown away in the end does not matter for the locks. -/
theorem balanced_discard (run : Locking κ α) : Balanced held (discard run) ↔ Balanced held run := by
  show (∃ result, ((fun _ => ()) <$> run) held = some (result, held)) ↔ _
  rw [map_apply, Balanced]
  rcases run held with _ | ⟨result, left⟩ <;> simp

variable [DecidableEq κ]

/-- Take a lock, which must not be held already. -/
def lock (l : κ) : Locking κ Unit := fun held =>
  if l ∈ held then none else some ((), insert l held)

/-- Give back a lock, which must be held. -/
def unlock (l : κ) : Locking κ Unit := fun held =>
  if l ∈ held then some ((), held.erase l) else none

/-- A lock that is free can be taken. -/
theorem lock_free (free : l ∉ held) : lock l held = some ((), insert l held) := if_neg free

/-- Giving back what was just taken leaves what was held before. -/
theorem unlock_insert (free : l ∉ held) : unlock l (insert l held) = some ((), held) := by
  rw [unlock, if_pos (Finset.mem_insert_self l held), Finset.erase_insert free]

/-- A lock that is free can not be given back. -/
theorem unlock_free (free : l ∉ held) : unlock l held = none := if_neg free

/-- What is done under a lock and ends in giving it back. -/
theorem lock_then (free : l ∉ held) (result : α) :
    (do lock l; unlock l; pure result : Locking κ α) held = some (result, held) := by
  rw [bind_apply, lock_free free, Option.bind_some, bind_apply, unlock_insert free,
    Option.bind_some, pure_apply]

end Locking

end Dnfs
