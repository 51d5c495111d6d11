import Mathlib.Tactic.Common

/-! Runs of a transition system, with the history of what happened in them. -/

namespace Dnfs

variable {σ ε : Type}

/--
A run from a start state, with its events listed newest first.

Listing them newest first makes the history of an earlier moment a tail of the history now.
-/
inductive Run (step : σ → ε → σ → Prop) (start : σ) : List ε → σ → Prop where
  /-- Nothing has happened yet. -/
  | nil : Run step start [] start
  /-- One more event happened. -/
  | cons {past : List ε} {s t : σ} {e : ε} :
    Run step start past s → step s e t → Run step start (e :: past) t

/--
What holds at the start and is kept by every step holds throughout.

The property may speak of the history as well as of the state.
-/
theorem Run.invariant {step : σ → ε → σ → Prop} {start : σ} (inv : List ε → σ → Prop)
    (initially : inv [] start)
    (kept : ∀ past s e t, inv past s → step s e t → inv (e :: past) t)
    {past : List ε} {s : σ} (run : Run step start past s) : inv past s := by
  induction run with
  | nil => exact initially
  | cons _ taken ih => exact kept _ _ _ _ ih taken

end Dnfs
