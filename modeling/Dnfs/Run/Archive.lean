import Mathlib.Data.List.AList

/-! Messages that are cut into pieces by size, and names for the last ones of a row of files. -/

namespace Dnfs

section Pieces

variable {α : Type}

/-- Messages in pieces, each of which was cut off as soon as it was over the limit. -/
structure Pieces (limit : Nat) (pieces : List (List (List α))) (past : List (List α)) : Prop where
  whole : pieces.flatten = past
  /-- Without its last message, a piece is within the limit. -/
  within : ∀ piece ∈ pieces, piece.flatten.length ≤ limit + (piece.getLastD []).length
  /-- All pieces but the last one are over the limit. -/
  exceeds : ∀ piece ∈ pieces.dropLast, limit < piece.flatten.length

variable {limit : Nat} {pieces : List (List (List α))} {piece past : List (List α)}

/-- Nothing is cut into no pieces. -/
theorem Pieces.nil : Pieces limit ([] : List (List (List α))) [] :=
  ⟨rfl, nofun, nofun⟩

/-- A message begins a new piece, if there is none or the last one is over the limit. -/
theorem Pieces.cut (cut : Pieces limit pieces past)
    (full : ∀ piece ∈ pieces.getLast?, limit < piece.flatten.length) (message : List α) :
    Pieces limit (pieces ++ [[message]]) (past ++ [message]) := by
  refine ⟨by rw [List.flatten_concat, cut.whole], fun piece mem => ?_, fun piece mem => ?_⟩
  · rcases List.mem_append.mp mem with old | new
    · exact cut.within piece old
    · rw [List.mem_singleton.mp new]
      simp
  · rw [List.dropLast_concat] at mem
    -- What was the last piece is now one of those before it.
    rcases List.eq_nil_or_concat' pieces with rfl | ⟨before, last, rfl⟩
    · cases mem
    · rcases List.mem_append.mp mem with earlier | isLast
      · exact cut.exceeds piece (by rw [List.dropLast_concat]; exact earlier)
      · rw [List.mem_singleton.mp isLast]
        exact full last (by simp)

/-- A message goes to the last piece, if that is within the limit. -/
theorem Pieces.extend (cut : Pieces limit (pieces ++ [piece]) past)
    (small : piece.flatten.length ≤ limit) (message : List α) :
    Pieces limit (pieces ++ [piece ++ [message]]) (past ++ [message]) := by
  have whole := cut.whole
  have exceeds := cut.exceeds
  rw [List.flatten_concat] at whole
  rw [List.dropLast_concat] at exceeds
  refine ⟨?_, fun other mem => ?_, by rw [List.dropLast_concat]; exact exceeds⟩
  · rw [List.flatten_concat, ← List.append_assoc, whole]
  · rcases List.mem_append.mp mem with old | new
    · exact cut.within other (List.mem_append_left _ old)
    · rw [List.mem_singleton.mp new]
      simp only [List.flatten_concat, List.length_append, List.getLastD_concat]
      omega

end Pieces

section Windows

variable {κ : Type} [DecidableEq κ]

/-- Names for a row of numbers from some first one on, beside a main name and what was there. -/
structure Window (start names : AList fun _ : κ => Nat) (main : κ) (list : List κ) (first : Nat) :
    Prop where
  found : (list.map fun name => names.lookup name) = (List.range' first list.length).map some
  distinct : list.Nodup
  apart : main ∉ list
  /-- None of the names was in use at first. -/
  unused : ∀ name ∈ list, start.lookup name = none
  /-- All other names are as they were. -/
  others : ∀ name, name ≠ main → name ∉ list → names.lookup name = start.lookup name

variable {start names : AList fun _ : κ => Nat} {main name : κ} {list : List κ} {first : Nat}

/-- Without pieces the names are as they were. -/
theorem Window.nil (start : AList fun _ : κ => Nat) (main : κ) (first : Nat) :
    Window start start main [] first :=
  ⟨rfl, List.nodup_nil, List.not_mem_nil, nofun, fun _ _ _ => rfl⟩

/-- What is in the list is found. -/
theorem Window.isSome (window : Window start names main list first) (mem : name ∈ list) :
    (names.lookup name).isSome = true := by
  have found : names.lookup name ∈ list.map fun name => names.lookup name :=
    List.mem_map.mpr ⟨name, mem, rfl⟩
  rw [window.found] at found
  obtain ⟨n, _, at_⟩ := List.mem_map.mp found
  rw [← at_]
  rfl

/-- The main name may be given to anything. -/
theorem Window.insert (window : Window start names main list first) (n : Nat) :
    Window start (names.insert main n) main list first := by
  refine ⟨?_, window.distinct, window.apart, window.unused, fun name notMain notListed => ?_⟩
  · rw [← window.found]
    refine List.map_congr_left fun name mem => ?_
    exact AList.lookup_insert_ne fun same => window.apart (same ▸ mem)
  · rw [AList.lookup_insert_ne notMain, window.others name notMain notListed]

/-- What has the main name gets a new one, and the window grows. -/
theorem Window.push (window : Window start names main list first)
    (free : names.lookup name = none) (differs : name ≠ main) :
    Window start ((names.erase main).insert name (first + list.length)) main (list ++ [name])
      first := by
  have notListed : name ∉ list := by
    intro mem
    have found := window.isSome mem
    rw [free] at found
    cases found
  have kept : ∀ other, other ≠ name → other ≠ main →
      ((names.erase main).insert name (first + list.length)).lookup other
        = names.lookup other := by
    intro other notNew notMain
    rw [AList.lookup_insert_ne notNew, AList.lookup_erase_ne notMain]
  -- Only the new name and the active file changed, and neither was in the window.
  refine ⟨?_, ?_, ?_, ?_, ?_⟩
  · rw [List.map_append, List.length_append, List.length_singleton, List.range'_1_concat,
      List.map_append, ← window.found]
    congr 1
    · refine List.map_congr_left fun other mem => kept other ?_ ?_
      · exact fun same => notListed (same ▸ mem)
      · exact fun same => window.apart (same ▸ mem)
    · simp only [List.map_cons, List.map_nil, AList.lookup_insert]
  · exact List.nodup_append_comm.mp (List.nodup_cons.mpr ⟨notListed, window.distinct⟩)
  · intro mem
    rcases List.mem_append.mp mem with old | new
    · exact window.apart old
    · exact differs (List.mem_singleton.mp new).symm
  · intro other mem
    rcases List.mem_append.mp mem with old | new
    · exact window.unused other old
    · rw [List.mem_singleton.mp new, ← window.others name differs notListed, free]
  · intro other notMain notNew
    rw [List.mem_append, List.mem_singleton, not_or] at notNew
    rw [kept other notNew.2 notMain, window.others other notMain notNew.1]

/-- The first name is dropped, and the window moves on. -/
theorem Window.pop (window : Window start names main (name :: list) first) :
    Window start (names.erase name) main list (first + 1) := by
  obtain ⟨notListed, distinct⟩ := List.nodup_cons.mp window.distinct
  have found := window.found
  rw [List.map_cons, List.length_cons, List.range'_succ, List.map_cons] at found
  refine ⟨?_, distinct, fun mem => window.apart (List.mem_cons_of_mem name mem),
    fun other mem => window.unused other (List.mem_cons_of_mem name mem), ?_⟩
  · rw [← (List.cons.inj found).2]
    refine List.map_congr_left fun other mem => ?_
    exact AList.lookup_erase_ne fun same => notListed (same ▸ mem)
  · intro other notMain notRest
    by_cases same : other = name
    · -- The dropped name is free again, as it was at first.
      rw [same, AList.lookup_erase, window.unused name List.mem_cons_self]
    · rw [AList.lookup_erase_ne same,
        window.others other notMain fun mem => (List.mem_cons.mp mem).elim same notRest]

end Windows

end Dnfs
