import Mathlib.Data.List.Basic
import Mathlib.Data.Option.Basic

/-! How a path is resolved in a tree of directories, one component after another. -/

namespace Dnfs

section Components

/-- The byte that separates components. -/
def slash : UInt8 := 0x2f

/-- The name by which a directory finds itself. -/
def dotName : List UInt8 := [0x2e]

/-- The name by which a directory finds the one it is in. -/
def dotDotName : List UInt8 := [0x2e, 0x2e]

/-- The components of a path, where any number of separators in a row counts as one. -/
def components (path : List UInt8) : List (List UInt8) := (path.splitOn slash).filter (· ≠ [])

/-- A name that an entry of a directory can have. -/
structure PlainName (name : List UInt8) : Prop where
  nonempty : name ≠ []
  whole : slash ∉ name
  notDot : name ≠ dotName
  notDotDot : name ≠ dotDotName

instance (name : List UInt8) : Decidable (PlainName name) :=
  decidable_of_iff (name ≠ [] ∧ slash ∉ name ∧ name ≠ dotName ∧ name ≠ dotDotName)
    ⟨fun h => ⟨h.1, h.2.1, h.2.2.1, h.2.2.2⟩, fun h => ⟨h.1, h.2, h.3, h.4⟩⟩

/-- A component holds no separator. -/
theorem slash_notMem_splitOn {path component : List UInt8}
    (within : component ∈ path.splitOn slash) : slash ∉ component := by
  -- The induction follows the path, whose first byte starts a component or ends an empty one.
  induction path generalizing component with
  | nil =>
    rw [List.splitOn_nil, List.mem_singleton] at within
    simp [within]
  | cons byte rest ih =>
    rw [List.splitOn_cons_eq_if_modifyHead] at within
    by_cases separates : byte = slash
    · rw [if_pos (beq_iff_eq.mpr separates), List.mem_cons] at within
      rcases within with rfl | later
      · simp
      · exact ih later
    · rw [if_neg (mt beq_iff_eq.mp separates)] at within
      cases parts : rest.splitOn slash with
      | nil => simp [parts] at within
      | cons first others =>
        rw [parts, List.modifyHead_cons, List.mem_cons] at within
        rw [parts] at ih
        rcases within with rfl | later
        · have clear := ih List.mem_cons_self
          simp only [List.mem_cons, not_or]
          exact ⟨Ne.symm separates, clear⟩
        · exact ih (List.mem_cons_of_mem first later)

/-- A component is nonempty and holds no separator. -/
theorem component_wf {path component : List UInt8} (within : component ∈ components path) :
    component ≠ [] ∧ slash ∉ component := by
  simp only [components, List.mem_filter, decide_eq_true_eq] at within
  exact ⟨within.2, slash_notMem_splitOn within.1⟩

/-- A separator ends one component and starts the next. -/
theorem components_append (front back : List UInt8) :
    components (front ++ slash :: back) = components front ++ components back := by
  rw [components, List.splitOn_append_cons_self, List.filter_append]
  rfl

/-- A name without a separator is its only component. -/
theorem components_of_whole {name : List UInt8} (nonempty : name ≠ []) (whole : slash ∉ name) :
    components name = [name] := by
  rw [components, List.splitOn_eq_singleton whole]
  simp [nonempty]

end Components

/-- What a path arrives at: a directory, or an entry of one, there or not. -/
inductive Place (ν : Type) where
  | directory (node : ν)
  | entry (dir : ν) (name : List UInt8)
  deriving DecidableEq, Repr

/-- Directories and what is in them, as a walk along a path sees them. -/
structure PathTree (ν : Type) where
  /-- Where paths that start with a separator start. -/
  root : ν
  /-- Where all others start. -/
  cwd : ν
  entry : ν → List UInt8 → Option ν
  parent : ν → ν
  /-- The directory a walk goes on in, where links are followed and anything else ends the walk. -/
  enter : ν → Option ν
  isLink : ν → Bool
  /-- What the path that a link holds arrives at. -/
  leads : ν → Option (Place ν)

namespace PathTree

variable {ν : Type} (tree : PathTree ν)
variable {dir : ν} {name path : List UInt8}

/-- What the last component of a path arrives at in the directory before it. -/
def arrive (dir : ν) (name : List UInt8) : Place ν :=
  if name = dotName then .directory dir
  else if name = dotDotName then .directory (tree.parent dir)
  else .entry dir name

/-- What is at a place. -/
def node : Place ν → Option ν
  | .directory node => some node
  | .entry dir name => tree.entry dir name

/-- What some components arrive at from a directory. -/
def placeFrom (dir : ν) : List (List UInt8) → Option (Place ν)
  | [] => some (.directory dir)
  | [name] => some (tree.arrive dir name)
  | name :: next :: rest =>
    -- Every component but the last has to lead into a directory.
    ((tree.node (tree.arrive dir name)).bind tree.enter).bind fun inner =>
      placeFrom inner (next :: rest)

/-- Where a path starts. -/
def start (path : List UInt8) : ν := if path.head? = some slash then tree.root else tree.cwd

/-- What a path arrives at, which is nothing for the empty one. -/
def place (path : List UInt8) : Option (Place ν) :=
  if path = [] then none else tree.placeFrom (tree.start path) (components path)

/-- What a path arrives at when a link at its end is followed as well. -/
def openPlace (path : List UInt8) : Option (Place ν) :=
  (tree.place path).bind fun place =>
    match tree.node place with
    | some node => if tree.isLink node then tree.leads node else some place
    | none => some place

/-- A path that names a directory itself, not by way of a link. -/
def Names (path : List UInt8) (dir : ν) : Prop :=
  (tree.place path).bind tree.node = some dir ∧ tree.enter dir = some dir

/-- One more component arrives in the directory that the others name. -/
theorem placeFrom_append_singleton {start : ν} {names : List (List UInt8)} (name : List UInt8)
    (found : (tree.placeFrom start names).bind tree.node = some dir)
    (isDir : tree.enter dir = some dir) :
    tree.placeFrom start (names ++ [name]) = some (tree.arrive dir name) := by
  -- The induction follows the walk, which goes on as before up to the directory.
  induction names generalizing start with
  | nil =>
    obtain rfl : start = dir := by simpa [placeFrom, node] using found
    rfl
  | cons first rest ih =>
    cases rest with
    | nil =>
      -- The last of the components names the directory, and the walk goes on in it.
      have last : tree.node (tree.arrive start first) = some dir := by
        simpa [placeFrom] using found
      simp [placeFrom, last, isDir]
    | cons second rest =>
      cases inner : (tree.node (tree.arrive start first)).bind tree.enter with
      | none => simp [placeFrom, inner] at found
      | some next =>
        have later : (tree.placeFrom next (second :: rest)).bind tree.node = some dir := by
          simpa [placeFrom, inner] using found
        have arrives := ih later
        simpa [placeFrom, inner] using arrives

/-- An entry that a walk arrives at is one that a directory can have. -/
theorem plainName_of_placeFrom {start : ν} {names : List (List UInt8)}
    (wf : ∀ component ∈ names, component ≠ [] ∧ slash ∉ component)
    (arrives : tree.placeFrom start names = some (.entry dir name)) : PlainName name := by
  induction names generalizing start with
  | nil => simp [placeFrom] at arrives
  | cons first rest ih =>
    cases rest with
    | nil =>
      obtain ⟨nonempty, whole⟩ := wf first List.mem_cons_self
      by_cases isDot : first = dotName
      · simp [placeFrom, arrive, isDot] at arrives
      by_cases isDotDot : first = dotDotName
      · simp [placeFrom, arrive, isDotDot, dotDotName, dotName] at arrives
      -- Neither of the two special names, so the component is the name of the entry.
      obtain ⟨_, rfl⟩ : start = dir ∧ first = name := by
        simpa [placeFrom, arrive, isDot, isDotDot] using arrives
      exact ⟨nonempty, whole, isDot, isDotDot⟩
    | cons second rest =>
      cases inner : (tree.node (tree.arrive start first)).bind tree.enter with
      | none => simp [placeFrom, inner] at arrives
      | some next =>
        have later : tree.placeFrom next (second :: rest) = some (.entry dir name) := by
          simpa [placeFrom, inner] using arrives
        exact ih (fun component within => wf component (List.mem_cons_of_mem _ within)) later

variable {tree}

/-- A plain name behind the path of a directory arrives at the entry of that name. -/
theorem Names.place_plain (names : tree.Names path dir) (plain : PlainName name) :
    tree.place (path ++ slash :: name) = some (.entry dir name) := by
  obtain ⟨found, isDir⟩ := names
  have nonempty : path ≠ [] := by
    rintro rfl
    simp [place] at found
  -- The longer path starts where the shorter one does, and has one more component.
  have starts : tree.start (path ++ slash :: name) = tree.start path := by
    cases path with
    | nil => exact absurd rfl nonempty
    | cons byte rest => rfl
  have split : components (path ++ slash :: name) = components path ++ [name] := by
    rw [components_append, components_of_whole plain.nonempty plain.whole]
  rw [place, if_neg nonempty] at found
  rw [place, if_neg (by simp), starts, split, tree.placeFrom_append_singleton name found isDir,
    arrive, if_neg plain.notDot, if_neg plain.notDotDot]

/-- No other name behind any path arrives at an entry of that name. -/
theorem plainName_of_place (arrives : tree.place path = some (.entry dir name)) :
    PlainName name := by
  by_cases empty : path = []
  · rw [place, if_pos empty] at arrives
    cases arrives
  · rw [place, if_neg empty] at arrives
    exact tree.plainName_of_placeFrom (fun _ within => component_wf within) arrives

/-- A name stays inside the directory exactly if it is plain, or arrives at nothing at all. -/
theorem Names.stays_iff (names : tree.Names path dir) (name : List UInt8) :
    (∀ place, tree.place (path ++ slash :: name) = some place → place = .entry dir name) ↔
      PlainName name ∨ tree.place (path ++ slash :: name) = none := by
  constructor
  · intro stays
    cases arrives : tree.place (path ++ slash :: name) with
    | none => exact .inr rfl
    | some place =>
      rw [stays place arrives] at arrives
      exact .inl (plainName_of_place arrives)
  · rintro (plain | nowhere) place arrives
    · rw [names.place_plain plain] at arrives
      exact (Option.some.inj arrives).symm
    · rw [nowhere] at arrives
      cases arrives

/-- An entry is no link, or one that leads nowhere else. -/
def Unlinked (tree : PathTree ν) (dir : ν) (name : List UInt8) : Prop :=
  ∀ node, tree.entry dir name = some node → tree.isLink node = true →
    ∀ place, tree.leads node = some place → place = .entry dir name

/-- What an open of an entry arrives at. -/
theorem openPlace_entry (arrives : tree.place path = some (.entry dir name)) :
    (∀ place, tree.openPlace path = some place → place = .entry dir name) ↔
      tree.Unlinked dir name := by
  simp only [openPlace, arrives, Option.bind_some, node, Unlinked]
  cases found : tree.entry dir name with
  | none => simp
  | some node =>
    by_cases link : tree.isLink node = true <;> simp [link]

/-- The same for an open, which is led astray by a link of that name as well. -/
theorem Names.openStays_iff (names : tree.Names path dir) (name : List UInt8) :
    ((∀ place, tree.place (path ++ slash :: name) = some place → place = .entry dir name) ∧
        ∀ place, tree.openPlace (path ++ slash :: name) = some place → place = .entry dir name) ↔
      (PlainName name ∧ tree.Unlinked dir name) ∨ tree.place (path ++ slash :: name) = none := by
  rw [names.stays_iff]
  by_cases plain : PlainName name
  · have arrives := names.place_plain plain
    rw [openPlace_entry arrives, arrives]
    simp [plain]
  · -- What arrives at nothing is not opened either.
    have opens : tree.place (path ++ slash :: name) = none →
        ∀ place, tree.openPlace (path ++ slash :: name) = some place → place = .entry dir name := by
      intro nowhere place opened
      simp [openPlace, nowhere] at opened
    simp only [plain, false_or, false_and]
    exact ⟨fun stays => stays.1, fun nowhere => ⟨nowhere, opens nowhere⟩⟩

end PathTree

end Dnfs
