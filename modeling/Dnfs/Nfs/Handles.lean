import Dnfs.Nfs.Dispatch
import Dnfs.Nfs.NamespaceLaws
import Dnfs.Os.MemFs

/-! The handles each procedure rebuilds, and when a rebuilt handle is the one that was sent. -/

namespace Dnfs

variable {σ : Type}

section Rebuilding

variable (k : Kernel σ)

/-- A handle that names a file system object is rebuilt unless it is empty. -/
def rebuilt (handle : NfsFh3) : List NfsFh3 := if handle.length = 0 then [] else [handle]

/-- The first checks of RENAME pass, so that it goes on to the second directory. -/
def Rename3args.GoesOn (fs : σ) (args : Rename3args) : Prop :=
  judgeFileExit k fs (cstr args.fromDir.dir) FileType.dir.bits = true ∧
    judgeFileExit k fs args.fromDir.path anyType = true

instance (k : Kernel σ) (fs : σ) (args : Rename3args) : Decidable (args.GoesOn k fs) :=
  inferInstanceAs (Decidable (_ ∧ _))

/-- The handles that are rebuilt in serving a request, in order. -/
def Proc.rebuilds (fs : σ) : (p : Proc) → p.Args → List NfsFh3
  | null, _ => []
  | getattr, args => rebuilt args
  | setattr, args => rebuilt args.object
  | lookup, args => rebuilt (Diropargs3.dir args)
  | access, args => rebuilt args.object
  | readlink, args => rebuilt args
  | read, args => rebuilt args.file
  | write, args => rebuilt args.file
  | create, args => rebuilt args.where_.dir
  | mkdir, args => rebuilt args.where_.dir
  | symlink, args => rebuilt args.where_.dir
  | mknod, args => rebuilt args.where_.dir
  | remove, args => rebuilt (Diropargs3.dir args)
  | rmdir, args => rebuilt (Diropargs3.dir args)
  -- Only the first of the two directories is looked at before it is rebuilt.
  | rename, args =>
    if args.fromDir.dir.length = 0 then []
    else if args.GoesOn k fs then [args.fromDir.dir, args.toDir.dir]
    else [args.fromDir.dir]
  -- Both are looked at before either is rebuilt.
  | link, args =>
    if args.file.length = 0 ∨ args.link.dir.length = 0 then [] else [args.link.dir, args.file]
  | readdir, args => rebuilt args.dir
  | readdirplus, args => rebuilt args.dir
  | fsstat, args => rebuilt args
  | fsinfo, args => rebuilt args
  | pathconf, args => rebuilt args
  | commit, args => rebuilt args.file

/-- The second directory of a RENAME is empty, and nothing stops the request before. -/
def Proc.RebuildsEmpty (fs : σ) : (p : Proc) → p.Args → Prop
  | rename, args => args.fromDir.dir ≠ [] ∧ args.GoesOn k fs ∧ args.toDir.dir = []
  | _, _ => False

/-- A rebuilt handle is not empty. -/
theorem rebuilt_named (handle : NfsFh3) : [] ∉ rebuilt handle := by
  unfold rebuilt
  split
  · simp
  · rename_i named
    simpa [eq_comm] using named

/-- An empty handle is rebuilt only in that case. -/
theorem rebuilds_empty_iff (fs : σ) (p : Proc) (args : p.Args) :
    [] ∈ p.rebuilds k fs args ↔ p.RebuildsEmpty k fs args := by
  -- RENAME and LINK take two handles each.
  cases p with
  | null => simp [Proc.rebuilds, Proc.RebuildsEmpty]
  | rename =>
    simp only [Proc.rebuilds, Proc.RebuildsEmpty, List.length_eq_zero_iff]
    by_cases named : args.fromDir.dir = []
    · simp [named]
    · by_cases goesOn : args.GoesOn k fs
      · simp [named, goesOn, eq_comm (a := ([] : Bytes))]
      · simp [named, goesOn, eq_comm (a := ([] : Bytes))]
  | link =>
    simp only [Proc.rebuilds, Proc.RebuildsEmpty, List.length_eq_zero_iff]
    by_cases named : args.file = [] ∨ args.link.dir = []
    · simp [named]
    · rw [if_neg named]
      push Not at named
      simp [eq_comm (a := ([] : Bytes)), named]
  | _ => simpa only [Proc.rebuilds, Proc.RebuildsEmpty, iff_false] using rebuilt_named _

/-- RENAME ends the server only by that. -/
theorem nfs3Rename_none_iff (env : Env) (fs : σ) (args : Rename3args) (res : Mem) :
    nfs3Rename k env fs args res = none ↔
      args.fromDir.dir ≠ [] ∧ args.GoesOn k fs ∧ args.toDir.dir = [] := by
  by_cases named : args.fromDir.dir = []
  · rw [nfs3Rename_refused (checkDirHandle_unnamed res named)]
    simp [named]
  · cases judged : judgeFileExit k fs (cstr args.fromDir.dir) FileType.dir.bits with
    | false =>
      rw [nfs3Rename_refused (checkDirHandle_other res named judged)]
      simp [Rename3args.GoesOn, judged]
    | true =>
      have names : NamesDir k fs args.fromDir.dir := ⟨named, judged⟩
      cases there : judgeFileExit k fs args.fromDir.path anyType with
      | false =>
        rw [nfs3Rename_missing res names there]
        simp [Rename3args.GoesOn, there]
      | true =>
        have goesOn : args.GoesOn k fs := ⟨judged, there⟩
        -- Past the checks of the source, only the second handle matters.
        by_cases unnamed : args.toDir.dir = []
        · rw [nfs3Rename_unnamed res names there unnamed]
          exact iff_of_true rfl ⟨named, goesOn, unnamed⟩
        · refine iff_of_false ?_ fun empty => unnamed empty.2.2
          cases toJudged : judgeFileExit k fs (cstr args.toDir.dir) FileType.dir.bits with
          | false =>
            rw [nfs3Rename_other res names there unnamed toJudged]
            exact Option.some_ne_none _
          | true =>
            have ready : args.Ready k fs := ⟨names, there, unnamed, toJudged⟩
            obtain ⟨rc, served⟩ : ∃ rc, nfs3Rename k env fs args res = some ⟨rc, _, _, _⟩ :=
              nfs3Rename_ready res ready
            rw [served]
            exact Option.some_ne_none _

/-- Rebuilding an empty handle ends the server, and nothing else does. -/
theorem serviceFunc_none_iff (env : Env) (server : Server σ) (p : Proc) (args : p.Args)
    (res : Mem) :
    p.serviceFunc k env server args res = none ↔ [] ∈ p.rebuilds k server.fs args := by
  rw [rebuilds_empty_iff]
  cases p with
  | rename =>
    rw [Proc.serviceFunc, Option.map_eq_none_iff, nfs3Rename_none_iff]
    rfl
  | _ => simp [Proc.serviceFunc, Proc.RebuildsEmpty]

end Rebuilding

section Faithful

variable {handle other : NfsFh3} {around : Surroundings}

/-- A handle without a NUL is rebuilt as it is, whatever lies behind it. -/
theorem getFileHandle_nulFree (nulFree : 0 ∉ handle) (around : Surroundings) :
    getFileHandle around handle = handle ++ [0] := by
  -- Reading runs past the handle, and the copy is cut back to it.
  have read : cstr (handle ++ around.handleTail) = handle ++ cstr around.handleTail := by
    rw [cstr, List.takeWhile_append_of_pos, cstr]
    intro c mem
    simpa using fun zero : c = 0 => nulFree (zero ▸ mem)
  rw [getFileHandle, read, List.append_assoc, List.append_assoc, List.take_left]

/-- A handle with a NUL is rebuilt up to it, and from whatever lies behind the string after. -/
theorem getFileHandle_nul {chars rest : Bytes} (nulFree : 0 ∉ chars) (around : Surroundings) :
    getFileHandle around (chars ++ 0 :: rest) = chars ++ 0 ::
      (around.stringTail ++ List.replicate (chars ++ 0 :: rest).length 0).take rest.length ++
        [0] := by
  have read : cstr (chars ++ 0 :: rest ++ around.handleTail) = chars := by
    rw [List.append_assoc]
    exact cstr_append_nul nulFree _
  rw [getFileHandle, read, List.append_assoc, List.cons_append]
  simp [List.take_append, List.take_of_length_le]

/-- A handle is rebuilt as it is, from its own bytes, if and only if no byte follows a NUL in it. -/
theorem getFileHandle_faithful_iff (handle : NfsFh3) :
    (∀ around, getFileHandle around handle = handle ++ [0]) ↔ 0 ∉ handle.dropLast := by
  by_cases nul : 0 ∈ handle
  · obtain ⟨chars, rest, rfl, nulFree⟩ := List.eq_append_cons_of_mem nul
    cases rest with
    | nil =>
      refine iff_of_true (fun around => ?_) (by simpa using nulFree)
      rw [getFileHandle_nul nulFree]
      simp
    | cons next rest =>
      refine iff_of_false (fun faithful => ?_) (by simp)
      -- Another byte behind the string than the one in the handle is the one that is copied.
      have same := faithful ⟨[], [next + 1]⟩
      rw [getFileHandle_nul nulFree] at same
      simp at same
  · refine iff_of_true (getFileHandle_nulFree nul) fun mem => nul (List.dropLast_subset _ mem)

/-- Such a handle is its path, or its path and a NUL. -/
theorem handle_eq_path (faithful : 0 ∉ handle.dropLast) :
    handle = cstr handle ∨ handle = cstr handle ++ [0] := by
  by_cases nul : 0 ∈ handle
  · obtain ⟨chars, rest, rfl, nulFree⟩ := List.eq_append_cons_of_mem nul
    rw [cstr_append_nul nulFree]
    cases rest with
    | nil => exact .inr rfl
    | cons next rest => simp at faithful
  · exact .inl (cstr_eq_self nul).symm

/-- Two such handles name two paths unless one is the other and a NUL. -/
theorem paths_differ_iff (faithful : 0 ∉ handle.dropLast) (otherFaithful : 0 ∉ other.dropLast) :
    (handle ≠ other → cstr handle ≠ cstr other) ↔
      other ≠ handle ++ [0] ∧ handle ≠ other ++ [0] := by
  constructor
  · intro differ
    constructor
    · rintro rfl
      have nulFree : 0 ∉ handle := by simpa using otherFaithful
      exact differ (by simp) (by rw [cstr_append_nul nulFree, cstr_eq_self nulFree])
    · rintro rfl
      have nulFree : 0 ∉ other := by simpa using faithful
      exact differ (by simp) (by rw [cstr_append_nul nulFree, cstr_eq_self nulFree])
  · -- Each handle is its path, or its path and a NUL.
    rintro ⟨notLonger, notShorter⟩ different same
    rcases handle_eq_path faithful with plain | ended
    · rcases handle_eq_path otherFaithful with otherPlain | otherEnded
      · exact different (by rw [plain, otherPlain, same])
      · exact notLonger (by rw [otherEnded, ← same, ← plain])
    · rcases handle_eq_path otherFaithful with otherPlain | otherEnded
      · exact notShorter (by rw [ended, same, ← otherPlain])
      · exact different (by rw [ended, otherEnded, same])

/-- Every handle rebuilt for a request has bytes, and becomes just those and a NUL. -/
structure Proc.Faithful (k : Kernel σ) (fs : σ) (p : Proc) (args : p.Args) : Prop where
  named : ∀ handle ∈ p.rebuilds k fs args, handle ≠ []
  same : ∀ handle ∈ p.rebuilds k fs args, ∀ around, getFileHandle around handle = handle ++ [0]

/-- One request is served faithfully if and only if it gets to no empty handle and no early NUL. -/
theorem faithful_iff (k : Kernel σ) (fs : σ) (p : Proc) (args : p.Args) :
    p.Faithful k fs args ↔
      ¬p.RebuildsEmpty k fs args ∧ ∀ handle ∈ p.rebuilds k fs args, 0 ∉ handle.dropLast := by
  have empty := rebuilds_empty_iff k fs p args
  constructor
  · intro faithful
    refine ⟨fun reached => faithful.named [] (empty.mpr reached) rfl, fun handle mem => ?_⟩
    exact (getFileHandle_faithful_iff handle).mp (faithful.same handle mem)
  · rintro ⟨notReached, early⟩
    refine ⟨?_, fun handle mem => (getFileHandle_faithful_iff handle).mpr (early handle mem)⟩
    rintro handle mem rfl
    exact notReached (empty.mp mem)

/--
Two requests are served faithfully, and different handles name different paths, if and only if
neither gets to an empty handle, no byte follows a NUL in a handle, and none is another and a NUL.
-/
theorem handles_faithful_iff (k : Kernel σ) (fs otherFs : σ) (p q : Proc) (args : p.Args)
    (otherArgs : q.Args) :
    (p.Faithful k fs args ∧ q.Faithful k otherFs otherArgs ∧
      ∀ handle ∈ p.rebuilds k fs args, ∀ other ∈ q.rebuilds k otherFs otherArgs, handle ≠ other →
        ∀ around otherAround, handlePath around handle ≠ handlePath otherAround other) ↔
    (¬p.RebuildsEmpty k fs args ∧ ¬q.RebuildsEmpty k otherFs otherArgs) ∧
      (∀ handle ∈ p.rebuilds k fs args, 0 ∉ handle.dropLast) ∧
      (∀ other ∈ q.rebuilds k otherFs otherArgs, 0 ∉ other.dropLast) ∧
      ∀ handle ∈ p.rebuilds k fs args, ∀ other ∈ q.rebuilds k otherFs otherArgs,
        other ≠ handle ++ [0] ∧ handle ≠ other ++ [0] := by
  simp only [faithful_iff, handlePath_eq]
  constructor
  · rintro ⟨⟨named, early⟩, ⟨otherNamed, otherEarly⟩, differ⟩
    refine ⟨⟨named, otherNamed⟩, early, otherEarly, fun handle mem other otherMem => ?_⟩
    exact (paths_differ_iff (early handle mem) (otherEarly other otherMem)).mp
      fun different => differ handle mem other otherMem different ⟨[], []⟩ ⟨[], []⟩
  · rintro ⟨⟨named, otherNamed⟩, early, otherEarly, apart⟩
    refine ⟨⟨named, early⟩, ⟨otherNamed, otherEarly⟩, ?_⟩
    intro handle mem other otherMem different _ _
    exact (paths_differ_iff (early handle mem) (otherEarly other otherMem)).mpr
      (apart handle mem other otherMem) different

/-- What follows a NUL in a handle is lost, so two handles name one path. -/
theorem handle_cut_at_nul :
    ¬Proc.Faithful memKernel (MemFs.demoTree []) .getattr ([0x2f, 0x64, 0, 0x78] : NfsFh3) ∧
      ∀ around otherAround, handlePath around [0x2f, 0x64, 0, 0x78] =
        handlePath otherAround [0x2f, 0x64, 0, 0x79] := by
  constructor
  · rw [faithful_iff]
    rintro ⟨-, early⟩
    exact early [0x2f, 0x64, 0, 0x78] (by decide) (by decide)
  · intro around otherAround
    rw [handlePath_eq, handlePath_eq]
    rfl

end Faithful

end Dnfs
