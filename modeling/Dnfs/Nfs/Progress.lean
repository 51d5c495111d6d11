import Dnfs.Nfs.Enumeration
import Dnfs.Nfs.HandOut
import Mathlib.Data.List.Infix

/-! What READDIRPLUS gives a client to go on with, whichever objects vanish while it reads. -/

namespace Dnfs

variable {σ : Type}

section Reach

variable (limits : PageLimits)

/-- How many more records a listing takes that holds so many already. -/
def PageLimits.room (count : Nat) : Nat := max 1 (limits.pageLength - count)

/-- Whether the records taken off a buffer end the listing, which the largest position does not. -/
def PageLimits.stops (count : Nat) (dirents : List Dirent) : Bool :=
  limits.room count ≤ dirents.length ∧
    ((dirents.take (limits.room count)).getLast?.map (·.dOff)) ≠ some longMax

/-- The records that reading gets to, behind so many others, as long as it is not stopped. -/
def reached : Nat → List (Except Errno (List Dirent)) → List Dirent
  | count, .ok (dirent :: rest) :: buffers =>
    let front := (dirent :: rest).take (limits.room count)
    if limits.stops count (dirent :: rest) then front
    else front ++ reached (count + front.length) buffers
  | _, _ => []

/-- Whether reading some buffers meets an error before the listing ends. -/
def failsToRead : Nat → List (Except Errno (List Dirent)) → Bool
  | _, .error _ :: _ => true
  | count, .ok (dirent :: rest) :: buffers =>
    !limits.stops count (dirent :: rest) &&
      failsToRead (count + ((dirent :: rest).take (limits.room count)).length) buffers
  | _, _ => false

/-- The records that were returned before there were no more, or before an error. -/
def returned : List (Except Errno (List Dirent)) → List Dirent
  | .ok (dirent :: rest) :: buffers => (dirent :: rest) ++ returned buffers
  | _ => []

variable {limits}
variable {count : Nat}

/-- There is always room for an entry. -/
theorem PageLimits.room_pos (count : Nat) : 0 < limits.room count :=
  Nat.lt_of_lt_of_le Nat.one_pos (Nat.le_max_left _ _)

/-- A listing is full once there is room for one record only, and takes that. -/
theorem PageLimits.full_succ_iff (count : Nat) :
    limits.full (count + 1) = true ↔ limits.room count = 1 := by
  rw [limits.full_succ, PageLimits.room]
  omega

/-- Records that do not use up the room leave the rest of it. -/
theorem PageLimits.room_add {more : Nat} (below : more < limits.room count) :
    limits.room (count + more) = limits.room count - more := by
  have below : more < max 1 (limits.pageLength - count) := below
  show max 1 (limits.pageLength - (count + more)) = max 1 (limits.pageLength - count) - more
  omega

/-- A record that leaves room for others takes the room of one. -/
theorem PageLimits.room_succ (more : limits.room count ≠ 1) :
    limits.room count = limits.room (count + 1) + 1 := by
  have positive := limits.room_pos count
  rw [PageLimits.room_add (by omega)]
  omega

/-- Records that do not use up the room do not end the listing. -/
theorem PageLimits.stops_short {dirents : List Dirent}
    (short : dirents.length < limits.room count) : limits.stops count dirents = false := by
  rw [PageLimits.stops, decide_eq_false_iff_not]
  exact fun both => absurd both.1 (Nat.not_le.mpr short)

/-- The last record there is room for ends the listing, unless it is at the largest position. -/
theorem PageLimits.stops_last (last : limits.room count = 1) (dirent : Dirent)
    (rest : List Dirent) :
    limits.stops count (dirent :: rest) = decide (dirent.dOff ≠ longMax) := by
  simp [PageLimits.stops, last]

/-- Any other record leaves that to the records behind it. -/
theorem PageLimits.stops_cons (more : limits.room count ≠ 1) (dirent : Dirent)
    (rest : List Dirent) : limits.stops count (dirent :: rest) = limits.stops (count + 1) rest := by
  have room := PageLimits.room_succ more
  by_cases short : rest.length < limits.room (count + 1)
  · rw [stops_short short, stops_short (by simpa [room] using short)]
  · -- Then something is taken behind the record, and its position decides.
    have taken : rest.take (limits.room (count + 1)) ≠ [] := by
      intro none
      have length := congrArg List.length none
      have positive := limits.room_pos (count + 1)
      rw [List.length_take, List.length_nil] at length
      omega
    obtain ⟨first, behind, shape⟩ := List.exists_cons_of_ne_nil taken
    rw [PageLimits.stops, PageLimits.stops, room, List.take_succ_cons, shape,
      List.getLast?_cons_cons, List.length_cons]
    simp only [Nat.add_le_add_iff_right]

/-- Whatever is returned and has room in the listing is reached. -/
theorem returned_reached (count : Nat) (buffers : List (Except Errno (List Dirent))) :
    (returned buffers).take (limits.room count) <+: reached limits count buffers := by
  -- The induction follows the buffers, and the room shrinks by what each of them gives.
  induction buffers generalizing count with
  | nil => simp [returned]
  | cons buffer buffers ih =>
    match buffer with
    | .error _ | .ok [] => simp [returned]
    | .ok (dirent :: rest) =>
      rw [returned, reached]
      by_cases enough : limits.room count ≤ (dirent :: rest).length
      · rw [List.take_append_of_le_length enough]
        cases limits.stops count (dirent :: rest) with
        | true => exact List.prefix_refl _
        | false => exact List.prefix_append _ _
      · have short : (dirent :: rest).length < limits.room count := Nat.lt_of_not_le enough
        have goesOn := PageLimits.stops_short short
        have whole : (dirent :: rest).take (limits.room count) = dirent :: rest :=
          List.take_of_length_le (Nat.le_of_lt short)
        rw [goesOn, whole, List.take_append, whole]
        rw [← PageLimits.room_add short]
        exact (List.prefix_append_right_inj _).mpr (ih _)

end Reach

section Reading

variable {k : Kernel σ} {env : Env} {fs : σ} {dirPath : Path} {limits : PageLimits}
variable {dirent : Dirent} {nodes : List EntryplusNode}

/-- The node was made of the record. -/
def EntryplusNode.Made (k : Kernel σ) (env : Env) (fs : σ) (dirPath : Path) (node : EntryplusNode)
    (dirent : Dirent) : Prop :=
  ∃ i, entryplusNode k env fs dirPath i dirent = some node

/-- A node lists the record it was made of. -/
theorem EntryplusNode.Made.lists {node : EntryplusNode} (made : node.Made k env fs dirPath dirent) :
    node.Lists dirPath dirent := by
  obtain ⟨i, made⟩ := made
  cases can : examinable k fs dirPath dirent with
  | false =>
    rw [entryplusNode_unexaminable i can] at made
    cases made
  | true =>
    obtain ⟨other, makes, lists⟩ := entryplusNode_examinable env i can
    rw [Option.some.inj (made.symm.trans makes)]
    exact lists

/-- What one buffer comes to, for objects that can all be examined. -/
theorem readBuffer_examined (env : Env) {dirents : List Dirent}
    (can : ∀ dirent ∈ dirents.take (limits.room nodes.length),
      examinable k fs dirPath dirent = true) :
    ∃ new, List.Forall₂ (EntryplusNode.Made k env fs dirPath) new
        (dirents.take (limits.room nodes.length)) ∧
      readBuffer k env fs dirPath limits nodes dirents
        = if limits.stops nodes.length dirents then .page (nodes ++ new)
          else .more (nodes ++ new) := by
  -- The induction follows the records of the buffer, and the room shrinks by one each.
  induction dirents generalizing nodes with
  | nil =>
    refine ⟨[], by simp, ?_⟩
    have goesOn : limits.stops nodes.length [] = false :=
      PageLimits.stops_short (limits.room_pos _)
    simp [readBuffer, goesOn]
  | cons dirent rest ih =>
    have first : dirent ∈ (dirent :: rest).take (limits.room nodes.length) := by
      rw [← Nat.succ_pred_eq_of_pos (limits.room_pos nodes.length), List.take_succ_cons]
      exact List.mem_cons_self
    obtain ⟨node, makes, lists⟩ := entryplusNode_examinable env nodes.length (can dirent first)
    have made : node.Made k env fs dirPath dirent := ⟨_, makes⟩
    have grown : (nodes ++ [node]).length = nodes.length + 1 := by simp
    by_cases last : limits.room nodes.length = 1
    · refine ⟨[node], by simpa [last] using made, ?_⟩
      simp only [readBuffer, makes, grown, (PageLimits.full_succ_iff _).mpr last, if_true,
        lists.cookie, PageLimits.stops_last last]
      by_cases longest : dirent.dOff = longMax <;> simp [longest]
    · have notFull : limits.full (nodes.length + 1) = false :=
        Bool.eq_false_iff.mpr (mt (PageLimits.full_succ_iff _).mp last)
      rw [PageLimits.room_succ last, ← grown, List.take_succ_cons] at can ⊢
      obtain ⟨new, listsLater, reads⟩ := ih fun later mem => can later (List.mem_cons_of_mem _ mem)
      refine ⟨node :: new, .cons made listsLater, ?_⟩
      rw [grown] at reads
      simp only [readBuffer, makes, grown, notFull, Bool.false_eq_true, if_false, reads,
        PageLimits.stops_cons last]
      simp

/-- What one buffer comes to, for some object that cannot be examined. -/
theorem readBuffer_unexamined (env : Env) {dirents : List Dirent}
    (within : dirent ∈ dirents.take (limits.room nodes.length))
    (cannot : examinable k fs dirPath dirent = false) :
    readBuffer k env fs dirPath limits nodes dirents = .unexamined := by
  induction dirents generalizing nodes with
  | nil => simp at within
  | cons front rest ih =>
    cases can : examinable k fs dirPath front with
    | false => simp only [readBuffer, entryplusNode_unexaminable _ can]
    | true =>
      -- The record is further behind, so there is room for more than this one.
      obtain ⟨node, makes, _⟩ := entryplusNode_examinable env nodes.length can
      have other : dirent ≠ front := by
        rintro rfl
        rw [can] at cannot
        cases cannot
      have grown : (nodes ++ [node]).length = nodes.length + 1 := by simp
      have more : limits.room nodes.length ≠ 1 := by
        intro last
        rw [last] at within
        simp [other] at within
      have notFull : limits.full (nodes.length + 1) = false :=
        Bool.eq_false_iff.mpr (mt (PageLimits.full_succ_iff _).mp more)
      rw [PageLimits.room_succ more, ← grown, List.take_succ_cons] at within
      have later := ih ((List.mem_cons.mp within).resolve_left other)
      simp only [readBuffer, makes, grown, notFull, Bool.false_eq_true, if_false, later]

/-- There is always room for one record. -/
theorem made_ne_nil {node : EntryplusNode → Dirent → Prop} {new : List EntryplusNode} {count : Nat}
    {first : Dirent} {rest : List Dirent}
    (made : List.Forall₂ node new ((first :: rest).take (limits.room count))) : new ≠ [] := by
  rintro rfl
  rw [List.forall₂_nil_left_iff, List.take_eq_nil_iff] at made
  exact made.elim (Nat.ne_of_gt (limits.room_pos _)) (List.cons_ne_nil _ _)

/-- An object that is reached and cannot be examined keeps the directory from being listed. -/
theorem readBuffers_unexamined (env : Env) {buffers : List (Except Errno (List Dirent))}
    (within : dirent ∈ reached limits nodes.length buffers)
    (cannot : examinable k fs dirPath dirent = false) :
    readBuffers k env fs dirPath limits nodes buffers = .unexamined := by
  induction buffers generalizing nodes with
  | nil => simp [reached] at within
  | cons buffer buffers ih =>
    match buffer with
    | .error _ | .ok [] => simp [reached] at within
    | .ok (first :: rest) =>
      by_cases can : ∀ other ∈ (first :: rest).take (limits.room nodes.length),
          examinable k fs dirPath other = true
      · -- The record is not in this buffer, so reading goes on to where it is.
        obtain ⟨new, made, reads⟩ := readBuffer_examined env can
        have later : dirent ∉ (first :: rest).take (limits.room nodes.length) := by
          intro here
          rw [can dirent here] at cannot
          cases cannot
        have grown : (nodes ++ new).length
            = nodes.length + ((first :: rest).take (limits.room nodes.length)).length := by
          rw [List.length_append, made.length_eq]
        cases stops : limits.stops nodes.length (first :: rest) with
        | true =>
          rw [reached, stops, if_pos rfl] at within
          exact absurd within later
        | false =>
          rw [reached, stops, if_neg (by decide), ← grown, List.mem_append] at within
          rw [stops, if_neg (by decide)] at reads
          simp only [readBuffers, reads]
          exact ih (within.resolve_left later)
      · obtain ⟨other, here, cannot⟩ := not_forall₂.mp can
        simp only [readBuffers, readBuffer_unexamined env here (Bool.eq_false_iff.mpr cannot)]

/-- Otherwise the directory is listed as far as it is reached, or a buffer cannot be read. -/
theorem readBuffers_examined (env : Env) {buffers : List (Except Errno (List Dirent))}
    (can : ∀ dirent ∈ reached limits nodes.length buffers,
      examinable k fs dirPath dirent = true) :
    if failsToRead limits nodes.length buffers then
      readBuffers k env fs dirPath limits nodes buffers = .unreadable
    else ∃ new eof, List.Forall₂ (EntryplusNode.Made k env fs dirPath) new
        (reached limits nodes.length buffers) ∧
      readBuffers k env fs dirPath limits nodes buffers = .listed (nodes ++ new) eof ∧
      (eof = false → new ≠ []) := by
  induction buffers generalizing nodes with
  | nil => exact ⟨[], true, by simp [reached], by simp [readBuffers], by simp⟩
  | cons buffer buffers ih =>
    rcases buffer with _ | _ | ⟨first, rest⟩
    · rfl
    · exact ⟨[], true, by simp [reached], by simp [readBuffers], by simp⟩
    · have canFront : ∀ other ∈ (first :: rest).take (limits.room nodes.length),
          examinable k fs dirPath other = true := by
        intro other here
        refine can other ?_
        rw [reached]
        cases limits.stops nodes.length (first :: rest) with
        | true => exact here
        | false => exact List.mem_append_left _ here
      -- The front of the buffer is listed, and the page ends with it or goes on behind.
      obtain ⟨new, made, reads⟩ := readBuffer_examined env canFront
      have grown : (nodes ++ new).length
          = nodes.length + ((first :: rest).take (limits.room nodes.length)).length := by
        rw [List.length_append, made.length_eq]
      cases stops : limits.stops nodes.length (first :: rest) with
      | true =>
        rw [stops, if_pos rfl] at reads
        simp only [failsToRead, stops, Bool.not_true, Bool.false_and, Bool.false_eq_true, if_false]
        refine ⟨new, false, ?_, by simp only [readBuffers, reads], fun _ => made_ne_nil made⟩
        rw [reached, stops, if_pos rfl]
        exact made
      | false =>
        rw [stops, if_neg (by decide)] at reads
        simp only [reached, stops, Bool.false_eq_true, if_false, ← grown] at can
        have behind := ih fun dirent later => can dirent (List.mem_append_right _ later)
        simp only [failsToRead, reached, stops, Bool.not_false, Bool.true_and, ← grown,
          Bool.false_eq_true, if_false, readBuffers, reads]
        split at behind
        · next fails => rwa [if_pos fails]
        · next succeeds =>
          rw [if_neg succeeds]
          obtain ⟨more, eof, madeLater, readsLater, _⟩ := behind
          refine ⟨new ++ more, eof, List.rel_append made madeLater, ?_, fun _ => ?_⟩
          · rw [readsLater, List.append_assoc]
          · exact List.append_ne_nil_of_left_ne_nil (made_ne_nil made) _

end Reading

section Leaving

variable {k : Kernel σ} {env : Env} {fs : σ} {args : Readdirplus3args} {res : Mem} {st : Stat}

/-- What READDIRPLUS leaves to be written, for a result that held something before. -/
def leftReaddirplus (k : Kernel σ) (env : Env) (fs : σ) (args : Readdirplus3args) (res : Mem) :
    Readdirplus3res :=
  let done := nfs3Readdirplus k env fs args res
  loadReaddirplus3res (env.heap.over done.stored) done.res

/-- The records that a call gets to. -/
def Readdirplus3args.reached (k : Kernel σ) (env : Env) (fs : σ) (args : Readdirplus3args) :
    List Dirent :=
  Dnfs.reached (args.limits env) 0 (args.buffers k fs)

/-- A result with an error in it is not read as a success. -/
theorem loadReaddirplus3res_error {m : Mem} {status : Nfsstat3} (error : status ≠ .nfs3Ok)
    (heap : Heap) (resok : Readdirplus3resok) :
    loadReaddirplus3res heap (putStatus m status) ≠ .ok resok := by
  have nonzero : putStatus m status 0 ≠ 0 := by
    rw [putStatus_zero]
    exact mt Nfsstat3.code_eq_zero.mp error
  rw [loadReaddirplus3res, loadStatus, dif_neg nonzero]
  intro same
  cases same

/-- Without a handle the result keeps its status, and holds no entries and no end. -/
theorem leftReaddirplus_unnamed (unnamed : args.dir = []) :
    leftReaddirplus k env fs args res
      = loadStatus (res 0) ⟨loadPostOpAttr res 2, res.getU64 26, ⟨[], 0⟩⟩
        (loadPostOpAttr res 2) := by
  -- Only the entries and the end are cleared, which lie behind everything else.
  have kept : ∀ i, i < 28 → listingCleared res i = res i := by
    intro i low
    have apart : i ≠ 28 ∧ i ≠ 29 ∧ i ≠ 30 := by omega
    simp [listingCleared, apart]
  have attributes : (listingCleared res).Agree res 2 24 := fun i _ high => kept i (by omega)
  have verifier : (listingCleared res).getU64 26 = res.getU64 26 := by
    rw [Mem.getU64, Mem.getU64, kept 26 (by decide), kept (26 + 1) (by decide)]
  have pointer : (listingCleared res).getU64 28 = 0 := by simp [listingCleared, Mem.getU64]
  have unmarked : listingCleared res 30 = 0 := by simp [listingCleared]
  simp only [leftReaddirplus, nfs3Readdirplus_unnamed unnamed, Done.refuse, loadReaddirplus3res,
    loadReaddirplus3resok, pointer, unmarked, loadPostOpAttr_congr attributes, verifier,
    kept 0 (by decide)]
  simp [Heap.entriesplus]

/-- A call that does not get to the records reports an error. -/
theorem leftReaddirplus_unscanned (env : Env) (res : Mem) (named : args.dir ≠ [])
    (unscanned : ∀ st, ¬args.Scans k fs st) (resok : Readdirplus3resok) :
    leftReaddirplus k env fs args res ≠ .ok resok := by
  rw [leftReaddirplus]
  cases found : k.lstat fs (cstr args.dir) with
  | error errno =>
    rw [nfs3Readdirplus_missing named found]
    exact loadReaddirplus3res_error errno.status_ne_ok _ _
  | ok st =>
    by_cases isDir : st.type = .dir
    · obtain ⟨rc, status, error, serves⟩ :=
        nfs3Readdirplus_unscanned named found isDir env res (unscanned st)
      rw [serves]
      exact loadReaddirplus3res_error error _ _
    · rw [nfs3Readdirplus_other named found isDir]
      exact loadReaddirplus3res_error (by decide) _ _

/-- An object that is reached and cannot be examined leaves a success without entries. -/
theorem leftReaddirplus_unexamined {dirent : Dirent} (res : Mem) (named : args.dir ≠ [])
    (scans : args.Scans k fs st) (within : dirent ∈ args.reached k env fs)
    (cannot : examinable k fs (cstr args.dir) dirent = false) :
    leftReaddirplus k env fs args res
      = .ok ⟨.present (st.fattr3 (loadSpec res 14)), res.getU64 26, ⟨[], 0⟩⟩ := by
  have kept : examinedInPlace st (listingCleared res)
      = putStatus (examinedInPlace st (listingCleared res)) .nfs3Ok := by
    simp [examinedInPlace, putStatus, Mem.put]
  rw [leftReaddirplus, nfs3Readdirplus_scans env res named scans,
    readBuffers_unexamined env within cannot, PageResult.done, kept]
  exact loadReaddirplus3res_unlisted _ st res

/-- Otherwise everything that is reached is listed, or an error is reported. -/
theorem leftReaddirplus_examined (res : Mem) (named : args.dir ≠ []) (scans : args.Scans k fs st)
    (can : ∀ dirent ∈ args.reached k env fs, examinable k fs (cstr args.dir) dirent = true) :
    if failsToRead (args.limits env) 0 (args.buffers k fs) then
      ∀ resok, leftReaddirplus k env fs args res ≠ .ok resok
    else ∃ nodes eof, List.Forall₂ (EntryplusNode.Made k env fs (cstr args.dir)) nodes
        (args.reached k env fs) ∧ (eof = false → nodes ≠ []) ∧
      leftReaddirplus k env fs args res = .ok ⟨.present (st.fattr3 (loadSpec res 14)),
        st.cookieverf, ⟨nodes.map (·.entry), if eof then 1 else 0⟩⟩ := by
  have can : ∀ dirent ∈ Dnfs.reached (args.limits env) ([] : List EntryplusNode).length
      (args.buffers k fs), examinable k fs (cstr args.dir) dirent = true := can
  have reads := readBuffers_examined env can
  simp only [leftReaddirplus, nfs3Readdirplus_scans env res named scans]
  -- Either a read failed, or all that was reached is listed.
  split at reads
  · next fails =>
    have fails : failsToRead (args.limits env) 0 (args.buffers k fs) = true := fails
    rw [if_pos fails, reads]
    exact loadReaddirplus3res_error (by decide) _
  · next succeeds =>
    have succeeds : ¬failsToRead (args.limits env) 0 (args.buffers k fs) = true := succeeds
    rw [if_neg succeeds]
    obtain ⟨nodes, eof, made, reads, some⟩ := reads
    refine ⟨nodes, eof, made, some, ?_⟩
    have located := located_of_lists (made.imp fun _ _ => EntryplusNode.Made.lists)
    rw [reads]
    exact loadReaddirplus3res_listed _ st located eof res

end Leaving

section Progress

/-- What a client needs of a page to get on: something to go on from, and nothing left out. -/
structure Progress (k : Kernel σ) (env : Env) (fs : σ) (args : Readdirplus3args)
    (resok : Readdirplus3resok) : Prop where
  /-- There is an entry whose position can be asked for next, or nothing more to ask for. -/
  moves : resok.reply.entries ≠ [] ∨ resok.reply.eof ≠ 0
  /-- The page starts with the records before the first whose object cannot be examined. -/
  keeps : (((returned (args.buffers k fs)).takeWhile
      (examinable k fs (cstr args.dir))).take (args.limits env).pageLength).map Dirent.seen
    <+: resok.reply.entries.map Entryplus3.seen

/-- Whatever READDIRPLUS reports as a success lets a client get on. -/
def Progresses (k : Kernel σ) (env : Env) (fs : σ) (args : Readdirplus3args) (res : Mem) : Prop :=
  ∀ resok, leftReaddirplus k env fs args res = .ok resok → Progress k env fs args resok

variable {k : Kernel σ} {env : Env} {fs : σ} {args : Readdirplus3args} {res : Mem} {st : Stat}

/-- A page without entries that does not reach the end lets no client get on. -/
theorem not_progress_of_empty (dirAttributes : PostOpAttr) (cookieverf : UInt64) :
    ¬Progress k env fs args ⟨dirAttributes, cookieverf, ⟨[], 0⟩⟩ := by
  intro progress
  rcases progress.moves with entries | eof
  · exact entries rfl
  · exact eof rfl

/-- A page with everything that is reached does. -/
theorem progress_of_made {nodes : List EntryplusNode} {eof : Bool} (dirAttributes : PostOpAttr)
    (cookieverf : UInt64)
    (made : List.Forall₂ (EntryplusNode.Made k env fs (cstr args.dir)) nodes
      (args.reached k env fs)) (some : eof = false → nodes ≠ []) :
    Progress k env fs args
      ⟨dirAttributes, cookieverf, ⟨nodes.map (·.entry), if eof then 1 else 0⟩⟩ where
  moves := by
    cases eof with
    | true => exact .inr (show (1 : UInt32) ≠ 0 by decide)
    | false => exact .inl (mt List.map_eq_nil_iff.mp (some rfl))
  keeps := by
    have room : (args.limits env).pageLength = (args.limits env).room 0 :=
      (Nat.max_eq_right (PageLimits.pageLength_pos _)).symm
    -- Records before some other are a first part of all, and so is what there is room for.
    rw [seen_of_lists (made.imp fun _ _ => EntryplusNode.Made.lists), room]
    refine List.IsPrefix.map _ (.trans ?_ (returned_reached 0 (args.buffers k fs)))
    refine List.IsPrefix.take ?_ _
    exact List.takeWhile_prefix _

/--
READDIRPLUS lets a client get on exactly when every object it gets to can be examined.

Without a handle it must not find a success in the result already.
-/
theorem readdirplus_progresses_iff (k : Kernel σ) (env : Env) (fs : σ) (args : Readdirplus3args)
    (res : Mem) :
    Progresses k env fs args res ↔
      (args.dir = [] → res 0 ≠ 0) ∧
      (args.dir ≠ [] → ∀ st, args.Scans k fs st → ∀ dirent ∈ args.reached k env fs,
        examinable k fs (cstr args.dir) dirent = true) := by
  by_cases named : args.dir = []
  · -- Then the status is what it was, and there are no entries.
    rw [Progresses, leftReaddirplus_unnamed named, loadStatus]
    constructor
    · intro progresses
      refine ⟨fun _ ok => ?_, fun other => absurd named other⟩
      exact not_progress_of_empty _ _ (progresses _ (dif_pos ok))
    · rintro ⟨nonzero, _⟩ resok left
      rw [dif_neg (nonzero named)] at left
      cases left
  · constructor
    · intro progresses
      refine ⟨fun unnamed => absurd unnamed named, fun _ st scans dirent within => ?_⟩
      cases can : examinable k fs (cstr args.dir) dirent with
      | true => rfl
      | false =>
        have left := leftReaddirplus_unexamined res named scans within can
        exact absurd (progresses _ left) (not_progress_of_empty _ _)
    · rintro ⟨_, can⟩ resok left
      by_cases scans : ∃ st, args.Scans k fs st
      · obtain ⟨st, scans⟩ := scans
        have lists := leftReaddirplus_examined res named scans (can named st scans)
        split at lists
        · exact absurd left (lists resok)
        · obtain ⟨nodes, eof, made, some, listed⟩ := lists
          obtain rfl := StatusUnion.ok.inj (listed.symm.trans left)
          exact progress_of_made _ _ made some
      · exact absurd left (leftReaddirplus_unscanned env res named (not_exists.mp scans) resok)

/-- A directory with itself, its parent and a name whose object has just been removed. -/
def MemFs.demoVanished : MemFs :=
  { demoTree [] with dirents := [demoSelf, demoParent, ⟨3, 3, [0x67], by decide⟩] }

/-- The client is told of a success, with neither the entries before that name nor the end. -/
theorem readdirplus_stalls :
    ¬Progresses memKernel default MemFs.demoVanished ⟨MemFs.demoDir, 0, 0, 0x100, 0x10000⟩
        Mem.zero ∧
      (Proc.ask memKernel default (.load MemFs.demoVanished) .readdirplus
        ⟨MemFs.demoDir, 0, 0, 0x100, 0x10000⟩ Mem.zero).map (fun reply =>
          (reply.1.status, (reply.1.resokD default).reply)) = some (0, ⟨[], 0⟩) := by
  constructor
  · intro progresses
    have scans : Readdirplus3args.Scans memKernel MemFs.demoVanished
        ⟨MemFs.demoDir, 0, 0, 0x100, 0x10000⟩ (.plain .dir 1) := ⟨rfl, rfl, .inl rfl, rfl, rfl⟩
    have within : ⟨3, 3, [0x67], by decide⟩ ∈ Readdirplus3args.reached memKernel default
        MemFs.demoVanished ⟨MemFs.demoDir, 0, 0, 0x100, 0x10000⟩ := by decide
    have left := leftReaddirplus_unexamined Mem.zero (by decide) scans within (by decide)
    exact not_progress_of_empty _ _ (progresses _ left)
  · decide

end Progress

end Dnfs
