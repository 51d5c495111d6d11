import Dnfs.Nfs.Accepts
import Dnfs.Nfs.Client
import Dnfs.Nfs.ListingLaws
import Dnfs.Os.MemFs

/-! Paging through a directory with READDIRPLUS, one call after another. -/

namespace Dnfs

variable {σ : Type}

section Pages

variable {behind dirents : List Dirent} {dirent : Dirent} {count length : Nat}

/-- How many records fill a listing. -/
def PageLimits.pageLength (limits : PageLimits) : Nat :=
  max 1 (min limits.maxEntryCount ((limits.memAvail.toNat + 3) / 8))

/-- A page has room for an entry. -/
theorem PageLimits.pageLength_pos (limits : PageLimits) : 0 < limits.pageLength :=
  Nat.lt_of_lt_of_le Nat.one_pos (Nat.le_max_left _ _)

/-- A listing that has grown to this length is full. -/
theorem PageLimits.full_succ (limits : PageLimits) (count : Nat) :
    limits.full (count + 1) = true ↔ limits.pageLength ≤ count + 1 := by
  simp only [PageLimits.full, PageLimits.pageLength, decide_eq_true_eq]
  omega

/-- The records of a directory, read until reading gives nothing. -/
def recordsOf : List (Except Errno (List Dirent)) → Option (List Dirent)
  | [] => some []
  | .error _ :: _ => none
  | .ok [] :: _ => some []
  | .ok (dirent :: rest) :: buffers => (recordsOf buffers).map ((dirent :: rest) ++ ·)

/-- Positions that go up and stay within the largest. -/
structure Increasing (dirents : List Dirent) : Prop where
  pairwise : dirents.Pairwise (·.dOff < ·.dOff)
  bounded : ∀ dirent ∈ dirents, dirent.dOff ≤ longMax

/-- What is left of increasing positions is increasing. -/
theorem Increasing.suffix (front : List Dirent) (increasing : Increasing (front ++ behind)) :
    Increasing behind where
  pairwise := (List.pairwise_append.mp increasing.pairwise).2.1
  bounded := fun dirent mem => increasing.bounded dirent (List.mem_append_right _ mem)

/-- Behind a record at the largest position there is nothing. -/
theorem Increasing.nothing_behind {front : List Dirent}
    (increasing : Increasing (front ++ dirent :: behind)) (last : dirent.dOff = longMax) :
    behind = [] := by
  refine List.eq_nil_iff_forall_not_mem.mpr fun other mem => ?_
  have above : dirent.dOff < other.dOff :=
    List.rel_of_pairwise_cons (List.pairwise_append.mp increasing.pairwise).2.1 mem
  have below : other.dOff ≤ longMax := increasing.bounded other (by simp [mem])
  rw [last] at above
  exact absurd below (UInt64.not_le.mpr above)

variable {examines : Dirent → Bool} {limits : PageLimits}

/-- A buffer that does not fill the listing is taken whole. -/
theorem takeBuffer_short (all : ∀ dirent ∈ dirents, examines dirent = true)
    (short : count + dirents.length < limits.pageLength) :
    takeBuffer examines limits count dirents = some (dirents, false) := by
  induction dirents generalizing count with
  | nil => rfl
  | cons dirent rest ih =>
    obtain ⟨can, canRest⟩ := List.forall_mem_cons.mp all
    simp only [List.length_cons] at short
    have open_ : limits.full (count + 1) = false := by
      rw [Bool.eq_false_iff, Ne, PageLimits.full_succ]
      omega
    have later : takeBuffer examines limits (count + 1) rest = some (rest, false) :=
      ih canRest (by omega)
    simp [takeBuffer, can, open_, later]

/-- A buffer that fills the listing is taken up to the record that does so. -/
theorem takeBuffer_full {front : List Dirent} (all : ∀ d ∈ front ++ [dirent], examines d = true)
    (fills : count + front.length + 1 = limits.pageLength) :
    takeBuffer examines limits count (front ++ dirent :: behind)
      = some (front ++ [dirent], decide (dirent.dOff ≠ longMax)) := by
  induction front generalizing count with
  | nil =>
    have can : examines dirent = true := all dirent (by simp)
    have filled : limits.full (count + 1) = true := by
      rw [PageLimits.full_succ]
      exact Nat.le_of_eq fills.symm
    simp [takeBuffer, can, filled]
  | cons first front ih =>
    obtain ⟨can, canRest⟩ := List.forall_mem_cons.mp all
    simp only [List.length_cons] at fills
    have open_ : limits.full (count + 1) = false := by
      rw [Bool.eq_false_iff, Ne, PageLimits.full_succ]
      omega
    have later : takeBuffer examines limits (count + 1) (front ++ dirent :: behind)
        = some (front ++ [dirent], decide (dirent.dOff ≠ longMax)) := ih canRest (by omega)
    simp [takeBuffer, can, open_, later]

/-- When nothing is left to read, nothing is taken. -/
theorem takeBuffers_nil {buffers : List (Except Errno (List Dirent))}
    (records : recordsOf buffers = some []) :
    takeBuffers examines limits count buffers = some ([], true) := by
  match buffers with
  | [] => rfl
  | .error _ :: _ => simp [recordsOf] at records
  | .ok [] :: _ => rfl
  | .ok (_ :: _) :: _ => simp [recordsOf] at records

/-- A record of a directory has some before it and some behind it. -/
theorem split_at {i : Nat} (at_ : dirents[i]? = some dirent) :
    ∃ front behind, dirents = front ++ dirent :: behind ∧ front.length = i := by
  obtain ⟨within, rfl⟩ := List.getElem?_eq_some_iff.mp at_
  refine ⟨dirents.take i, dirents.drop (i + 1), ?_, ?_⟩
  · rw [← List.drop_eq_getElem_cons within, List.take_append_drop]
  · rw [List.length_take]
    omega

/-- A page reaches the end when its records run out, or its last one is at the largest position. -/
def reachesEnd (length : Nat) (dirents : List Dirent) : Bool :=
  match dirents[length - 1]? with
  | none => true
  | some dirent => dirent.dOff = longMax

/-- Records in front of the last one of a page have no say in whether it reaches the end. -/
theorem reachesEnd_append {taken : List Dirent} (later : List Dirent)
    (short : taken.length < length) :
    reachesEnd length (taken ++ later) = reachesEnd (length - taken.length) later := by
  have index : length - 1 - taken.length = length - taken.length - 1 := by omega
  rw [reachesEnd, reachesEnd, List.getElem?_append_right (by omega), index]

/-- The last record of a page decides. -/
theorem reachesEnd_last (front behind : List Dirent) (dirent : Dirent) :
    reachesEnd (front.length + 1) (front ++ dirent :: behind)
      = decide (dirent.dOff = longMax) := by
  simp [reachesEnd]

/-- However the records are spread over buffers, a page of them is taken. -/
theorem takeBuffers_records {buffers : List (Except Errno (List Dirent))}
    (room : count < limits.pageLength) (records : recordsOf buffers = some dirents)
    (all : ∀ dirent ∈ dirents, examines dirent = true) (increasing : Increasing dirents) :
    takeBuffers examines limits count buffers
      = some (dirents.take (limits.pageLength - count),
          reachesEnd (limits.pageLength - count) dirents) := by
  induction buffers generalizing count dirents with
  | nil =>
    obtain rfl : [] = dirents := by simpa [recordsOf] using records
    simp [takeBuffers, reachesEnd]
  | cons buffer buffers ih =>
    rcases buffer with _ | _ | ⟨first, rest⟩
    · simp [recordsOf] at records
    · obtain rfl : [] = dirents := by simpa [recordsOf] using records
      simp [takeBuffers, reachesEnd]
    · simp only [recordsOf, Option.map_eq_some_iff] at records
      obtain ⟨later, recordsLater, rfl⟩ := records
      have canTaken : ∀ d ∈ first :: rest, examines d = true := fun d mem =>
        all d (List.mem_append_left _ mem)
      by_cases short : count + (first :: rest).length < limits.pageLength
      · -- The page goes on in the buffers behind this one.
        have takesLater := ih short recordsLater (fun d mem => all d (List.mem_append_right _ mem))
          (increasing.suffix _)
        have fits : (first :: rest).length < limits.pageLength - count := by omega
        rw [takeBuffers, takeBuffer_short canTaken short]
        dsimp only
        rw [takesLater, List.take_append, List.take_of_length_le (Nat.le_of_lt fits),
          reachesEnd_append later fits, Nat.sub_sub]
        rfl
      · -- The page ends in this buffer, at the record that fills it.
        have within : limits.pageLength - count - 1 < (first :: rest).length := by omega
        obtain ⟨front, behind, split, before⟩ := split_at (List.getElem?_eq_getElem within)
        generalize (first :: rest)[limits.pageLength - count - 1] = dirent at split
        have fills : count + front.length + 1 = limits.pageLength := by omega
        have length : limits.pageLength - count = front.length + 1 := by omega
        rw [split] at canTaken increasing
        have takes : takeBuffer examines limits count (front ++ dirent :: behind)
            = some (front ++ [dirent], decide (dirent.dOff ≠ longMax)) := by
          refine takeBuffer_full (fun d mem => canTaken d ?_) fills
          simp only [List.mem_append, List.mem_cons, List.not_mem_nil, or_false] at mem ⊢
          exact mem.imp_right .inl
        rw [takeBuffers, split, takes, length, List.append_assoc, List.cons_append,
          reachesEnd_last, List.take_length_add_append]
        by_cases last : dirent.dOff = longMax
        · -- A record at the largest position is the last one, so reading on finds nothing.
          rw [List.append_assoc, List.cons_append] at increasing
          obtain ⟨rfl, rfl⟩ := List.append_eq_nil_iff.mp (increasing.nothing_behind last)
          simp [last, takeBuffers_nil recordsLater]
        · simp [last]

/-- A page that reaches the end is all there is. -/
theorem take_of_reachesEnd (positive : 0 < length) (increasing : Increasing dirents)
    (ends : reachesEnd length dirents = true) : dirents.take length = dirents := by
  refine List.take_of_length_le ?_
  cases at_ : dirents[length - 1]? with
  | none =>
    have short := List.getElem?_eq_none_iff.mp at_
    omega
  | some dirent =>
    -- The last record of the page is at the largest position, so nothing lies behind it.
    have last : dirent.dOff = longMax := by simpa [reachesEnd, at_] using ends
    obtain ⟨front, behind, rfl, before⟩ := split_at at_
    rw [increasing.nothing_behind last, List.length_append, List.length_singleton]
    omega

/-- A page that does not reach the end is full, and its last record not at the largest position. -/
theorem split_of_not_reachesEnd (positive : 0 < length)
    (notEnds : reachesEnd length dirents = false) :
    ∃ front dirent behind, dirents = front ++ dirent :: behind ∧ length = front.length + 1 ∧
      dirent.dOff ≠ longMax := by
  cases at_ : dirents[length - 1]? with
  | none => simp [reachesEnd, at_] at notEnds
  | some dirent =>
    obtain ⟨front, behind, rest, before⟩ := split_at at_
    exact ⟨front, dirent, behind, rest, by omega, by simpa [reachesEnd, at_] using notEnds⟩

end Pages

section Client

/-- What surrounds the calls of a client, which may differ from call to call. -/
structure Calls where
  env : Nat → Env
  /-- What each result holds before it is written to. -/
  res : Nat → Mem
  /-- The configuration is read once. -/
  configured : ∀ n, (env n).readdirResSize = (env 0).readdirResSize ∧
    (env n).readdirMaxCount = (env 0).readdirMaxCount

/-- The next call goes on behind the last entry received, with the verifier received. -/
def Readdirplus3args.next (args : Readdirplus3args) (resok : Readdirplus3resok) :
    Readdirplus3args :=
  { args with
    cookie := (resok.reply.entries.getLast?.map (·.cookie)).getD args.cookie
    cookieverf := resok.cookieverf }

/-- All entries a client receives until it is told of the end, within so many calls. -/
def enumerate (k : Kernel σ) (calls : Calls) :
    (fuel n : Nat) → Server σ → Readdirplus3args → Option (List Entryplus3)
  | 0, _, _, _ => none
  | fuel + 1, n, server, args =>
    match Proc.ask k (calls.env n) server .readdirplus args (calls.res n) with
    | some (.ok resok, server) =>
      if resok.reply.eof ≠ 0 then some resok.reply.entries
      else (enumerate k calls fuel (n + 1) server (args.next resok)).map (resok.reply.entries ++ ·)
    | _ => none

/-- What identifies an entry to a client. -/
def Entryplus3.seen (entry : Entryplus3) : UInt64 × Bytes × UInt64 :=
  (entry.fileid, entry.name, entry.cookie)

/-- The same of the record behind it. -/
def Dirent.seen (dirent : Dirent) : UInt64 × Bytes × UInt64 :=
  (dirent.dIno, dirent.dName, dirent.dOff)

/-- The entries of a listing are seen as its records are. -/
theorem seen_of_lists {dirPath : Path} {nodes : List EntryplusNode} {dirents : List Dirent}
    (lists : List.Forall₂ (EntryplusNode.Lists dirPath) nodes dirents) :
    (nodes.map (·.entry)).map Entryplus3.seen = dirents.map Dirent.seen := by
  induction lists with
  | nil => rfl
  | cons first _ ih =>
    simp only [List.map_cons, ih, Entryplus3.seen, Dirent.seen, first.fileid, first.name,
      first.cookie]

variable {k : Kernel σ} {env : Env} {server : Server σ} {args : Readdirplus3args} {res : Mem}
  {st : Stat} {page : List Dirent} {eof : Bool}

/-- A page all of whose handles are in bound reaches the client. -/
theorem ask_readdirplus_fits (res : Mem) (named : args.dir ≠ [])
    (found : k.lstat server.fs (cstr args.dir) = .ok st) (isDir : st.type = .dir)
    (listed : args.listing k env server.fs st = some (page, eof))
    (fits : ∀ dirent ∈ page, dirent.Fits (cstr args.dir)) :
    ∃ resok, Proc.ask k env server .readdirplus args res = some (.ok resok, server) ∧
      resok.reply.entries.map Entryplus3.seen = page.map Dirent.seen ∧
      resok.reply.eof = (if eof then 1 else 0) ∧ resok.cookieverf = st.cookieverf := by
  obtain ⟨nodes, lists, serves⟩ := nfs3Readdirplus_listed named found isDir listed
  have load := loadReaddirplus3res_listed env.heap st (located_of_lists lists) eof res
  -- Nothing in the reply keeps it from being written and read back.
  have good : Proc.ResWf id .readdirplus
      (loadReaddirplus3res (env.heap.over (storedEntriesplus nodes))
        (listingStored st nodes eof res)) := by
    rw [load]
    refine ⟨trivial, ?_, ?_⟩
    · intro entry mem
      obtain ⟨node, within, rfl⟩ := List.mem_map.mp mem
      obtain ⟨dirent, mem, lists⟩ := exists_record_of_mem lists node within
      exact lists.wf (fits dirent mem)
    · cases eof <;> simp [BoolWf]
  refine ⟨⟨.present (st.fattr3 (loadSpec res 14)), st.cookieverf,
    ⟨nodes.map (·.entry), if eof then 1 else 0⟩⟩, ?_, seen_of_lists lists, rfl, rfl⟩
  have answers : Proc.serviceFunc k env server .readdirplus args res = some (server.done
      ⟨.nfsReqOk, .start server.fs, listingStored st nodes eof res, storedEntriesplus nodes⟩) := by
    simp only [Proc.serviceFunc, serves]
  exact Proc.ask_of_wf answers load (load ▸ good)

/-- A page with a handle out of bound does not. -/
theorem ask_readdirplus_unfit (named : args.dir ≠ [])
    (found : k.lstat server.fs (cstr args.dir) = .ok st) (isDir : st.type = .dir)
    (listed : args.listing k env server.fs st = some (page, eof)) {dirent : Dirent}
    (within : dirent ∈ page) (unfit : ¬dirent.Fits (cstr args.dir)) :
    Proc.ask k env server .readdirplus args res = none := by
  obtain ⟨nodes, lists, serves⟩ := nfs3Readdirplus_listed named found isDir listed
  have load := loadReaddirplus3res_listed env.heap st (located_of_lists lists) eof res
  have unwritten : Proc.readdirplus.reply env (server.done
      ⟨.nfsReqOk, .start server.fs, listingStored st nodes eof res, storedEntriesplus nodes⟩)
        = none := by
    refine (xdrReaddirplus3res_accepts _).encodeOf_eq_none ?_
    show ¬StatusUnion.Wf _ _ (loadReaddirplus3res (env.heap.over (storedEntriesplus nodes))
      (listingStored st nodes eof res))
    rw [load]
    intro good
    obtain ⟨node, mem, lists⟩ := exists_node_of_mem lists dirent within
    have handle := good node.entry (List.mem_map_of_mem mem)
    rw [lists.handle] at handle
    exact unfit (listedHandle_wf.mp handle)
  simp only [Proc.ask, Proc.serviceFunc, serves, Option.bind_some, unwritten,
    Option.bind_none]

end Client

section Directories

/-- A directory that nobody changes, whose records all have objects that can be examined. -/
structure Directory (k : Kernel σ) (fs : σ) where
  path : Path
  st : Stat
  entries : List Dirent
  found : k.lstat fs path = .ok st
  isDir : st.type = .dir
  positive : ∀ dirent ∈ entries, 0 < dirent.dOff
  increasing : Increasing entries
  opens : k.openDirectory fs path = .ok ()
  /-- The beginning and the position of every record can be moved to. -/
  seeks : ∀ position, (position = 0 ∨ ∃ dirent ∈ entries, dirent.dOff = position) →
    k.lseek fs path position = .ok ()
  /-- Reading from there gives the records behind that position, in some number of buffers. -/
  reads : ∀ position, (position = 0 ∨ ∃ dirent ∈ entries, dirent.dOff = position) →
    recordsOf (k.getdents fs path position) = some (entries.filter (position < ·.dOff))
  examines : ∀ dirent ∈ entries, examinable k fs path dirent = true

namespace Directory

variable {k : Kernel σ} {fs : σ} (dir : Directory k fs)

/-- The records behind a position. -/
def after (position : UInt64) : List Dirent := dir.entries.filter (position < ·.dOff)

/-- The first page ends at a position that the next call takes for the beginning. -/
def Stuck (limits : PageLimits) : Prop :=
  ∃ dirent, dir.entries[limits.pageLength - 1]? = some dirent ∧ dirent.dOff ≤ 2

/-- Every handle of the directory is in bound. -/
def Fits : Prop := ∀ dirent ∈ dir.entries, dirent.Fits dir.path

/-- The arguments of a call that goes on in this directory. -/
structure Asked (args : Readdirplus3args) : Prop where
  named : args.dir ≠ []
  path : cstr args.dir = dir.path
  accepted : args.cookie = 0 ∨ args.cookieverf = dir.st.cookieverf
  position : seekPosition args.cookie = 0 ∨
    ∃ dirent ∈ dir.entries, dirent.dOff = seekPosition args.cookie

/-- The entries after a position are those with a greater one. -/
theorem mem_after {position : UInt64} {dirent : Dirent} :
    dirent ∈ dir.after position ↔ dirent ∈ dir.entries ∧ position < dirent.dOff := by
  simp [after]

/-- All records lie behind the beginning. -/
theorem after_zero : dir.after 0 = dir.entries :=
  List.filter_eq_self.mpr fun dirent mem => decide_eq_true (dir.positive dirent mem)

/-- The records behind a position keep their order. -/
theorem after_increasing (position : UInt64) : Increasing (dir.after position) where
  pairwise := dir.increasing.pairwise.filter _
  bounded := fun dirent mem => dir.increasing.bounded dirent (dir.mem_after.mp mem).1

/-- Behind a record of some rest lies the rest of that rest. -/
theorem after_dirent {position : UInt64} {front behind : List Dirent} {dirent : Dirent}
    (rest : dir.after position = front ++ dirent :: behind) : dir.after dirent.dOff = behind := by
  have above : position < dirent.dOff := (dir.mem_after.mp (by simp [rest])).2
  -- Filtering twice is filtering by the later position.
  have twice : dir.after dirent.dOff
      = (dir.after position).filter (dirent.dOff < ·.dOff) := by
    rw [after, after, List.filter_filter]
    refine List.filter_congr fun other _ => ?_
    by_cases later : dirent.dOff < other.dOff
    · simp [later, UInt64.lt_trans above later]
    · simp [later]
  have increasing := dir.after_increasing position
  rw [rest] at increasing
  obtain ⟨_, behindUp, frontBelow⟩ := List.pairwise_append.mp increasing.pairwise
  rw [twice, rest, List.filter_append, List.filter_cons_of_neg (by simp),
    List.filter_eq_nil_iff.mpr, List.filter_eq_self.mpr, List.nil_append]
  · intro other within
    exact decide_eq_true (List.rel_of_pairwise_cons behindUp within)
  · intro other within
    have below : other.dOff < dirent.dOff := frontBelow other within dirent List.mem_cons_self
    simpa using UInt64.le_of_lt below

variable {dir} {args : Readdirplus3args}

/-- A call lists a page of the records behind its position. -/
theorem Asked.listing (asked : dir.Asked args) (env : Env) :
    args.listing k env fs dir.st
      = some ((dir.after (seekPosition args.cookie)).take (args.limits env).pageLength,
          reachesEnd (args.limits env).pageLength (dir.after (seekPosition args.cookie))) := by
  have accepted : ¬(args.cookie ≠ 0 ∧ dir.st.cookieverf ≠ args.cookieverf) := by
    rintro ⟨later, stale⟩
    exact asked.accepted.elim later fun same => stale same.symm
  rw [Readdirplus3args.listing, if_neg accepted, asked.path, dir.opens,
    dir.seeks _ asked.position]
  refine takeBuffers_records (PageLimits.pageLength_pos _) (dir.reads _ asked.position) ?_
    (dir.after_increasing _)
  exact fun dirent mem => dir.examines dirent (dir.mem_after.mp mem).1

end Directory

end Directories

section Runs

/-- How many records fill the pages of a client. -/
def Calls.pageLength (calls : Calls) (args : Readdirplus3args) : Nat :=
  (args.limits (calls.env 0)).pageLength

/-- So has every call. -/
theorem Calls.pageLength_pos (calls : Calls) (args : Readdirplus3args) :
    0 < calls.pageLength args :=
  PageLimits.pageLength_pos _

namespace Directory

variable {k : Kernel σ} {server : Server σ} {dir : Directory k server.fs} {calls : Calls}
  {n : Nat} {args : Readdirplus3args}

/-- The pages of a client are all of the same length. -/
theorem Asked.listing_calls (asked : dir.Asked args) (calls : Calls) (n : Nat) :
    args.listing k (calls.env n) server.fs dir.st
      = some ((dir.after (seekPosition args.cookie)).take (calls.pageLength args),
          reachesEnd (calls.pageLength args) (dir.after (seekPosition args.cookie))) := by
  have limits : args.limits (calls.env n) = args.limits (calls.env 0) := by
    obtain ⟨size, count⟩ := calls.configured n
    simp only [Readdirplus3args.limits, size, count]
  rw [asked.listing, limits, Calls.pageLength]

/-- A call whose page has a handle out of bound is never answered. -/
theorem Asked.enumerate_unfit (asked : dir.Asked args) {dirent : Dirent}
    (within : dirent ∈ (dir.after (seekPosition args.cookie)).take (calls.pageLength args))
    (unfit : ¬dirent.Fits dir.path) (fuel : Nat) :
    enumerate k calls fuel n server args = none := by
  cases fuel with
  | zero => rfl
  | succ fuel =>
    rw [← asked.path] at unfit
    rw [enumerate, ask_readdirplus_unfit asked.named (asked.path ▸ dir.found) dir.isDir
      (asked.listing_calls calls n) within unfit]

/-- A call whose page reaches the end is the last one. -/
theorem Asked.enumerate_last (asked : dir.Asked args)
    (fits : ∀ dirent ∈ dir.after (seekPosition args.cookie), dirent.Fits dir.path)
    (ends : reachesEnd (calls.pageLength args) (dir.after (seekPosition args.cookie)) = true)
    (fuel : Nat) :
    ∃ received, enumerate k calls (fuel + 1) n server args = some received ∧
      received.map Entryplus3.seen
        = (dir.after (seekPosition args.cookie)).map Dirent.seen := by
  have whole := take_of_reachesEnd (calls.pageLength_pos args) (dir.after_increasing _) ends
  have listing := asked.listing_calls calls n
  rw [ends, whole] at listing
  rw [← asked.path] at fits
  obtain ⟨resok, answers, seen, eof, _⟩ := ask_readdirplus_fits (calls.res n) asked.named
    (asked.path ▸ dir.found) dir.isDir listing fits
  refine ⟨resok.reply.entries, ?_, seen⟩
  simp [enumerate, answers, eof]

/-- A call whose page ends at some record is followed by one from there. -/
theorem Asked.enumerate_more (asked : dir.Asked args) (n : Nat) {front behind : List Dirent}
    {dirent : Dirent}
    (rest : dir.after (seekPosition args.cookie) = front ++ dirent :: behind)
    (length : calls.pageLength args = front.length + 1) (notLast : dirent.dOff ≠ longMax)
    (fits : ∀ d ∈ front ++ [dirent], d.Fits dir.path) :
    ∃ received next, dir.Asked next ∧ next.cookie = dirent.dOff ∧
      next.limits (calls.env 0) = args.limits (calls.env 0) ∧
      received.map Entryplus3.seen = (front ++ [dirent]).map Dirent.seen ∧
      ∀ fuel, enumerate k calls (fuel + 1) n server args
        = (enumerate k calls fuel (n + 1) server next).map (received ++ ·) := by
  have listing := asked.listing_calls calls n
  rw [length, rest, reachesEnd_last, List.take_length_add_append, List.take_succ_cons,
    List.take_zero] at listing
  rw [← asked.path] at fits
  obtain ⟨resok, answers, seen, eof, verifier⟩ := ask_readdirplus_fits (calls.res n)
    asked.named (asked.path ▸ dir.found) dir.isDir listing fits
  -- The last entry received is that of the last record of the page.
  have cookie : (args.next resok).cookie = dirent.dOff := by
    have last : (resok.reply.entries.map Entryplus3.seen).getLast? = some dirent.seen := by
      simp [seen]
    rw [List.getLast?_map] at last
    obtain ⟨entry, lastEntry, same⟩ := Option.map_eq_some_iff.mp last
    have position : entry.cookie = dirent.dOff := congrArg (·.2.2) same
    simp [Readdirplus3args.next, lastEntry, position]
  refine ⟨resok.reply.entries, args.next resok, ?_, cookie, rfl, seen, ?_⟩
  · refine ⟨asked.named, asked.path, .inr verifier, ?_⟩
    rw [cookie, seekPosition]
    by_cases later : dirent.dOff > 2
    · have within : dirent ∈ dir.after (seekPosition args.cookie) := by simp [rest]
      rw [if_pos later]
      exact .inr ⟨dirent, (dir.mem_after.mp within).1, rfl⟩
    · exact .inl (if_neg later)
  · intro fuel
    simp [enumerate, answers, eof, notLast]

/-- From some call on a client receives all records that are left, unless one does not fit. -/
structure Settled (dir : Directory k server.fs) (calls : Calls) (n : Nat)
    (args : Readdirplus3args) : Prop where
  receives : (∀ dirent ∈ dir.after (seekPosition args.cookie), dirent.Fits dir.path) →
    ∃ fuel received, enumerate k calls fuel n server args = some received ∧
      received.map Entryplus3.seen = (dir.after (seekPosition args.cookie)).map Dirent.seen
  starves : (∃ dirent ∈ dir.after (seekPosition args.cookie), ¬dirent.Fits dir.path) →
    ∀ fuel, enumerate k calls fuel n server args = none

/-- A page that does not fit settles the matter. -/
theorem Asked.settled_unfit (asked : dir.Asked args) {dirent : Dirent}
    (within : dirent ∈ (dir.after (seekPosition args.cookie)).take (calls.pageLength args))
    (unfit : ¬dirent.Fits dir.path) : dir.Settled calls n args where
  receives := fun fits => absurd (fits dirent (List.mem_of_mem_take within)) unfit
  starves := fun _ => asked.enumerate_unfit within unfit

/-- A page that reaches the end settles the matter. -/
theorem Asked.settled_last (asked : dir.Asked args)
    (ends : reachesEnd (calls.pageLength args) (dir.after (seekPosition args.cookie)) = true) :
    dir.Settled calls n args where
  receives := by
    intro fits
    obtain ⟨received, done, seen⟩ := asked.enumerate_last fits ends 0
    exact ⟨1, received, done, seen⟩
  starves := by
    rintro ⟨dirent, within, unfit⟩
    rw [← take_of_reachesEnd (calls.pageLength_pos args) (dir.after_increasing _) ends] at within
    exact asked.enumerate_unfit within unfit

/-- A page that fits leaves the matter to the calls after it. -/
theorem Settled.prepend {front behind : List Dirent} {next : Readdirplus3args}
    {received : List Entryplus3} (settled : dir.Settled calls (n + 1) next)
    (rest : dir.after (seekPosition args.cookie) = front ++ behind)
    (restNext : dir.after (seekPosition next.cookie) = behind)
    (fits : ∀ dirent ∈ front, dirent.Fits dir.path)
    (seen : received.map Entryplus3.seen = front.map Dirent.seen)
    (goesOn : ∀ fuel, enumerate k calls (fuel + 1) n server args
      = (enumerate k calls fuel (n + 1) server next).map (received ++ ·)) :
    dir.Settled calls n args where
  receives := by
    intro fitsAll
    obtain ⟨fuel, others, done, seenOthers⟩ := settled.receives fun dirent mem =>
      fitsAll dirent (by rw [rest]; exact List.mem_append_right _ (restNext ▸ mem))
    refine ⟨fuel + 1, received ++ others, ?_, ?_⟩
    · rw [goesOn, done, Option.map_some]
    · rw [List.map_append, seen, seenOthers, restNext, rest, List.map_append]
  starves := by
    rintro ⟨dirent, within, unfit⟩ fuel
    rw [rest] at within
    have inBehind : dirent ∈ behind :=
      (List.mem_append.mp within).resolve_left fun inFront => unfit (fits dirent inFront)
    cases fuel with
    | zero => rfl
    | succ fuel =>
      rw [goesOn, settled.starves ⟨dirent, restNext ▸ inBehind, unfit⟩ fuel, Option.map_none]

/-- A client whose first page does not end too early gets to the end. -/
theorem Asked.settled (asked : dir.Asked args)
    (unstuck : ∀ dirent, (dir.after (seekPosition args.cookie))[calls.pageLength args - 1]?
      = some dirent → 2 < dirent.dOff) : dir.Settled calls n args := by
  -- The induction is on how many records are left, which every page makes fewer.
  generalize size : (dir.after (seekPosition args.cookie)).length = count
  induction count using Nat.strongRecOn generalizing args n with
  | ind count ih =>
    cases ends : reachesEnd (calls.pageLength args) (dir.after (seekPosition args.cookie)) with
    | true => exact asked.settled_last ends
    | false =>
      obtain ⟨front, dirent, behind, rest, length, notLast⟩ :=
        split_of_not_reachesEnd (calls.pageLength_pos args) ends
      by_cases fits : ∀ d ∈ front ++ [dirent], d.Fits dir.path
      · obtain ⟨received, next, askedNext, cookie, _, seen, goesOn⟩ :=
          asked.enumerate_more n rest length notLast fits
        have later : 2 < dirent.dOff := unstuck dirent (by simp [rest, length])
        have position : seekPosition next.cookie = dirent.dOff := by
          rw [cookie]
          exact if_pos later
        have restNext : dir.after (seekPosition next.cookie) = behind := by
          rw [position, dir.after_dirent rest]
        -- All that lies behind this page lies beyond the positions that mean the beginning.
        have unstuckNext : ∀ other, (dir.after (seekPosition next.cookie))[
            calls.pageLength next - 1]? = some other → 2 < other.dOff := by
          intro other at_
          have within := List.mem_of_getElem? at_
          rw [position] at within
          exact UInt64.lt_trans later (dir.mem_after.mp within).2
        have fewer : (dir.after (seekPosition next.cookie)).length < count := by
          simp only [restNext, ← size, rest, List.length_append, List.length_cons]
          omega
        exact (ih _ fewer askedNext unstuckNext rfl).prepend (by simpa using rest) restNext fits
          seen goesOn
      · push Not at fits
        obtain ⟨bad, within, unfit⟩ := fits
        exact asked.settled_unfit (by rwa [rest, length, List.take_length_add_append]) unfit

/-- A client that is stuck gets the first page again and again. -/
theorem Asked.enumerate_stuck (asked : dir.Asked args) (beginning : seekPosition args.cookie = 0)
    (stuck : dir.Stuck (args.limits (calls.env 0))) (fuel : Nat) :
    enumerate k calls fuel n server args = none := by
  induction fuel generalizing args n with
  | zero => rfl
  | succ fuel ih =>
    obtain ⟨dirent, at_, low⟩ := stuck
    obtain ⟨front, behind, entries, before⟩ := split_at at_
    have rest : dir.after (seekPosition args.cookie) = front ++ dirent :: behind := by
      rw [beginning, dir.after_zero, entries]
    have length : calls.pageLength args = front.length + 1 := by
      have positive := calls.pageLength_pos args
      rw [Calls.pageLength] at positive ⊢
      omega
    by_cases fits : ∀ d ∈ front ++ [dirent], d.Fits dir.path
    · have notLast : dirent.dOff ≠ longMax := by
        intro last
        rw [last] at low
        exact absurd low (by decide)
      obtain ⟨received, next, askedNext, cookie, limits, _, goesOn⟩ :=
        asked.enumerate_more n rest length notLast fits
      -- The position reached is one of those that mean the beginning.
      have again : seekPosition next.cookie = 0 := by
        rw [cookie]
        exact if_neg (UInt64.not_lt.mpr low)
      rw [goesOn, ih askedNext again ⟨dirent, limits ▸ at_, low⟩, Option.map_none]
    · push Not at fits
      obtain ⟨bad, within, unfit⟩ := fits
      refine asked.enumerate_unfit ?_ unfit (fuel + 1)
      rwa [rest, length, List.take_length_add_append]

end Directory

/-- A client that starts at the beginning receives every record once and in order. -/
def Enumerates (k : Kernel σ) (calls : Calls) (server : Server σ) (args : Readdirplus3args)
    (dir : Directory k server.fs) : Prop :=
  ∃ fuel received, enumerate k calls fuel 0 server args = some received ∧
    received.map Entryplus3.seen = dir.entries.map Dirent.seen

end Runs

section Demo

/-- A directory in memory, where all positions can be moved to. -/
def MemFs.directory (fs : MemFs) (path : Path) (st : Stat) (found : fs.lstat path = .ok st)
    (isDir : st.type = .dir) (positive : ∀ dirent ∈ fs.dirents, 0 < dirent.dOff)
    (increasing : Increasing fs.dirents)
    (examines : ∀ dirent ∈ fs.dirents, examinable memKernel fs path dirent = true) :
    Directory memKernel fs where
  path
  st
  entries := fs.dirents
  found
  isDir
  positive
  increasing
  opens := rfl
  seeks := fun _ _ => rfl
  reads := by
    intro position _
    show recordsOf [.ok (fs.direntsFrom position)] = some (fs.direntsFrom position)
    cases fs.direntsFrom position with
    | nil => rfl
    | cons dirent rest => simp [recordsOf]
  examines

/-- A directory under its own name. -/
def MemFs.demoSelf : Dirent := ⟨1, 1, [0x2e], by decide⟩

/-- It is its own parent. -/
def MemFs.demoParent : Dirent := ⟨1, 2, [0x2e, 0x2e], by decide⟩

/-- A directory with itself, its parent and one file, at the positions one, two and three. -/
def MemFs.demoListing : MemFs :=
  { demoTree [] with dirents := [demoSelf, demoParent, ⟨2, 3, demoName, by decide⟩] }

/-- The directory of that file system. -/
def MemFs.demoDirectory : Directory memKernel (Server.load demoListing).fs :=
  demoListing.directory demoDir (.plain .dir 1) rfl rfl (by decide)
    ⟨by decide, by decide⟩ (by decide)

/-- Calls that all find the same. -/
def demoCalls : Calls := ⟨fun _ => default, fun _ => Mem.zero, fun _ => ⟨rfl, rfl⟩⟩

end Demo

section Enumeration

/--
READDIRPLUS enumerates a directory exactly when the first page does not end too early.

A page must not end at position one or two, and every handle has to be in bound.
-/
theorem readdirplus_enumerates_iff {k : Kernel σ} {server : Server σ}
    (dir : Directory k server.fs) (calls : Calls) (args : Readdirplus3args)
    (named : args.dir ≠ []) (path : cstr args.dir = dir.path) (beginning : args.cookie = 0) :
    Enumerates k calls server args dir ↔
      ¬dir.Stuck (args.limits (calls.env 0)) ∧ dir.Fits := by
  have position : seekPosition args.cookie = 0 := by
    rw [beginning]
    rfl
  have asked : dir.Asked args := ⟨named, path, .inl beginning, .inl position⟩
  have all : dir.after (seekPosition args.cookie) = dir.entries := by
    rw [position, dir.after_zero]
  -- Being stuck is the one way in which a client does not get to the end.
  have settled : ¬dir.Stuck (args.limits (calls.env 0)) → dir.Settled calls 0 args := by
    intro unstuck
    refine asked.settled fun dirent at_ => ?_
    rw [all] at at_
    exact UInt64.not_le.mp fun low => unstuck ⟨dirent, at_, low⟩
  constructor
  · rintro ⟨fuel, received, done, _⟩
    have unstuck : ¬dir.Stuck (args.limits (calls.env 0)) := by
      intro stuck
      rw [asked.enumerate_stuck position stuck fuel] at done
      cases done
    refine ⟨unstuck, fun dirent within => ?_⟩
    by_contra unfit
    rw [(settled unstuck).starves ⟨dirent, all.symm ▸ within, unfit⟩ fuel] at done
    cases done
  · rintro ⟨unstuck, fits⟩
    obtain ⟨fuel, received, done, seen⟩ := (settled unstuck).receives (all.symm ▸ fits)
    exact ⟨fuel, received, done, all ▸ seen⟩

/-- With room for three entries a page, all three are received. -/
theorem readdirplus_enumerates_three :
    Enumerates memKernel demoCalls (.load .demoListing) ⟨MemFs.demoDir, 0, 0, 3, 0x10000⟩
      MemFs.demoDirectory := by
  refine (readdirplus_enumerates_iff MemFs.demoDirectory demoCalls
    ⟨MemFs.demoDir, 0, 0, 3, 0x10000⟩ (by decide) (by decide) rfl).mpr ⟨?_, ?_⟩
  · rintro ⟨dirent, at_, low⟩
    -- The page ends at the third record.
    obtain rfl : ⟨2, 3, MemFs.demoName, by decide⟩ = dirent := Option.some.inj at_
    exact absurd low (by decide)
  · intro dirent within _
    have short : ∀ d ∈ MemFs.demoDirectory.entries,
        (childPath MemFs.demoDir d.dName).length ≤ nfs3Fhsize := by decide
    exact short dirent within

/-- With room for two, the client gets the first two again and again. -/
theorem readdirplus_repeats_two :
    ¬Enumerates memKernel demoCalls (.load .demoListing) ⟨MemFs.demoDir, 0, 0, 2, 0x10000⟩
      MemFs.demoDirectory := by
  rintro ⟨fuel, received, done, _⟩
  have stuck : MemFs.demoDirectory.Stuck
      (Readdirplus3args.limits (demoCalls.env 0) ⟨MemFs.demoDir, 0, 0, 2, 0x10000⟩) :=
    ⟨⟨1, 2, [0x2e, 0x2e], by decide⟩, by decide, by decide⟩
  have asked : MemFs.demoDirectory.Asked ⟨MemFs.demoDir, 0, 0, 2, 0x10000⟩ :=
    ⟨by decide, by decide, .inl rfl, .inl rfl⟩
  rw [asked.enumerate_stuck rfl stuck fuel] at done
  cases done

end Enumeration

end Dnfs
