import Dnfs.Nfs.ExamineLaws
import Dnfs.Nfs.Listing
import Dnfs.Nfs.RoundTrip
import Mathlib.Data.List.Forall2

/-! What the procedures that list directories leave behind, seen from the records alone. -/

namespace Dnfs

variable {σ : Type} {k : Kernel σ} {env : Env} {fs : σ}

section Records

variable {dirent : Dirent}

/-- A call that succeeded gave something. -/
theorem succeeded_iff {α : Type} {outcome : Except Errno α} :
    succeeded outcome = true ↔ ∃ given, outcome = .ok given := by
  cases outcome with
  | error errno | ok given => simp [succeeded]

/-- A record gets its node unless its object has to be examined and cannot be. -/
def examinable (k : Kernel σ) (fs : σ) (dirPath : Path) (dirent : Dirent) : Bool :=
  isDot dirent.dName || succeeded (k.lstat fs (childPath dirPath dirent.dName))

/-- The handle listed for a record. -/
def listedHandle (dirPath : Path) (dirent : Dirent) : PostOpFh3 :=
  if isDot dirent.dName then .absent else .present (childPath dirPath dirent.dName)

/-- A node says what its record says, and nothing in it is stale. -/
structure EntryplusNode.Lists (dirPath : Path) (node : EntryplusNode) (dirent : Dirent) : Prop where
  located : node.node ≠ 0
  fileid : node.entry.fileid = dirent.dIno
  name : node.entry.name = dirent.dName
  cookie : node.entry.cookie = dirent.dOff
  attributes : node.entry.nameAttributes.Wf fun _ => True
  handle : node.entry.nameHandle = listedHandle dirPath dirent

/-- A record whose object can be examined gets a node. -/
theorem entryplusNode_examinable {dirPath : Path} (env : Env) (i : Nat)
    (can : examinable k fs dirPath dirent = true) :
    ∃ node, entryplusNode k env fs dirPath i dirent = some node ∧ node.Lists dirPath dirent := by
  cases dot : isDot dirent.dName with
  | true =>
    simp only [entryplusNode, dot, if_true]
    exact ⟨_, rfl, env.address_ne_zero _, rfl, rfl, rfl, trivial, by simp [listedHandle, dot]⟩
  | false =>
    cases found : k.lstat fs (childPath dirPath dirent.dName) with
    | error errno => simp [examinable, dot, found, succeeded] at can
    | ok st =>
      simp only [entryplusNode, dot, Bool.false_eq_true, if_false, nfsSetPostOpAttr_ok found]
      refine ⟨_, rfl, env.address_ne_zero _, rfl, rfl, rfl, ?_, by simp [listedHandle, dot]⟩
      dsimp only
      rw [loadPostOpAttr_attrStored]
      trivial

/-- Any other record gets none. -/
theorem entryplusNode_unexaminable {dirPath : Path} (i : Nat)
    (cannot : examinable k fs dirPath dirent = false) :
    entryplusNode k env fs dirPath i dirent = none := by
  simp only [examinable, Bool.or_eq_false_iff] at cannot
  obtain ⟨dot, fails⟩ := cannot
  cases found : k.lstat fs (childPath dirPath dirent.dName) with
  | ok st => simp [found, succeeded] at fails
  | error errno =>
    simp only [entryplusNode, dot, nfsSetPostOpAttr_error found]
    cases errno <;> rfl

/-- Of two lists in pairs, every member of the second has its partner in the first. -/
theorem exists_partner {α β : Type} {related : α → β → Prop} {xs : List α} {ys : List β}
    (pairs : List.Forall₂ related xs ys) : ∀ y ∈ ys, ∃ x ∈ xs, related x y := by
  induction pairs with
  | nil => simp
  | cons first _ ih =>
    refine List.forall_mem_cons.mpr ⟨⟨_, List.mem_cons_self, first⟩, fun y mem => ?_⟩
    obtain ⟨x, within, partner⟩ := ih y mem
    exact ⟨x, List.mem_cons_of_mem _ within, partner⟩

section Listed

variable {dirPath : Path} {nodes : List EntryplusNode} {dirents : List Dirent}
  (lists : List.Forall₂ (EntryplusNode.Lists dirPath) nodes dirents)
include lists

/-- Every record of a listing has its node. -/
theorem exists_node_of_mem : ∀ dirent ∈ dirents, ∃ node ∈ nodes, node.Lists dirPath dirent :=
  exists_partner lists

/-- Every node of a listing has its record. -/
theorem exists_record_of_mem : ∀ node ∈ nodes, ∃ dirent ∈ dirents, node.Lists dirPath dirent :=
  exists_partner lists.flip

/-- So no node lies at the null pointer. -/
theorem located_of_lists : ∀ node ∈ nodes, node.node ≠ 0 := by
  intro node within
  obtain ⟨_, _, lists⟩ := exists_record_of_mem lists node within
  exact lists.located

end Listed

/-- A record whose handle, if it gets one, is within the bound of the protocol. -/
def Dirent.Fits (dirPath : Path) (dirent : Dirent) : Prop :=
  isDot dirent.dName = false → (childPath dirPath dirent.dName).length ≤ nfs3Fhsize

/-- The handle of a record that fits is well formed, and no other is. -/
theorem listedHandle_wf {dirPath : Path} :
    (listedHandle dirPath dirent).Wf NfsFh3.Wf ↔ dirent.Fits dirPath := by
  cases dot : isDot dirent.dName with
  | true => simp [listedHandle, Dirent.Fits, dot, BoolUnion.Wf]
  | false => simp [listedHandle, Dirent.Fits, dot, BoolUnion.Wf, NfsFh3.Wf]

/-- The node of a record that fits can be written. -/
theorem EntryplusNode.Lists.wf {dirPath : Path} {node : EntryplusNode}
    (lists : node.Lists dirPath dirent) (fits : dirent.Fits dirPath) : node.entry.Wf id := by
  refine ⟨?_, lists.attributes, ?_⟩
  · rw [lists.name]
    exact ⟨dirent.dName_wf.2, Nat.le_trans dirent.dName_wf.1 (by decide)⟩
  · rw [lists.handle]
    exact listedHandle_wf.mpr fits

end Records

section Taking

variable (examines : Dirent → Bool) (limits : PageLimits)

/-- The records taken off one buffer behind so many others, and whether the listing is full. -/
def takeBuffer : Nat → List Dirent → Option (List Dirent × Bool)
  | _, [] => some ([], false)
  | count, dirent :: rest =>
    if examines dirent = false then none
    else if limits.full (count + 1) then some ([dirent], dirent.dOff ≠ longMax)
    else (takeBuffer (count + 1) rest).map fun taken => (dirent :: taken.1, taken.2)

/-- The records taken off one buffer after another, and whether they reach the end. -/
def takeBuffers : Nat → List (Except Errno (List Dirent)) → Option (List Dirent × Bool)
  | _, [] => some ([], true)
  | _, .error _ :: _ => none
  | _, .ok [] :: _ => some ([], true)
  | count, .ok (dirent :: rest) :: buffers =>
    match takeBuffer examines limits count (dirent :: rest) with
    | none => none
    | some (taken, true) => some (taken, false)
    | some (taken, false) =>
      (takeBuffers (count + taken.length) buffers).map fun later =>
        (taken ++ later.1, later.2)

end Taking

section Reading

variable {dirPath : Path} {limits : PageLimits}
variable {nodes : List EntryplusNode}

/-- What one buffer comes to, for records taken off it that way. -/
theorem readBuffer_taken (env : Env) {dirents taken : List Dirent} {full : Bool}
    (takes : takeBuffer (examinable k fs dirPath) limits nodes.length dirents
      = some (taken, full)) :
    ∃ new, List.Forall₂ (EntryplusNode.Lists dirPath) new taken ∧
      readBuffer k env fs dirPath limits nodes dirents
        = if full then .page (nodes ++ new) else .more (nodes ++ new) := by
  -- The induction follows the records of the buffer, and the nodes grow by one each.
  induction dirents generalizing nodes taken with
  | nil =>
    obtain ⟨rfl, rfl⟩ : [] = taken ∧ false = full := by simpa [takeBuffer] using takes
    exact ⟨[], .nil, by simp [readBuffer]⟩
  | cons dirent rest ih =>
    cases can : examinable k fs dirPath dirent with
    | false => simp [takeBuffer, can] at takes
    | true =>
      obtain ⟨node, makes, lists⟩ := entryplusNode_examinable env nodes.length can
      cases filled : limits.full (nodes.length + 1) with
      | true =>
        obtain ⟨rfl, rfl⟩ : [dirent] = taken ∧ decide (dirent.dOff ≠ longMax) = full := by
          simpa [takeBuffer, can, filled] using takes
        refine ⟨[node], .cons lists .nil, ?_⟩
        simp only [readBuffer, makes, List.length_append, List.length_singleton, filled, if_true,
          lists.cookie]
        by_cases last : dirent.dOff = longMax <;> simp [last]
      | false =>
        simp only [takeBuffer, can, filled, Bool.true_eq_false, if_false, Bool.false_eq_true,
          Option.map_eq_some_iff] at takes
        obtain ⟨⟨later, _⟩, takesLater, same⟩ := takes
        obtain ⟨rfl, rfl⟩ := Prod.mk.inj same
        have grown : (nodes ++ [node]).length = nodes.length + 1 := by simp
        rw [← grown] at takesLater
        obtain ⟨new, listsLater, reads⟩ := ih takesLater
        refine ⟨node :: new, .cons lists listsLater, ?_⟩
        simp only [readBuffer, makes, grown, filled, Bool.false_eq_true, if_false, reads]
        simp

/-- A buffer none of whose takings ends well has an object that cannot be examined. -/
theorem readBuffer_untaken (env : Env) {dirents : List Dirent}
    (untaken : takeBuffer (examinable k fs dirPath) limits nodes.length dirents = none) :
    readBuffer k env fs dirPath limits nodes dirents = .unexamined := by
  induction dirents generalizing nodes with
  | nil => simp [takeBuffer] at untaken
  | cons dirent rest ih =>
    cases can : examinable k fs dirPath dirent with
    | false => simp only [readBuffer, entryplusNode_unexaminable _ can]
    | true =>
      obtain ⟨node, makes, _⟩ := entryplusNode_examinable env nodes.length can
      cases filled : limits.full (nodes.length + 1) with
      | true => simp [takeBuffer, can, filled] at untaken
      | false =>
        have grown : (nodes ++ [node]).length = nodes.length + 1 := by simp
        simp only [takeBuffer, can, filled, Bool.true_eq_false, if_false, Bool.false_eq_true,
          Option.map_eq_none_iff] at untaken
        rw [← grown] at untaken
        simp only [readBuffer, makes, grown, filled, Bool.false_eq_true, if_false, ih untaken]

/-- What a directory comes to, for records taken off it that way. -/
theorem readBuffers_taken (env : Env) {buffers : List (Except Errno (List Dirent))}
    {taken : List Dirent} {eof : Bool}
    (takes : takeBuffers (examinable k fs dirPath) limits nodes.length buffers
      = some (taken, eof)) :
    ∃ new, List.Forall₂ (EntryplusNode.Lists dirPath) new taken ∧
      readBuffers k env fs dirPath limits nodes buffers = .listed (nodes ++ new) eof := by
  induction buffers generalizing nodes taken with
  | nil =>
    obtain ⟨rfl, rfl⟩ : [] = taken ∧ true = eof := by simpa [takeBuffers] using takes
    exact ⟨[], .nil, by simp [readBuffers]⟩
  | cons buffer buffers ih =>
    match buffer with
    | .error _ => simp [takeBuffers] at takes
    | .ok [] =>
      obtain ⟨rfl, rfl⟩ : [] = taken ∧ true = eof := by simpa [takeBuffers] using takes
      exact ⟨[], .nil, by simp [readBuffers]⟩
    | .ok (dirent :: rest) =>
      cases front : takeBuffer (examinable k fs dirPath) limits nodes.length (dirent :: rest) with
      | none => simp [takeBuffers, front] at takes
      | some result =>
        obtain ⟨first, full⟩ := result
        obtain ⟨new, lists, reads⟩ := readBuffer_taken env front
        -- A full page ends the listing, otherwise the next buffer is read.
        cases full with
        | true =>
          obtain ⟨rfl, rfl⟩ : first = taken ∧ false = eof := by
            simpa [takeBuffers, front] using takes
          exact ⟨new, lists, by simp [readBuffers, reads]⟩
        | false =>
          simp only [takeBuffers, front, Option.map_eq_some_iff] at takes
          obtain ⟨⟨later, _⟩, takesLater, same⟩ := takes
          obtain ⟨rfl, rfl⟩ := Prod.mk.inj same
          have grown : (nodes ++ new).length = nodes.length + first.length := by
            rw [List.length_append, lists.length_eq]
          rw [← grown] at takesLater
          obtain ⟨more, listsLater, readsLater⟩ := ih takesLater
          refine ⟨new ++ more, List.rel_append lists listsLater, ?_⟩
          simp [readBuffers, reads, readsLater]

/-- A directory whose records cannot be taken off it is not listed. -/
theorem readBuffers_untaken (env : Env) {buffers : List (Except Errno (List Dirent))}
    (untaken : takeBuffers (examinable k fs dirPath) limits nodes.length buffers = none) :
    readBuffers k env fs dirPath limits nodes buffers = .unexamined ∨
      readBuffers k env fs dirPath limits nodes buffers = .unreadable := by
  -- The first buffer that is not taken ends the reading.
  induction buffers generalizing nodes with
  | nil => simp [takeBuffers] at untaken
  | cons buffer buffers ih =>
    match buffer with
    | .error _ => exact .inr (by simp [readBuffers])
    | .ok [] => simp [takeBuffers] at untaken
    | .ok (dirent :: rest) =>
      cases front : takeBuffer (examinable k fs dirPath) limits nodes.length (dirent :: rest) with
      | none => exact .inl (by simp only [readBuffers, readBuffer_untaken env front])
      | some result =>
        obtain ⟨first, full⟩ := result
        obtain ⟨new, lists, reads⟩ := readBuffer_taken env front
        cases full with
        | true => simp [takeBuffers, front] at untaken
        | false =>
          simp only [takeBuffers, front, Option.map_eq_none_iff] at untaken
          have grown : (nodes ++ new).length = nodes.length + first.length := by
            rw [List.length_append, lists.length_eq]
          rw [← grown] at untaken
          simpa [readBuffers, reads] using ih untaken

end Reading

section Readdirplus

/-- The verifier of a directory is its change time. -/
def Stat.cookieverf (st : Stat) : UInt64 := timespecToNsecs (st.fattr3 default).ctime

/-- The records a call lists and whether they reach the end, unless it lists nothing at all. -/
def Readdirplus3args.listing (k : Kernel σ) (env : Env) (fs : σ) (args : Readdirplus3args)
    (st : Stat) : Option (List Dirent × Bool) :=
  if args.cookie ≠ 0 ∧ st.cookieverf ≠ args.cookieverf then none
  else
    match k.openDirectory fs (cstr args.dir),
      k.lseek fs (cstr args.dir) (seekPosition args.cookie) with
    | .ok _, .ok _ =>
      takeBuffers (examinable k fs (cstr args.dir)) (args.limits env) 0
        (k.getdents fs (cstr args.dir) (seekPosition args.cookie))
    | _, _ => none

/-- What is stored before anything is looked at. -/
def listingCleared (res : Mem) : Mem := (res.putU64 28 0).put 30 0

variable {args : Readdirplus3args} {res : Mem} {st : Stat}

/-- READDIRPLUS refuses an empty handle. -/
theorem nfs3Readdirplus_unnamed (unnamed : args.dir = []) :
    nfs3Readdirplus k env fs args res = .refuse fs .nfsReqError (listingCleared res) := by
  simp only [nfs3Readdirplus, examineHandle_unnamed _ unnamed, listingCleared]

/-- It refuses what can not be examined. -/
theorem nfs3Readdirplus_missing {errno : Errno} (named : args.dir ≠ [])
    (missing : k.lstat fs (cstr args.dir) = .error errno) :
    nfs3Readdirplus k env fs args res
      = .refuse fs .nfsReqError (putStatus ((listingCleared res).put 2 0) errno.status) := by
  simp only [nfs3Readdirplus, examineHandle_missing _ named missing, listingCleared]

/-- It refuses what is no directory. -/
theorem nfs3Readdirplus_other (named : args.dir ≠ [])
    (found : k.lstat fs (cstr args.dir) = .ok st) (other : st.type ≠ .dir) :
    nfs3Readdirplus k env fs args res
      = .refuse fs .nfsReqOk
        (putStatus (examinedInPlace st (listingCleared res)) .nfs3errNotdir) := by
  have notDir : st.type.ftype3.code ≠ Ftype3.nf3dir.code := mt FileType.code_eq_dir.mp other
  simp only [nfs3Readdirplus, examineHandle_found _ named found, listingCleared,
    examinedInPlace_type, notDir, ne_eq, not_false_eq_true, if_true]

/-- The verifier is computed from what was just stored. -/
theorem cookieverf_eq (st : Stat) (res : Mem) :
    timespecToNsecs (loadTime (examinedInPlace st res) 24) = st.cookieverf := by
  have ctime := congrArg Fattr3.ctime (loadFattr3_examinedInPlace st res)
  simp only [loadFattr3] at ctime
  rw [ctime, Stat.cookieverf]
  simp only [Stat.fattr3]

/-- Where the listing of some nodes starts. -/
def firstNode : List EntryplusNode → UInt64
  | [] => 0
  | first :: _ => first.node

/-- What a result holds once a directory was listed. -/
def listingStored (st : Stat) (nodes : List EntryplusNode) (eof : Bool) (res : Mem) : Mem :=
  let res := examinedInPlace st (listingCleared res)
  ((if eof then res.put 30 1 else res).putU64 28 (firstNode nodes)).putU64 26 st.cookieverf

/-- What a call needs to get to the records of its directory. -/
structure Readdirplus3args.Scans (k : Kernel σ) (fs : σ) (args : Readdirplus3args) (st : Stat) :
    Prop where
  found : k.lstat fs (cstr args.dir) = .ok st
  isDir : st.type = .dir
  verified : args.cookie = 0 ∨ st.cookieverf = args.cookieverf
  opened : succeeded (k.openDirectory fs (cstr args.dir)) = true
  sought : succeeded (k.lseek fs (cstr args.dir) (seekPosition args.cookie)) = true

/-- A position is trusted at the beginning, or with the verifier of its directory. -/
theorem not_stale_iff : ¬(args.cookie ≠ 0 ∧ st.cookieverf ≠ args.cookieverf) ↔
    args.cookie = 0 ∨ st.cookieverf = args.cookieverf := by
  rw [not_and_or, not_not, not_not]

/-- The buffers a call reads, each the outcome of one system call. -/
def Readdirplus3args.buffers (k : Kernel σ) (fs : σ) (args : Readdirplus3args) :
    List (Except Errno (List Dirent)) :=
  k.getdents fs (cstr args.dir) (seekPosition args.cookie)

/-- What a result comes to once the records were read. -/
def PageResult.done (st : Stat) (fs : σ) (res : Mem) : PageResult → Done σ
  | .unreadable => .refuse fs .nfsReqError
      (putStatus (examinedInPlace st (listingCleared res)) .nfs3errBadhandle)
  | .unexamined => .refuse fs .nfsReqError (examinedInPlace st (listingCleared res))
  | .listed nodes eof =>
    ⟨.nfsReqOk, .start fs, listingStored st nodes eof res, storedEntriesplus nodes⟩

/-- A call that gets to the records leaves what reading them comes to. -/
theorem nfs3Readdirplus_scans (env : Env) (res : Mem) (named : args.dir ≠ [])
    (scans : args.Scans k fs st) :
    nfs3Readdirplus k env fs args res
      = (readBuffers k env fs (cstr args.dir) (args.limits env) [] (args.buffers k fs)).done
        st fs res := by
  have start : (res.putU64 28 0).put 30 0 = listingCleared res := rfl
  have fresh := not_stale_iff.mpr scans.verified
  obtain ⟨_, opened⟩ := succeeded_iff.mp scans.opened
  obtain ⟨_, sought⟩ := succeeded_iff.mp scans.sought
  simp only [nfs3Readdirplus, start, examineHandle_found _ named scans.found, examinedInPlace_type,
    FileType.code_eq_dir.mpr scans.isDir, ne_eq, not_true_eq_false, if_false, cookieverf_eq,
    handlePath_eq, opened, sought, Readdirplus3args.buffers]
  rw [if_neg fresh]
  cases readBuffers k env fs (cstr args.dir) (args.limits env) []
      (k.getdents fs (cstr args.dir) (seekPosition args.cookie)) with
  | unreadable => rfl
  | unexamined => rfl
  | listed nodes eof => cases nodes <;> rfl

/-- The records a call lists are those it takes off its buffers, once it gets to them. -/
theorem Readdirplus3args.Scans.listing_eq (scans : args.Scans k fs st) (env : Env) :
    args.listing k env fs st
      = takeBuffers (examinable k fs (cstr args.dir)) (args.limits env) 0 (args.buffers k fs) := by
  have fresh := not_stale_iff.mpr scans.verified
  obtain ⟨_, opened⟩ := succeeded_iff.mp scans.opened
  obtain ⟨_, sought⟩ := succeeded_iff.mp scans.sought
  rw [Readdirplus3args.listing, if_neg fresh, opened, sought]
  rfl

/-- A call that lists anything got to the records. -/
theorem scans_of_listing {page : List Dirent × Bool}
    (found : k.lstat fs (cstr args.dir) = .ok st) (isDir : st.type = .dir)
    (listed : args.listing k env fs st = some page) : args.Scans k fs st := by
  rw [Readdirplus3args.listing] at listed
  -- Each check that fails leaves no listing.
  by_cases stale : args.cookie ≠ 0 ∧ st.cookieverf ≠ args.cookieverf
  · rw [if_pos stale] at listed
    cases listed
  · rw [if_neg stale] at listed
    cases opened : k.openDirectory fs (cstr args.dir) with
    | error errno =>
      rw [opened] at listed
      cases listed
    | ok _ =>
      cases sought : k.lseek fs (cstr args.dir) (seekPosition args.cookie) with
      | error errno =>
        rw [opened, sought] at listed
        cases listed
      | ok _ =>
        exact ⟨found, isDir, not_stale_iff.mp stale, succeeded_iff.mpr ⟨_, opened⟩,
          succeeded_iff.mpr ⟨_, sought⟩⟩

section Directory

variable (named : args.dir ≠ []) (found : k.lstat fs (cstr args.dir) = .ok st)
  (isDir : st.type = .dir)
include named found isDir

/-- A position with another verifier than that of its directory is refused. -/
theorem nfs3Readdirplus_stale (env : Env) (res : Mem)
    (stale : args.cookie ≠ 0 ∧ st.cookieverf ≠ args.cookieverf) :
    nfs3Readdirplus k env fs args res = .refuse fs .nfsReqOk
      (putStatus (examinedInPlace st (listingCleared res)) .nfs3errBadCookie) := by
  have start : (res.putU64 28 0).put 30 0 = listingCleared res := rfl
  simp only [nfs3Readdirplus, start, examineHandle_found _ named found, examinedInPlace_type,
    FileType.code_eq_dir.mpr isDir, ne_eq, not_true_eq_false, if_false, cookieverf_eq]
  exact if_pos stale

/-- A position that is trusted is still not got to if opening or seeking fails. -/
theorem nfs3Readdirplus_unopened (env : Env) (res : Mem)
    (fresh : ¬(args.cookie ≠ 0 ∧ st.cookieverf ≠ args.cookieverf))
    (unscanned : ¬args.Scans k fs st) :
    nfs3Readdirplus k env fs args res = .refuse fs .nfsReqError
      (putStatus (examinedInPlace st (listingCleared res)) .nfs3errBadhandle) := by
  have start : (res.putU64 28 0).put 30 0 = listingCleared res := rfl
  simp only [nfs3Readdirplus, start, examineHandle_found _ named found, examinedInPlace_type,
    FileType.code_eq_dir.mpr isDir, ne_eq, not_true_eq_false, if_false, cookieverf_eq,
    handlePath_eq]
  rw [if_neg fresh]
  cases opened : k.openDirectory fs (cstr args.dir) with
  | error errno => rfl
  | ok _ =>
    cases sought : k.lseek fs (cstr args.dir) (seekPosition args.cookie) with
    | error errno => rfl
    | ok _ =>
      exact absurd ⟨found, isDir, not_stale_iff.mp fresh, succeeded_iff.mpr ⟨_, opened⟩,
        succeeded_iff.mpr ⟨_, sought⟩⟩ unscanned

/-- A call on a directory whose records it does not get to reports an error. -/
theorem nfs3Readdirplus_unscanned (env : Env) (res : Mem) (unscanned : ¬args.Scans k fs st) :
    ∃ rc status, status ≠ .nfs3Ok ∧ nfs3Readdirplus k env fs args res
      = .refuse fs rc (putStatus (examinedInPlace st (listingCleared res)) status) := by
  by_cases stale : args.cookie ≠ 0 ∧ st.cookieverf ≠ args.cookieverf
  · exact ⟨_, _, by decide, nfs3Readdirplus_stale named found isDir env res stale⟩
  · -- Then either opening or seeking failed.
    exact ⟨_, .nfs3errBadhandle, by decide,
      nfs3Readdirplus_unopened named found isDir env res stale unscanned⟩

/-- A directory that is not listed has its attributes stored all the same. -/
theorem nfs3Readdirplus_unlisted (unlisted : args.listing k env fs st = none) :
    ∃ rc status, nfs3Readdirplus k env fs args res
      = .refuse fs rc (putStatus (examinedInPlace st (listingCleared res)) status) := by
  by_cases scans : args.Scans k fs st
  · rw [nfs3Readdirplus_scans env res named scans]
    rw [scans.listing_eq env] at unlisted
    -- The records were read, so one of them or one of the buffers stopped the call.
    have untaken : takeBuffers (examinable k fs (cstr args.dir)) (args.limits env)
        ([] : List EntryplusNode).length (args.buffers k fs) = none := unlisted
    rcases readBuffers_untaken env untaken with reads | reads
    · refine ⟨.nfsReqError, .nfs3Ok, ?_⟩
      rw [reads, PageResult.done]
      congr 1
      simp [examinedInPlace, putStatus, Mem.put]
    · exact ⟨_, _, by rw [reads]; rfl⟩
  · obtain ⟨rc, status, _, serves⟩ := nfs3Readdirplus_unscanned named found isDir env res scans
    exact ⟨rc, status, serves⟩

/-- A directory that is listed has its nodes stored, whatever the result held before. -/
theorem nfs3Readdirplus_listed {taken : List Dirent} {eof : Bool}
    (listed : args.listing k env fs st = some (taken, eof)) :
    ∃ nodes, List.Forall₂ (EntryplusNode.Lists (cstr args.dir)) nodes taken ∧
      ∀ res, nfs3Readdirplus k env fs args res
        = ⟨.nfsReqOk, .start fs, listingStored st nodes eof res, storedEntriesplus nodes⟩ := by
  have scans := scans_of_listing found isDir listed
  rw [scans.listing_eq env] at listed
  have takes : takeBuffers (examinable k fs (cstr args.dir)) (args.limits env)
      ([] : List EntryplusNode).length (args.buffers k fs) = some (taken, eof) := listed
  obtain ⟨nodes, lists, reads⟩ := readBuffers_taken env takes
  refine ⟨nodes, lists, fun res => ?_⟩
  rw [nfs3Readdirplus_scans env res named scans, reads]
  rfl

end Directory

/-- The stored nodes are found from the first one on. -/
theorem entriesplus_stored (heap : Heap) {nodes : List EntryplusNode}
    (located : ∀ node ∈ nodes, node.node ≠ 0) :
    (heap.over (storedEntriesplus nodes)).entriesplus (firstNode nodes) = nodes := by
  cases nodes with
  | nil => simp [Heap.entriesplus, firstNode]
  | cons first rest =>
    simp [Heap.entriesplus, firstNode, storedEntriesplus, located first List.mem_cons_self]

/-- A listed directory is read back as its records, behind attributes with stale device numbers. -/
theorem loadReaddirplus3res_listed (heap : Heap) (st : Stat) {nodes : List EntryplusNode}
    (located : ∀ node ∈ nodes, node.node ≠ 0) (eof : Bool) (res : Mem) :
    loadReaddirplus3res (heap.over (storedEntriesplus nodes)) (listingStored st nodes eof res)
      = .ok ⟨.present (st.fattr3 (loadSpec res 14)), st.cookieverf,
          ⟨nodes.map (·.entry), if eof then 1 else 0⟩⟩ := by
  have status : listingStored st nodes eof res 0 = 0 := by
    cases eof <;> simp [listingStored, examinedInPlace, putStatus]
  -- The fields lie apart, so each is what was stored last.
  have marked : listingStored st nodes eof res 30 = if eof then 1 else 0 := by
    have behind : (examinedInPlace st (listingCleared res)).Agree (listingCleared res) 26 8 :=
      examinedInPlace_agree st _ (Nat.le_refl 26)
    have cleared : examinedInPlace st (listingCleared res) 30 = 0 :=
      behind.word (by decide) (by decide)
    cases eof <;> simp [listingStored, cleared]
  have pointer : (listingStored st nodes eof res).getU64 28 = firstNode nodes := by
    simp [listingStored, Mem.getU64]
  have verifier : (listingStored st nodes eof res).getU64 26 = st.cookieverf := by
    simp [listingStored, Mem.getU64]
  have attributes : loadPostOpAttr (listingStored st nodes eof res) 2
      = .present (st.fattr3 (loadSpec res 14)) := by
    have before : (listingStored st nodes eof res).Agree
        (examinedInPlace st (listingCleared res)) 2 24 := by
      intro i low high
      have apart : i ≠ 26 ∧ i ≠ 27 ∧ i ≠ 28 ∧ i ≠ 29 ∧ i ≠ 30 := by omega
      cases eof <;> simp [listingStored, apart]
    have spec : loadSpec (listingCleared res) 14 = loadSpec res 14 := by
      simp [loadSpec, listingCleared]
    rw [loadPostOpAttr_congr before, loadPostOpAttr_examinedInPlace, spec]
  rw [loadReaddirplus3res, loadStatus, dif_pos status, loadReaddirplus3resok, attributes, verifier,
    pointer, entriesplus_stored heap located, marked]

end Readdirplus

end Dnfs
