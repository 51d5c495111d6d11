import Dnfs.Nfs.Progress
import Dnfs.Xdr.Sizes

/-! How long the listings of READDIRPLUS get, against what the client asked for. -/

namespace Dnfs

variable {σ : Type}

section Sizes

/-- Points in time take two units. -/
theorem xdrNfstime3_takes : Takes xdrNfstime3 fun _ => 8 := by
  intro x
  show TakesAt _ _ (4 + (4 + 0))
  exact .step (xdrUInt_takes _) (.step (xdrUInt_takes _) (.done rfl))

/-- Device numbers take two units. -/
theorem xdrSpecdata3_takes : Takes xdrSpecdata3 fun _ => 8 := by
  intro x
  show TakesAt _ _ (4 + (4 + 0))
  exact .step (xdrUInt_takes _) (.step (xdrUInt_takes _) (.done rfl))

/-- Attributes take twenty-one units, whatever they are. -/
theorem xdrFattr3_takes : Takes xdrFattr3 fun _ => 84 := by
  intro x
  show TakesAt _ _ (4 + (4 + (4 + (4 + (4 + (8 + (8 + (8 + (8 + (8 + (8 + (8 + (8 + 0)))))))))))))
  -- Five short fields come first, then the sizes, the numbers and the three times.
  refine .step (xdrUInt_takes _) (.step (xdrUInt_takes _) (.step (xdrUInt_takes _) ?_))
  refine .step (xdrUInt_takes _) (.step (xdrUInt_takes _) ?_)
  refine .step (xdrULonglong_takes _) (.step (xdrULonglong_takes _) ?_)
  refine .step (xdrSpecdata3_takes _) ?_
  refine .step (xdrULonglong_takes _) (.step (xdrULonglong_takes _) ?_)
  refine .step (xdrNfstime3_takes _) (.step (xdrNfstime3_takes _) ?_)
  exact .step (xdrNfstime3_takes _) (.done rfl)

/-- The bytes of attributes that may follow. -/
def attrSize : PostOpAttr → Nat := BoolUnion.size fun _ => 84

/-- The bytes of a handle that may follow. -/
def handleSize : PostOpFh3 → Nat := BoolUnion.size countedSize

/-- Attributes take their size. -/
theorem xdrPostOpAttr_takes : Takes xdrPostOpAttr attrSize := xdrBoolUnion_takes xdrFattr3_takes

/-- Handles take theirs. -/
theorem xdrPostOpFh3_takes : Takes xdrPostOpFh3 handleSize :=
  xdrBoolUnion_takes (xdrBytes_takes 64)

/-- The bytes of an entry. -/
def Entryplus3.size (entry : Entryplus3) : Nat :=
  8 + countedSize (cstr entry.name) + 8 + attrSize entry.nameAttributes +
    handleSize entry.nameHandle

/-- So do entries. -/
theorem xdrEntryplus3_takes : Takes xdrEntryplus3 Entryplus3.size := by
  intro x
  have total : 8 + (countedSize (cstr x.name) + (8 + (attrSize x.nameAttributes +
      (handleSize x.nameHandle + 0)))) = x.size := by
    rw [Entryplus3.size]
    omega
  rw [← total]
  refine .step (xdrULonglong_takes _) (.step (xdrString_takes _ _) ?_)
  refine .step (xdrULonglong_takes _) (.step (xdrPostOpAttr_takes _) ?_)
  exact .step (xdrPostOpFh3_takes _) (.done rfl)

/-- The bytes of a listing: the attributes of the directory, its verifier, the entries, the end. -/
def Readdirplus3resok.size (resok : Readdirplus3resok) : Nat :=
  attrSize resok.dirAttributes + 8 + chainSize Entryplus3.size resok.reply.entries + 4

/-- And so does the whole listing. -/
theorem xdrReaddirplus3resok_takes : Takes xdrReaddirplus3resok Readdirplus3resok.size := by
  intro x
  have total : attrSize x.dirAttributes + (8 + ((chainSize Entryplus3.size x.reply.entries +
      (4 + 0)) + 0)) = x.size := by
    rw [Readdirplus3resok.size]
    omega
  have listing : TakesAt xdrDirlistplus3 x.reply
      (chainSize Entryplus3.size x.reply.entries + (4 + 0)) :=
    .step (xdrChain_takes xdrEntryplus3_takes _) (.step (xdrBool_takes _) (.done rfl))
  rw [← total]
  refine .step (xdrPostOpAttr_takes _) (.step (xdrOpaque8_takes _) ?_)
  exact .step listing (.done rfl)

end Sizes

section Records

variable {k : Kernel σ} {env : Env} {fs : σ} {dirPath : Path}

/-- The bytes of the entry of a record, with the boolean before it. -/
def Dirent.size (dirPath : Path) (dirent : Dirent) : Nat :=
  4 + 8 + countedSize dirent.dName + 8 +
    -- Neither attributes nor a handle follow for the directory itself and its parent.
    if isDot dirent.dName then 4 + 4
    else 4 + 84 + 4 + countedSize (childPath dirPath dirent.dName)

/-- An entry takes what its record says. -/
theorem EntryplusNode.Made.size {node : EntryplusNode} {dirent : Dirent}
    (made : node.Made k env fs dirPath dirent) : 4 + node.entry.size = dirent.size dirPath := by
  have lists := made.lists
  have name : cstr node.entry.name = dirent.dName := by
    rw [lists.name, cstr_eq_self dirent.dName_wf.2]
  obtain ⟨i, made⟩ := made
  rw [Entryplus3.size, Dirent.size, name, lists.handle, listedHandle]
  cases dot : isDot dirent.dName with
  | true =>
    simp only [entryplusNode, dot, if_true, Option.some.injEq] at made
    subst made
    simp only [if_true, attrSize, handleSize, BoolUnion.size]
    omega
  | false =>
    -- The object could be examined, so its attributes follow.
    cases found : k.lstat fs (childPath dirPath dirent.dName) with
    | error errno =>
      simp only [entryplusNode, dot, Bool.false_eq_true, if_false,
        nfsSetPostOpAttr_error found] at made
      cases errno <;> cases made
    | ok st =>
      simp only [entryplusNode, dot, Bool.false_eq_true, if_false, nfsSetPostOpAttr_ok found,
        Option.some.injEq] at made
      subst made
      simp only [Bool.false_eq_true, if_false, attrSize, handleSize, BoolUnion.size,
        loadPostOpAttr_attrStored]
      omega

/-- The entries of a listing take what its records say. -/
theorem chainSize_made {nodes : List EntryplusNode} {dirents : List Dirent}
    (made : List.Forall₂ (EntryplusNode.Made k env fs dirPath) nodes dirents) :
    chainSize Entryplus3.size (nodes.map (·.entry))
      = (dirents.map (Dirent.size dirPath)).sum + 4 := by
  have each : (nodes.map (·.entry)).map (fun entry => 4 + entry.size)
      = dirents.map (Dirent.size dirPath) := by
    induction made with
    | nil => rfl
    | cons first _ ih => simp only [List.map_cons, ih, first.size]
  rw [chainSize, each]

end Records

section Budget

variable {k : Kernel σ} {env : Env} {fs : σ} {args : Readdirplus3args} {res : Mem} {st : Stat}

/-- The size that a listing must not exceed, as the request and the configuration agree on it. -/
def Readdirplus3args.maxResSize (env : Env) (args : Readdirplus3args) : UInt32 :=
  min env.readdirResSize args.maxcount

/-- None of the subtractions by which the room for entries is computed wraps around. -/
structure Readdirplus3args.Unwrapped (env : Env) (args : Readdirplus3args) : Prop where
  firstUnit : 4 ≤ args.maxResSize env
  secondUnit : 4 ≤ args.maxResSize env - 4
  attributes : 88 ≤ (args.maxResSize env - 4 - 4).toUInt64
  verifier : 8 ≤ (args.maxResSize env - 4 - 4).toUInt64 - 88

/-- The room for entries is what is left of that size behind everything else. -/
theorem unwrapped_iff : args.Unwrapped env ↔ 104 ≤ (args.maxResSize env).toNat := by
  have first : 4 ≤ (args.maxResSize env).toNat →
      (args.maxResSize env - 4).toNat = (args.maxResSize env).toNat - 4 :=
    fun enough => UInt32.toNat_sub_of_le _ _ enough
  have second : 4 ≤ (args.maxResSize env - 4).toNat →
      (args.maxResSize env - 4 - 4).toUInt64.toNat = (args.maxResSize env - 4).toNat - 4 :=
    fun enough => UInt32.toNat_sub_of_le _ _ enough
  have third : 88 ≤ (args.maxResSize env - 4 - 4).toUInt64.toNat →
      ((args.maxResSize env - 4 - 4).toUInt64 - 88).toNat
        = (args.maxResSize env - 4 - 4).toUInt64.toNat - 88 :=
    fun enough => UInt64.toNat_sub_of_le _ _ enough
  -- Each subtraction is exact once the one before it is.
  constructor
  · rintro ⟨firstUnit, secondUnit, attributes, verifier⟩
    have firstUnit : 4 ≤ (args.maxResSize env).toNat := firstUnit
    have secondUnit : 4 ≤ (args.maxResSize env - 4).toNat := secondUnit
    have attributes : 88 ≤ (args.maxResSize env - 4 - 4).toUInt64.toNat := attributes
    have verifier : 8 ≤ ((args.maxResSize env - 4 - 4).toUInt64 - 88).toNat := verifier
    have first := first firstUnit
    have second := second secondUnit
    have third := third attributes
    omega
  · intro enough
    have first := first (by omega)
    have second := second (by omega)
    have third := third (by omega)
    refine ⟨?_, ?_, ?_, ?_⟩
    · show 4 ≤ (args.maxResSize env).toNat
      omega
    · show 4 ≤ (args.maxResSize env - 4).toNat
      omega
    · show 88 ≤ (args.maxResSize env - 4 - 4).toUInt64.toNat
      omega
    · show 8 ≤ ((args.maxResSize env - 4 - 4).toUInt64 - 88).toNat
      omega

/-- A call keeps to the size asked for, in what it leaves and in how it computes it. -/
structure KeepsToMaxcount (k : Kernel σ) (env : Env) (fs : σ) (args : Readdirplus3args)
    (res : Mem) : Prop where
  /-- A success that can be written takes no more than was asked for. -/
  within : ∀ resok bytes, leftReaddirplus k env fs args res = .ok resok →
    encodeOf xdrReaddirplus3resok resok = some bytes → bytes.length ≤ args.maxcount.toNat
  /-- Nothing wraps around, unless there is no handle and nothing is computed. -/
  unwrapped : args.dir ≠ [] → args.Unwrapped env

/-- A call that lists whatever it reaches, with all handles in bound. -/
structure Readdirplus3args.ListsAll (k : Kernel σ) (env : Env) (fs : σ) (args : Readdirplus3args)
    (st : Stat) : Prop where
  scans : args.Scans k fs st
  examines : ∀ dirent ∈ args.reached k env fs, examinable k fs (cstr args.dir) dirent = true
  reads : failsToRead (args.limits env) 0 (args.buffers k fs) = false
  fits : ∀ dirent ∈ args.reached k env fs, dirent.Fits (cstr args.dir)

/-- The bytes of a listing of some records. -/
def listingSize (dirPath : Path) (dirents : List Dirent) : Nat :=
  104 + (dirents.map (Dirent.size dirPath)).sum

/-- A call that lists whatever it reaches leaves a listing of that size. -/
theorem leftReaddirplus_size (res : Mem) (named : args.dir ≠ [])
    (lists : args.ListsAll k env fs st) :
    ∃ resok bytes, leftReaddirplus k env fs args res = .ok resok ∧
      encodeOf xdrReaddirplus3resok resok = some bytes ∧
      bytes.length = listingSize (cstr args.dir) (args.reached k env fs) := by
  have left := leftReaddirplus_examined res named lists.scans lists.examines
  rw [if_neg (by simp [lists.reads])] at left
  obtain ⟨nodes, eof, made, _, left⟩ := left
  -- Names of records that fit make entries that can be written.
  have good : ∀ entry ∈ nodes.map (·.entry), entry.Wf id := by
    intro entry mem
    obtain ⟨node, within, rfl⟩ := List.mem_map.mp mem
    obtain ⟨dirent, mem, lists'⟩ := exists_record_of_mem
      (made.imp fun _ _ => EntryplusNode.Made.lists) node within
    exact lists'.wf (lists.fits dirent mem)
  obtain ⟨bytes, carried⟩ := xdrReaddirplus3resok_lawful.carries
    ⟨.present (st.fattr3 (loadSpec res 14)), st.cookieverf,
      ⟨nodes.map (·.entry), if eof then 1 else 0⟩⟩
    ⟨trivial, good, by cases eof <;> simp [BoolWf]⟩
  refine ⟨_, bytes, left, carried.encodeOf, ?_⟩
  rw [(xdrReaddirplus3resok_takes _).encodeOf_length carried.encodeOf, Readdirplus3resok.size,
    chainSize_made made, listingSize]
  simp only [attrSize, BoolUnion.size]
  omega

/-- What is left and can be written is such a listing, or one without entries. -/
theorem bytes_of_left (named : args.dir ≠ []) {resok : Readdirplus3resok} {bytes : Bytes}
    (left : leftReaddirplus k env fs args res = .ok resok)
    (wrote : encodeOf xdrReaddirplus3resok resok = some bytes) :
    bytes.length = 104 ∨ ∃ st, args.ListsAll k env fs st ∧
      bytes.length = listingSize (cstr args.dir) (args.reached k env fs) := by
  by_cases scans : ∃ st, args.Scans k fs st
  · obtain ⟨st, scans⟩ := scans
    by_cases can : ∀ dirent ∈ args.reached k env fs,
        examinable k fs (cstr args.dir) dirent = true
    · have listed := leftReaddirplus_examined res named scans can
      split at listed
      · exact absurd left (listed resok)
      · next reads =>
        obtain ⟨nodes, eof, made, _, listed⟩ := listed
        -- Whatever could be written has all its handles in bound.
        have fits : ∀ dirent ∈ args.reached k env fs, dirent.Fits (cstr args.dir) := by
          intro dirent mem
          by_contra unfit
          obtain ⟨node, within, lists⟩ := exists_node_of_mem
            (made.imp fun _ _ => EntryplusNode.Made.lists) dirent mem
          have refused := (xdrReaddirplus3resok_accepts resok).encodeOf_eq_none fun good => by
            obtain rfl := StatusUnion.ok.inj (listed.symm.trans left)
            have handle := good.2 node.entry (List.mem_map_of_mem within)
            rw [lists.handle] at handle
            exact unfit (listedHandle_wf.mp handle)
          rw [refused] at wrote
          cases wrote
        have lists : args.ListsAll k env fs st := ⟨scans, can, by simpa using reads, fits⟩
        obtain ⟨other, more, leftToo, wroteToo, length⟩ := leftReaddirplus_size res named lists
        obtain rfl := StatusUnion.ok.inj (leftToo.symm.trans left)
        rw [wroteToo] at wrote
        cases wrote
        exact .inr ⟨st, lists, length⟩
    · obtain ⟨dirent, within, cannot⟩ := not_forall₂.mp can
      have empty := leftReaddirplus_unexamined res named scans within
        (Bool.eq_false_iff.mpr cannot)
      obtain rfl := StatusUnion.ok.inj (empty.symm.trans left)
      exact .inl ((xdrReaddirplus3resok_takes _).encodeOf_length wrote)
  · exact absurd left (leftReaddirplus_unscanned env res named (not_exists.mp scans) resok)

/-- Attributes that memory holds take their arm just when the discriminant says so. -/
theorem attrSize_load (m : Mem) (at_ : Nat) :
    attrSize (loadPostOpAttr m at_) = if m at_ = 1 then 88 else 4 := by
  by_cases zero : m at_ = 0
  · simp [loadPostOpAttr, loadUnion, zero, attrSize, BoolUnion.size]
  by_cases one : m at_ = 1
  · simp [loadPostOpAttr, loadUnion, one, attrSize, BoolUnion.size]
  · simp [loadPostOpAttr, loadUnion, zero, one, attrSize, BoolUnion.size]

/-- Without a handle the size depends on what the result held in place of its attributes. -/
theorem unnamed_within_iff (unnamed : args.dir = []) (maxcount : Nat) :
    (∀ resok bytes, leftReaddirplus k env fs args res = .ok resok →
        encodeOf xdrReaddirplus3resok resok = some bytes → bytes.length ≤ maxcount) ↔
      (res 0 = 0 → (res 2 = 0 → 20 ≤ maxcount) ∧ (res 2 = 1 → 104 ≤ maxcount)) := by
  rw [leftReaddirplus_unnamed unnamed, loadStatus]
  by_cases ok : res 0 = 0
  · rw [dif_pos ok]
    -- The listing can be written just when the attributes can be.
    have carries : AttrWf (loadPostOpAttr res 2) → ∃ bytes, encodeOf xdrReaddirplus3resok
        ⟨loadPostOpAttr res 2, res.getU64 26, ⟨[], 0⟩⟩ = some bytes ∧
        bytes.length = attrSize (loadPostOpAttr res 2) + 16 := by
      intro wf
      obtain ⟨bytes, carried⟩ := xdrReaddirplus3resok_lawful.carries
        ⟨loadPostOpAttr res 2, res.getU64 26, ⟨[], 0⟩⟩ ⟨wf, List.forall_mem_nil _, .inl rfl⟩
      exact ⟨bytes, carried.encodeOf,
        (xdrReaddirplus3resok_takes _).encodeOf_length carried.encodeOf⟩
    constructor
    · intro within _
      refine ⟨fun absent => ?_, fun present => ?_⟩
      · obtain ⟨bytes, wrote, length⟩ := carries (loadPostOpAttr_wf.mpr (.inl absent))
        have bound := within _ bytes rfl wrote
        simpa [length, attrSize_load, absent] using bound
      · obtain ⟨bytes, wrote, length⟩ := carries (loadPostOpAttr_wf.mpr (.inr present))
        have bound := within _ bytes rfl wrote
        simpa [length, attrSize_load, present] using bound
    · intro bounds resok bytes left wrote
      obtain rfl := StatusUnion.ok.inj left
      have length := (xdrReaddirplus3resok_takes _).encodeOf_length wrote
      have wf : AttrWf (loadPostOpAttr res 2) := by
        by_contra bad
        have refused := (xdrReaddirplus3resok_accepts
          ⟨loadPostOpAttr res 2, res.getU64 26, ⟨[], 0⟩⟩).encodeOf_eq_none fun good => bad good.1
        rw [refused] at wrote
        cases wrote
      rcases loadPostOpAttr_wf.mp wf with absent | present
      · have bound := (bounds ok).1 absent
        simpa [length, Readdirplus3resok.size, attrSize_load, absent, chainSize] using bound
      · have bound := (bounds ok).2 present
        simpa [length, Readdirplus3resok.size, attrSize_load, present, chainSize] using bound
  · rw [dif_neg ok]
    refine iff_of_true (fun _ _ left => ?_) fun zero => absurd zero ok
    cases left

/-- No listing may exceed what the client asked for. -/
theorem maxResSize_le : (args.maxResSize env).toNat ≤ args.maxcount.toNat := by
  show (if env.readdirResSize ≤ args.maxcount then env.readdirResSize else args.maxcount).toNat
    ≤ args.maxcount.toNat
  split
  · next below => exact below
  · exact Nat.le_refl _

/--
READDIRPLUS keeps to `maxcount` exactly when the records it reaches happen to take no more.

Each of them counts as much as a pointer meanwhile, and the least size computed without wrapping
is that of a listing without entries.
-/
theorem readdirplus_keepsToMaxcount_iff (k : Kernel σ) (env : Env) (fs : σ)
    (args : Readdirplus3args) (res : Mem) :
    KeepsToMaxcount k env fs args res ↔
      (args.dir = [] → res 0 = 0 →
        (res 2 = 0 → 20 ≤ args.maxcount.toNat) ∧ (res 2 = 1 → 104 ≤ args.maxcount.toNat)) ∧
      (args.dir ≠ [] → 104 ≤ (args.maxResSize env).toNat ∧ ∀ st, args.ListsAll k env fs st →
        listingSize (cstr args.dir) (args.reached k env fs) ≤ args.maxcount.toNat) := by
  -- Without a name the reply is what the memory held before.
  constructor
  · rintro ⟨within, unwrapped⟩
    refine ⟨fun unnamed => (unnamed_within_iff unnamed _).mp within, fun named => ?_⟩
    refine ⟨unwrapped_iff.mp (unwrapped named), fun st lists => ?_⟩
    obtain ⟨resok, bytes, left, wrote, length⟩ := leftReaddirplus_size res named lists
    exact length ▸ within resok bytes left wrote
  · rintro ⟨unnamedBound, namedBound⟩
    refine ⟨?_, fun named => unwrapped_iff.mpr (namedBound named).1⟩
    by_cases named : args.dir = []
    · exact (unnamed_within_iff named _).mpr (unnamedBound named)
    · intro resok bytes left wrote
      obtain ⟨enough, bound⟩ := namedBound named
      rcases bytes_of_left named left wrote with empty | ⟨st, lists, length⟩
      · rw [empty]
        exact Nat.le_trans enough maxResSize_le
      · rw [length]
        exact bound st lists

/-- Three entries take three hundred and four bytes where two hundred were asked for. -/
theorem readdirplus_exceeds_maxcount :
    ¬KeepsToMaxcount memKernel default MemFs.demoListing ⟨MemFs.demoDir, 0, 0, 0x100, 200⟩
        Mem.zero ∧
      listingSize MemFs.demoDir (Readdirplus3args.reached memKernel default MemFs.demoListing
        ⟨MemFs.demoDir, 0, 0, 0x100, 200⟩) = 304 ∧
      -- With nothing asked for at all, the room for entries is the largest there is.
      (Readdirplus3args.limits default ⟨MemFs.demoDir, 0, 0, 0x100, 0⟩).memAvail
        = 64 * 1024 * 1024 := by
  refine ⟨fun keeps => ?_, by decide, by decide⟩
  have lists : Readdirplus3args.ListsAll memKernel default MemFs.demoListing
      ⟨MemFs.demoDir, 0, 0, 0x100, 200⟩ (.plain .dir 1) :=
    ⟨⟨rfl, rfl, .inl rfl, rfl, rfl⟩, by decide, by decide, by unfold Dirent.Fits; decide⟩
  obtain ⟨resok, bytes, left, wrote, length⟩ := leftReaddirplus_size Mem.zero (by decide) lists
  have exceeds : 200 < bytes.length := by
    rw [length]
    decide
  exact absurd (keeps.within resok bytes left wrote) (Nat.not_le.mpr exceeds)

end Budget

end Dnfs
