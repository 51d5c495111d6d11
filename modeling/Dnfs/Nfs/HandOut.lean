import Dnfs.Mnt.Mnt
import Dnfs.Nfs.ListingLaws
import Dnfs.Nfs.NamespaceLaws
import Dnfs.Os.MemFs

/-! Handles on their way to a client and back: which are delivered, and what they mean then. -/

namespace Dnfs

variable {σ : Type} {k : Kernel σ} {env : Env} {fs : σ} {res : Mem}

section Handles

/-- A handle is read from its length and its pointer only. -/
theorem loadFh3_congr {a b : Mem} {at_ : Nat} (heap : Heap) (agree : a.Agree b at_ 4) :
    loadFh3 heap a at_ = loadFh3 heap b at_ := by
  rw [loadFh3, loadFh3, agree.word (Nat.le_refl at_) (by omega),
    agree.getU64 (by omega) (by omega)]

/-- A handle that was stored is found where it was stored. -/
theorem loadFh3_setFileHandle {filePath : Path} (heap : Heap) (res : Mem) (at_ : Nat)
    (counted : filePath.length < 2 ^ 32) :
    loadFh3 (heap.over [(env.address 0, .chars filePath)]) (setFileHandle env res at_ filePath) at_
      = filePath := by
  -- The pointer is stored behind the length, and the bytes where it points.
  have length : setFileHandle env res at_ filePath at_ = UInt32.ofNat filePath.length := by
    have before : at_ ≠ at_ + 2 + 1 := by omega
    simp [setFileHandle, before]
  have pointer : (setFileHandle env res at_ filePath).getU64 (at_ + 2) = env.address 0 := by
    simp [setFileHandle, Mem.getU64]
  rw [loadFh3, length, pointer, Heap.chars, Heap.over_head, runOf_whole counted]

/-- The path of a name within a directory holds no NUL. -/
theorem childPath_nul_free (dir name : Bytes) : 0 ∉ childPath (cstr dir) name := by
  have separator : (0 : UInt8) ≠ 0x2f := by decide
  simp only [childPath, List.mem_append, List.mem_cons, not_or]
  exact ⟨cstr_nul_free dir, separator, cstr_nul_free name⟩

/-- The path of a name that was read off the wire is short enough for its length to be stored. -/
theorem childPath_counted {args : Diropargs3} (wf : args.Wf cstr) : args.path.length < 2 ^ 32 := by
  obtain ⟨dir, _, name⟩ := wf
  have dirBound : args.dir.length ≤ 64 := dir
  have nameBound : (cstr args.name).length ≤ 8192 := name
  have whole := cstr_length_le args.dir
  simp only [childPath, List.length_append, List.length_cons]
  omega

/-- A handle that a client sends back in a GETATTR is read as this path. -/
def ComesBack (handle : NfsFh3) (path : Path) : Prop :=
  ∃ bytes sent, encodeOf xdrNfsFh3 handle = some bytes ∧
    decodeOf xdrNfsFh3 bytes = some (sent, []) ∧ ∀ around, handlePath around sent = path

/-- A path in bound comes back as itself. -/
theorem comesBack {path : Path} (nulFree : 0 ∉ path) (within : path.length ≤ nfs3Fhsize) :
    ComesBack path path := by
  obtain ⟨bytes, carried⟩ := xdrNfsFh3_lawful.carries path within
  refine ⟨bytes, path, carried.encodeOf, carried.decodeOf, fun around => ?_⟩
  rw [handlePath_eq, cstr_eq_self nulFree]

end Handles

section Asking

variable {ρ : Type} [Inhabited ρ] {proc : Xdrproc ρ} {load : Heap → Mem → ρ} {x : ρ}

/-- What a client reads off the reply to a request that is done, if there is one. -/
def Done.received (env : Env) (proc : Xdrproc ρ) (load : Heap → Mem → ρ) (done : Done σ) :
    Option ρ :=
  (encodeOf proc (load (env.heap.over done.stored) done.res)).bind fun bytes =>
  (decodeOf proc bytes).map (·.1)

variable {rc : NfsReqResult} {os : Os σ} {stored : List (UInt64 × Block)}

/-- A result that its routine carries is received as it is. -/
theorem Done.received_of_carried (loads : load (env.heap.over stored) res = x)
    (carried : Carried proc x) : Done.received env proc load ⟨rc, os, res, stored⟩ = some x := by
  obtain ⟨bytes, carried⟩ := carried
  simp only [Done.received, loads, carried.encodeOf, Option.bind_some, carried.decodeOf,
    Option.map_some]

/-- A result that its routine refuses is not received. -/
theorem Done.received_of_refused {fact : Prop} (loads : load (env.heap.over stored) res = x)
    (accepts : AcceptsAt proc x fact) (fails : ¬fact) :
    Done.received env proc load ⟨rc, os, res, stored⟩ = none := by
  simp only [Done.received, loads, accepts.encodeOf_eq_none fails, Option.bind_none]

/-- A handler that makes its status a success itself, whatever the result held before. -/
def MakesOk (handler : Mem → Done σ) : Prop :=
  ∀ res, (handler res).res 0 = Nfsstat3.nfs3Ok.code

/-- A refusal leaves the status that was stored last. -/
theorem refuse_status (rc : NfsReqResult) (res : Mem) (status : Nfsstat3) :
    (Done.refuse fs rc (putStatus res status)).res 0 = status.code := by
  simp only [Done.refuse, putStatus_zero]

/-- A handler that leaves the status alone does not. -/
theorem not_makesOk_of_untouched {handler : Mem → Done σ}
    (untouched : ∀ res, (handler res).res 0 = res 0) : ¬MakesOk handler := by
  intro makes
  -- An error that was there before would still be there.
  have stale := (untouched (Mem.zero.put 0 1)).symm.trans (makes (Mem.zero.put 0 1))
  simp only [Mem.put_apply, if_true] at stale
  exact absurd stale (by decide)

/-- Neither does one that stores an error. -/
theorem not_makesOk_of_error {handler : Mem → Done σ} (status : Nfsstat3)
    (error : status ≠ .nfs3Ok) (stores : (handler Mem.zero).res 0 = status.code) :
    ¬MakesOk handler := by
  intro makes
  have same : status.code = 0 := stores.symm.trans (makes Mem.zero)
  exact error (Nfsstat3.code_eq_zero.mp same)

end Asking

section Lookup

variable {args : Lookup3args}

/-- What LOOKUP finds whenever it reports success: the directory, and the object in it. -/
structure LooksUp (k : Kernel σ) (fs : σ) (args : Lookup3args) : Prop where
  named : args.dir ≠ []
  judged : judgeFileExit k fs (cstr args.dir) FileType.dir.bits = true
  there : judgeFileExit k fs args.path anyType = true

/-- LOOKUP reports success only of an object that is there. -/
theorem looksUp_of_makesOk (makes : MakesOk (nfs3Lookup k env fs args)) : LooksUp k fs args := by
  by_cases named : args.dir = []
  · refine absurd makes (not_makesOk_of_untouched fun res => ?_)
    rw [nfs3Lookup_unnamed res named]
    rfl
  -- Each check that fails leaves an error behind.
  cases judged : judgeFileExit k fs (cstr args.dir) FileType.dir.bits with
  | false =>
    refine absurd makes (not_makesOk_of_error .nfs3errNotdir (by decide) ?_)
    rw [nfs3Lookup_other _ named judged]
    exact refuse_status _ _ _
  | true =>
    cases there : judgeFileExit k fs args.path anyType with
    | true => exact ⟨named, judged, there⟩
    | false =>
      -- The attributes of the directory are stored behind the error.
      obtain ⟨dir, foundDir⟩ := judged_lstat judged
      refine absurd makes (not_makesOk_of_error .nfs3errNoent (by decide) ?_)
      rw [nfs3Lookup_missing _ named judged foundDir there]
      have behind : (attrStored dir (putStatus Mem.zero .nfs3errNoent) 2).Agree
          (putStatus Mem.zero .nfs3errNoent) 0 1 := attrStored_agree dir _ (.inr (by decide))
      have kept := behind.word (Nat.le_refl 0) (by decide)
      exact kept.trans (putStatus_zero _ _)

/-- Of such an object it always does. -/
theorem LooksUp.makesOk (finds : LooksUp k fs args) : MakesOk (nfs3Lookup k env fs args) := by
  intro res
  obtain ⟨dir, foundDir⟩ := judged_lstat finds.judged
  obtain ⟨st, found⟩ := judged_lstat finds.there
  simp only [nfs3Lookup_found res finds.named finds.judged foundDir finds.there found,
    putStatus_zero]

/-- What LOOKUP stores of a directory and an object in it. -/
def lookupStored (env : Env) (dir st : Stat) (filePath : Path) (res : Mem) : Mem :=
  putStatus (attrStored st (putStatus
    (attrStored dir (setFileHandle env res 2 filePath) 30) .nfs3Ok) 6) .nfs3Ok

/-- The handle lies in front of the attributes of the object, and those in front of the others. -/
theorem lookupStored_agree (env : Env) (dir st : Stat) (filePath : Path) (res : Mem) :
    (lookupStored env dir st filePath res).Agree (setFileHandle env res 2 filePath) 2 4 :=
  (putStatus_agree _ _ (by decide)).trans <| (attrStored_agree st _ (by decide)).trans <|
    (putStatus_agree _ _ (by decide)).trans (attrStored_agree dir _ (by decide))

/-- It is read back as the path and the attributes of both. -/
theorem loadLookup3res_lookupStored (env : Env) (dir st : Stat) {filePath : Path} (res : Mem)
    (counted : filePath.length < 2 ^ 32) :
    loadLookup3res (env.heap.over [(env.address 0, .chars filePath)])
        (lookupStored env dir st filePath res)
      = .ok ⟨filePath, .present (st.fattr3 (loadSpec res 18)),
        .present (dir.fattr3 (loadSpec res 42))⟩ := by
  let handled := setFileHandle env res 2 filePath
  let examined := putStatus (attrStored dir handled 30) .nfs3Ok
  have status : lookupStored env dir st filePath res 0 = 0 := putStatus_zero _ _
  have handle := lookupStored_agree env dir st filePath res
  have object : (lookupStored env dir st filePath res).Agree (attrStored st examined 6) 6 24 :=
    putStatus_agree _ _ (by decide)
  have directory : (lookupStored env dir st filePath res).Agree (attrStored dir handled 30) 30 24 :=
    (putStatus_agree _ _ (by decide)).trans <| (attrStored_agree st examined (by decide)).trans <|
      putStatus_agree _ _ (by decide)
  -- Neither handle nor attributes reach the device numbers of the others.
  have objSpec : loadSpec examined 18 = loadSpec res 18 := by
    have apart : examined.Agree handled 18 2 :=
      (putStatus_agree _ _ (by decide)).trans (attrStored_agree dir handled (by decide))
    rw [loadSpec_congr apart]
    simp [loadSpec, handled, setFileHandle]
  have dirSpec : loadSpec handled 42 = loadSpec res 42 := by
    simp [loadSpec, handled, setFileHandle]
  rw [loadLookup3res, loadStatus, dif_pos status, loadLookup3resok, loadFh3_congr _ handle,
    loadFh3_setFileHandle env.heap res 2 counted, loadPostOpAttr_congr object,
    loadPostOpAttr_attrStored, loadPostOpAttr_congr directory, loadPostOpAttr_attrStored, objSpec,
    dirSpec]

/-- The path of an object that was looked up comes back from the client. -/
def LookupDelivers (env : Env) (args : Lookup3args) (done : Done σ) : Prop :=
  ∃ resok, done.received env xdrLookup3res loadLookup3res = some (.ok resok) ∧
    ComesBack resok.object args.path

/-- A LOOKUP that reports success is delivered exactly with a path in bound. -/
theorem LooksUp.delivers_iff (finds : LooksUp k fs args) (res : Mem)
    (wf : Diropargs3.Wf cstr args) :
    LookupDelivers env args (nfs3Lookup k env fs args res) ↔ args.path.length ≤ nfs3Fhsize := by
  obtain ⟨dir, foundDir⟩ := judged_lstat finds.judged
  obtain ⟨st, found⟩ := judged_lstat finds.there
  have loads := loadLookup3res_lookupStored env dir st res (childPath_counted wf)
  have serves : nfs3Lookup k env fs args res = ⟨.nfsReqOk, .start fs,
      lookupStored env dir st args.path res,
      [(env.address 0, .chars args.path)]⟩ :=
    nfs3Lookup_found res finds.named finds.judged foundDir finds.there found
  rw [serves]
  constructor
  · -- A handle out of bound keeps the whole reply from being written.
    rintro ⟨resok, received, _⟩
    by_contra unfit
    rw [Done.received_of_refused loads (xdrLookup3res_accepts _) unfit] at received
    cases received
  · intro within
    refine ⟨_, Done.received_of_carried loads ?_, comesBack (childPath_nul_free _ _) within⟩
    exact Proc.lookup.res_lawful.carries _ ⟨within, trivial, trivial⟩

end Lookup

section Creation

variable {where_ : Diropargs3} {failure : Nfsstat3} {make : Path → Action (Os σ)}
  {os : Os σ}

/-- What a creating procedure does whenever it reports success. -/
structure Makes (k : Kernel σ) (fs : σ) (where_ : Diropargs3)
    (make : Path → Action (Os σ)) (os : Os σ) : Prop where
  names : NamesDir k fs where_.dir
  made : make where_.path (.start fs) = (.ok (), os)
  dirThere : examined k os.fs (cstr where_.dir) = .nfs3Ok

/-- A creating procedure reports success only of an object that was made. -/
theorem makes_of_makesOk (error : failure ≠ .nfs3Ok)
    (makes : MakesOk fun res => nfs3Creation k env fs where_ res failure make) :
    ∃ os, Makes k fs where_ make os := by
  by_cases named : where_.dir = []
  · refine absurd makes (not_makesOk_of_untouched fun res => ?_)
    rw [nfs3Creation_refused (checkDirHandle_unnamed res named)]
    rfl
  -- Each way to stop leaves an error behind, but for the last.
  cases judged : judgeFileExit k fs (cstr where_.dir) FileType.dir.bits with
  | false =>
    refine absurd makes (not_makesOk_of_error .nfs3errNotdir (by decide) ?_)
    rw [nfs3Creation_refused (checkDirHandle_other _ named judged)]
    exact refuse_status _ _ _
  | true =>
    have names : NamesDir k fs where_.dir := ⟨named, judged⟩
    rcases outcome : make where_.path (.start fs) with ⟨errno | made, os⟩
    · refine absurd makes (not_makesOk_of_error failure error ?_)
      rw [nfs3Creation_failed _ names outcome]
      exact outfail_status _ _ _ _
    · -- The status that is left is that of examining the directory once more.
      refine ⟨os, names, outcome, ?_⟩
      have status := makes Mem.zero
      simp only [nfs3Creation_made Mem.zero names outcome, creationAttributes_status] at status
      exact Nfsstat3.code_eq_zero.mp status

/-- Of such an object it always does. -/
theorem Makes.makesOk (makes : Makes k fs where_ make os) :
    MakesOk fun res => nfs3Creation k env fs where_ res failure make := by
  intro res
  simp only [nfs3Creation_made res makes.names makes.made, creationAttributes_status,
    makes.dirThere]

/-- What a result of a creating procedure holds before anything is examined. -/
def handleStored (env : Env) (filePath : Path) (res : Mem) : Mem :=
  (setFileHandle env (putStatus res .nfs3Ok) 4 filePath).put 2 1

/-- What is examined is stored behind the handle. -/
theorem creationAttributes_agree (dirPath filePath : Path) (preAttr res : Mem) :
    (creationAttributes k fs dirPath filePath preAttr res).2.Agree res 2 6 := by
  let described := (nfsSetPostOpAttr k fs filePath res 8).2
  have first : described.Agree res 2 6 := nfsSetPostOpAttr_agree filePath res (.inr (by decide))
  refine Mem.Agree.trans (putStatus_agree _ _ (by decide)) ?_
  refine Mem.Agree.trans (getWccData_agree dirPath preAttr _ (.inr (by decide))) ?_
  exact (putStatus_agree _ _ (by decide)).trans first

/-- What is stored after the attributes of the object lies behind them. -/
theorem creationAttributes_described (dirPath filePath : Path) (preAttr res : Mem) :
    (creationAttributes k fs dirPath filePath preAttr res).2.Agree
      (nfsSetPostOpAttr k fs filePath res 8).2 1 31 := by
  refine Mem.Agree.trans (putStatus_agree _ _ (by decide)) ?_
  refine Mem.Agree.trans (getWccData_agree dirPath preAttr _ (.inr (by decide))) ?_
  exact putStatus_agree _ _ (by decide)

/-- Whether attributes can be written is a matter of their discriminant. -/
theorem loadPostOpAttr_wf {m : Mem} {at_ : Nat} :
    AttrWf (loadPostOpAttr m at_) ↔ m at_ = 0 ∨ m at_ = 1 := by
  simp [loadPostOpAttr, loadUnion_wf]

/--
Whether the attributes of an object just made can be written.

They are stored if it can be examined, and otherwise whatever the result held there is found.
-/
def Describable (k : Kernel σ) (fs : σ) (filePath : Path) (res : Mem) : Prop :=
  succeeded (k.lstat fs filePath) = true ∨ res 8 = 0 ∨ res 8 = 1

/-- The attributes of an object just made can be written only as described. -/
theorem creationAttributes_object (dirPath filePath : Path) (preAttr res : Mem) :
    AttrWf (loadPostOpAttr (creationAttributes k fs dirPath filePath preAttr
      (handleStored env filePath res)).2 8) ↔ Describable k fs filePath res := by
  let handled := handleStored env filePath res
  let described := (nfsSetPostOpAttr k fs filePath handled 8).2
  have apart :
      (creationAttributes k fs dirPath filePath preAttr handled).2.Agree described 8 24 :=
    (creationAttributes_described _ _ _ _).part (by decide) (by decide)
  have untouched : handled 8 = res 8 := by
    simp [handled, handleStored, setFileHandle, putStatus]
  rw [loadPostOpAttr_congr apart, loadPostOpAttr_wf]
  -- If the object is not found, its attributes are left as they were.
  cases found : k.lstat fs filePath with
  | ok st =>
    have marked : described 8 = 1 := by simp [described, nfsSetPostOpAttr_ok found, attrStored]
    simp [marked, Describable, found, succeeded]
  | error errno =>
    have kept : described 8 = res 8 := by
      simp only [described, nfsSetPostOpAttr_error found, untouched]
    simp [kept, Describable, found, succeeded]

/-- The directory is shown as it was and as it is. -/
theorem creationAttributes_dirWcc {dirPath : Path} {after : Stat} (filePath : Path)
    (preAttr res : Mem) (found : k.lstat fs dirPath = .ok after) :
    loadWccData (creationAttributes k fs dirPath filePath preAttr res).2 32
      = ⟨loadPreOpAttr preAttr 0, .present (after.fattr3 ⟨0, 0⟩)⟩ := by
  simp only [creationAttributes, getWccData_ok found]
  rw [loadWccData_congr (putStatus_agree _ _ (by decide)), loadWccData_wccStored]

/-- What is kept of a directory that was there is marked. -/
theorem loadPreOpAttr_kept {path : Path} {st : Stat} (found : k.lstat fs path = .ok st) :
    loadPreOpAttr (kept k fs path) 0 = .present st.wccAttr := by
  rw [kept, getPreOpAttr_ok found, loadPreOpAttr_preStored]

/-- The attributes of a directory that was there before and is there now can be written. -/
theorem Makes.dirWcc (makes : Makes k fs where_ make os) (filePath : Path) (res : Mem) :
    (loadWccData (creationAttributes k os.fs (cstr where_.dir) filePath
      (kept k fs (cstr where_.dir)) res).2 32).Wf := by
  obtain ⟨before, foundBefore⟩ := judged_lstat makes.names.judged
  have there := examined_eq_ok.mp makes.dirThere
  cases foundAfter : k.lstat os.fs (cstr where_.dir) with
  | error errno => simp [foundAfter, succeeded] at there
  | ok after =>
    rw [creationAttributes_dirWcc _ _ _ foundAfter, loadPreOpAttr_kept foundBefore]
    exact ⟨trivial, trivial⟩

/-- The path of an object that was made comes back from the client. -/
def CreationDelivers (env : Env) (where_ : Diropargs3) (done : Done σ) : Prop :=
  ∃ resok handle, done.received env xdrCreation3res loadCreation3res = some (.ok resok) ∧
    resok.obj = .present handle ∧ ComesBack handle where_.path

/-- The result of a creation that reports success holds the handle of what was made. -/
theorem loadCreation3res_made {dirPath filePath : Path} (preAttr res : Mem)
    (dirThere : examined k fs dirPath = .nfs3Ok) (counted : filePath.length < 2 ^ 32) :
    let filled := (creationAttributes k fs dirPath filePath preAttr
      (handleStored env filePath res)).2
    loadCreation3res (env.heap.over [(env.address 0, .chars filePath)]) filled =
      .ok ⟨.present filePath, loadPostOpAttr filled 8, loadWccData filled 32⟩ := by
  intro filled
  have status : filled 0 = 0 := by
    simp only [filled, creationAttributes_status, dirThere]
    rfl
  -- Storing attributes leaves the words of the handle alone.
  have apart : filled.Agree (handleStored env filePath res) 2 6 := creationAttributes_agree _ _ _ _
  have follows : filled 2 = 1 := by
    rw [apart.word (by decide) (by decide)]
    simp [handleStored]
  have handle : loadFh3 (env.heap.over [(env.address 0, .chars filePath)]) filled 4 = filePath := by
    have stored : filled.Agree (setFileHandle env (putStatus res .nfs3Ok) 4 filePath) 4 4 :=
      (apart.part (by decide) (by decide)).trans (Mem.agree_put _ (.inl (by decide)))
    rw [loadFh3_congr _ stored, loadFh3_setFileHandle _ _ _ counted]
  rw [loadCreation3res, loadStatus, dif_pos status, loadCreation3resok, loadPostOpFh3, follows,
    handle]
  rfl

/-- A creation that reports success is delivered exactly with a path in bound. -/
theorem Makes.delivers_iff (makes : Makes k fs where_ make os) (res : Mem) (wf : where_.Wf cstr) :
    CreationDelivers env where_ (nfs3Creation k env fs where_ res failure make) ↔
      where_.path.length ≤ nfs3Fhsize ∧ Describable k os.fs where_.path res := by
  let filePath := where_.path
  let filled := (creationAttributes k os.fs (cstr where_.dir) filePath
    (kept k fs (cstr where_.dir)) (handleStored env filePath res)).2
  have loads : loadCreation3res (env.heap.over [(env.address 0, .chars filePath)]) filled
      = .ok ⟨.present filePath, loadPostOpAttr filled 8, loadWccData filled 32⟩ :=
    loadCreation3res_made _ res makes.dirThere (childPath_counted wf)
  -- The attributes of the directory can always be written, those of the object may not.
  have object : AttrWf (loadPostOpAttr filled 8) ↔ Describable k os.fs filePath res :=
    creationAttributes_object _ _ _ _
  have directory : (loadWccData filled 32).Wf := makes.dirWcc _ _
  obtain ⟨rc, serves⟩ : ∃ rc, nfs3Creation k env fs where_ res failure make
      = ⟨rc, os, filled, [(env.address 0, .chars filePath)]⟩ :=
    ⟨_, nfs3Creation_made res makes.names makes.made⟩
  rw [serves, ← object]
  constructor
  · -- Either of the two keeps the whole reply from being written.
    rintro ⟨resok, handle, received, _⟩
    by_contra unfit
    rw [Done.received_of_refused loads (xdrCreation3res_accepts _)] at received
    · cases received
    · rintro ⟨within, described, _⟩
      exact unfit ⟨within, described⟩
  · rintro ⟨within, described⟩
    refine ⟨_, _, Done.received_of_carried loads ?_, rfl,
      comesBack (childPath_nul_free _ _) within⟩
    exact Proc.create.res_lawful.carries _ ⟨within, described, directory⟩

end Creation

section Readdirplus

variable {args : Readdirplus3args} {st : Stat}

/-- READDIRPLUS reports success only of a directory. -/
theorem directory_of_makesOk (makes : MakesOk (nfs3Readdirplus k env fs args)) :
    args.dir ≠ [] ∧ ∃ st, k.lstat fs (cstr args.dir) = .ok st ∧ st.type = .dir := by
  by_cases named : args.dir = []
  · refine absurd makes (not_makesOk_of_untouched fun res => ?_)
    rw [nfs3Readdirplus_unnamed named]
    simp [Done.refuse, listingCleared]
  refine ⟨named, ?_⟩
  -- The empty handle, a missing object and any other type are all refused.
  cases found : k.lstat fs (cstr args.dir) with
  | error errno =>
    refine absurd makes (not_makesOk_of_error errno.status errno.status_ne_ok ?_)
    rw [nfs3Readdirplus_missing named found]
    exact refuse_status _ _ _
  | ok st =>
    by_cases isDir : st.type = .dir
    · exact ⟨st, rfl, isDir⟩
    · refine absurd makes (not_makesOk_of_error .nfs3errNotdir (by decide) ?_)
      rw [nfs3Readdirplus_other named found isDir]
      exact refuse_status _ _ _

/-- A directory that was not listed is read back as one without entries. -/
theorem loadReaddirplus3res_unlisted (heap : Heap) (st : Stat) (res : Mem) :
    loadReaddirplus3res heap (putStatus (examinedInPlace st (listingCleared res)) .nfs3Ok)
      = .ok ⟨.present (st.fattr3 (loadSpec res 14)), res.getU64 26, ⟨[], 0⟩⟩ := by
  let stored := putStatus (examinedInPlace st (listingCleared res)) .nfs3Ok
  have status : stored 0 = 0 := putStatus_zero _ _
  -- No entries and no end were stored before anything was looked at, and nothing after that.
  have cleared : stored.Agree (listingCleared res) 26 8 :=
    (putStatus_agree _ _ (by decide)).trans (examinedInPlace_agree st _ (Nat.le_refl 26))
  have pointer : stored.getU64 28 = 0 := by
    rw [cleared.getU64 (by decide) (by decide)]
    simp [listingCleared, Mem.getU64]
  have unmarked : stored 30 = 0 := by
    rw [cleared.word (by decide) (by decide)]
    simp [listingCleared]
  have attributes : loadPostOpAttr stored 2 = .present (st.fattr3 (loadSpec res 14)) := by
    have spec : loadSpec (listingCleared res) 14 = loadSpec res 14 := by
      simp [loadSpec, listingCleared]
    rw [loadPostOpAttr_congr (putStatus_agree _ _ (by decide)), loadPostOpAttr_examinedInPlace,
      spec]
  -- Nor is the verifier, so it is what memory held before.
  have verifier : stored.getU64 26 = res.getU64 26 := by
    rw [cleared.getU64 (by decide) (by decide)]
    simp [listingCleared, Mem.getU64]
  show loadReaddirplus3res heap stored = _
  rw [loadReaddirplus3res, loadStatus, dif_pos status, loadReaddirplus3resok, attributes, verifier,
    pointer, unmarked]
  simp [Heap.entriesplus]

/-- The path of every entry that is listed with a handle comes back from the client. -/
def ListingDelivers (env : Env) (args : Readdirplus3args) (done : Done σ) : Prop :=
  ∃ resok, done.received env xdrReaddirplus3res loadReaddirplus3res = some (.ok resok) ∧
    ∀ entry ∈ resok.reply.entries, ∀ handle, entry.nameHandle = .present handle →
      ComesBack handle (childPath (cstr args.dir) entry.name)

/-- Every record that the call lists has a path in bound. -/
def ListingFits (k : Kernel σ) (env : Env) (fs : σ) (args : Readdirplus3args) : Prop :=
  ∀ st page eof, k.lstat fs (cstr args.dir) = .ok st →
    args.listing k env fs st = some (page, eof) → ∀ dirent ∈ page, dirent.Fits (cstr args.dir)

/-- The handle listed for a record that fits comes back from the client. -/
theorem EntryplusNode.Lists.comesBack {dirent : Dirent} {node : EntryplusNode} {dir : NfsFh3}
    (lists : node.Lists (cstr dir) dirent) (fits : dirent.Fits (cstr dir)) {handle : NfsFh3}
    (listed : node.entry.nameHandle = .present handle) :
    ComesBack handle (childPath (cstr dir) node.entry.name) := by
  rw [lists.handle, listedHandle] at listed
  split at listed
  · cases listed
  · rename_i dot
    rw [← BoolUnion.present.inj listed, lists.name]
    exact Dnfs.comesBack (childPath_nul_free _ _) (fits (Bool.not_eq_true _ ▸ dot))

/-- A call that lists nothing and still reports success is delivered, without a handle. -/
theorem listingDelivers_unlisted (named : args.dir ≠ [])
    (found : k.lstat fs (cstr args.dir) = .ok st) (isDir : st.type = .dir)
    (unlisted : args.listing k env fs st = none)
    (success : (nfs3Readdirplus k env fs args res).res 0 = Nfsstat3.nfs3Ok.code) :
    ListingDelivers env args (nfs3Readdirplus k env fs args res) := by
  obtain ⟨rc, status, serves⟩ := nfs3Readdirplus_unlisted named found isDir unlisted
  rw [serves, refuse_status] at success
  -- The status is the success of examining the directory.
  obtain rfl := Nfsstat3.code_eq_zero.mp success
  have loads := loadReaddirplus3res_unlisted env.heap st res
  rw [serves]
  refine ⟨⟨.present (st.fattr3 (loadSpec res 14)), res.getU64 26, ⟨[], 0⟩⟩, ?_, ?_⟩
  · refine Done.received_of_carried loads ?_
    exact Proc.readdirplus.res_lawful.carries _ ⟨trivial, by simp, .inl rfl⟩
  · intro entry within
    cases within

/-- A call that lists some records is delivered exactly if all of them fit. -/
theorem listingDelivers_listed {page : List Dirent} {eof : Bool} (res : Mem) (named : args.dir ≠ [])
    (found : k.lstat fs (cstr args.dir) = .ok st) (isDir : st.type = .dir)
    (listed : args.listing k env fs st = some (page, eof)) :
    ListingDelivers env args (nfs3Readdirplus k env fs args res) ↔
      ∀ dirent ∈ page, dirent.Fits (cstr args.dir) := by
  obtain ⟨nodes, lists, serves⟩ := nfs3Readdirplus_listed named found isDir listed
  have loads := loadReaddirplus3res_listed env.heap st (located_of_lists lists) eof res
  rw [serves res]
  constructor
  · -- One handle out of bound keeps the whole reply from being written.
    rintro ⟨resok, received, _⟩
    by_contra unfit
    rw [Done.received_of_refused loads (xdrReaddirplus3res_accepts _)] at received
    · cases received
    · intro good
      refine unfit fun dirent within => ?_
      obtain ⟨node, mem, lists⟩ := exists_node_of_mem lists dirent within
      rw [← listedHandle_wf, ← lists.handle]
      exact good _ (List.mem_map_of_mem mem)
  · intro fits
    have each : ∀ node ∈ nodes, ∃ dirent, node.Lists (cstr args.dir) dirent ∧
        dirent.Fits (cstr args.dir) := by
      intro node within
      obtain ⟨dirent, mem, lists⟩ := exists_record_of_mem lists node within
      exact ⟨dirent, lists, fits dirent mem⟩
    refine ⟨_, Done.received_of_carried loads ?_, ?_⟩
    · refine Proc.readdirplus.res_lawful.carries _ ⟨trivial, ?_, ?_⟩
      · intro entry within
        obtain ⟨node, mem, rfl⟩ := List.mem_map.mp within
        obtain ⟨dirent, lists, fits⟩ := each node mem
        exact lists.wf fits
      · cases eof <;> simp [BoolWf]
    · intro entry within handle present
      obtain ⟨node, mem, rfl⟩ := List.mem_map.mp within
      obtain ⟨dirent, lists, fits⟩ := each node mem
      exact lists.comesBack fits present

/-- A READDIRPLUS that reports success is delivered exactly with all its paths in bound. -/
theorem listingDelivers_iff (makes : MakesOk (nfs3Readdirplus k env fs args)) (res : Mem) :
    ListingDelivers env args (nfs3Readdirplus k env fs args res) ↔ ListingFits k env fs args := by
  obtain ⟨named, st, found, isDir⟩ := directory_of_makesOk makes
  cases listed : args.listing k env fs st with
  -- Without a page there is no path to be in bound.
  | none =>
    refine iff_of_true (listingDelivers_unlisted named found isDir listed (makes res)) ?_
    intro st' page eof found' listed'
    obtain rfl : st = st' := Except.ok.inj (found.symm.trans found')
    rw [listed] at listed'
    cases listed'
  | some listing =>
    obtain ⟨page, eof⟩ := listing
    rw [listingDelivers_listed res named found isDir listed]
    constructor
    · intro fits st' page' eof' found' listed'
      obtain rfl : st = st' := Except.ok.inj (found.symm.trans found')
      obtain ⟨rfl, rfl⟩ : page = page' ∧ eof = eof' := by simpa [listed] using listed'
      exact fits
    · intro fits
      exact fits st page eof found listed

end Readdirplus

section Mnt

variable {cbVers : UInt32} {mountDir : Bytes}

/-- The path of a directory that was mounted comes back from the client. -/
def MntDelivers (res : Mountres3) (mountDir : Bytes) : Prop :=
  ∃ bytes resok, encodeOf xdrMountres3 res = some bytes ∧
    decodeOf xdrMountres3 bytes = some (.ok resok, []) ∧ ComesBack resok.fhandle (cstr mountDir)

/-- MNT reports success of the version that is served only. -/
theorem served_of_mountsOk (mounts : ∀ res, (mntMnt cbVers mountDir res).2.status = 0) :
    cbVers = mountV3 := by
  by_contra unserved
  have stale := mounts (.fail 1 (by decide) ())
  rw [mntMnt_unserved unserved] at stale
  exact absurd stale (by decide)

/-- A MNT that reports success is delivered exactly with a path in bound. -/
theorem mntDelivers_iff (served : cbVers = mountV3) (res : Mountres3) :
    MntDelivers (mntMnt cbVers mountDir res).2 mountDir ↔ (cstr mountDir).length ≤ nfs3Fhsize := by
  have flavors : [authNone].length ≤ xdrArrayMaxlen := by decide
  rw [mntMnt_served served]
  constructor
  · rintro ⟨bytes, _, sent, _⟩
    by_contra unfit
    have accepts := xdrMountres3_accepts ⟨cstr mountDir, [authNone]⟩ flavors
    rw [accepts.encodeOf_eq_none unfit] at sent
    cases sent
  · intro within
    have carried : Carried xdrMountres3 (.ok ⟨cstr mountDir, [authNone]⟩) :=
      xdrMountres3_carried within flavors
    obtain ⟨bytes, carried⟩ := carried
    exact ⟨bytes, _, carried.encodeOf, carried.decodeOf,
      comesBack (cstr_nul_free mountDir) within⟩

end Mnt

section Requests

/-- The requests whose replies carry handles. -/
inductive HandleRequest where
  | lookup (args : Lookup3args)
  | create (args : Create3args)
  | mkdir (args : Mkdir3args)
  | symlink (args : Symlink3args)
  | readdirplus (args : Readdirplus3args)
  | mnt (cbVers : UInt32) (mountDir : Bytes)

namespace HandleRequest

/-- The arguments were read off the wire. -/
def Decodes : HandleRequest → Prop
  | lookup args => ∃ bytes rest, decodeOf xdrDiropargs3 bytes = some (args, rest)
  | create args => ∃ bytes rest, decodeOf xdrCreate3args bytes = some (args, rest)
  | mkdir args => ∃ bytes rest, decodeOf xdrMkdir3args bytes = some (args, rest)
  | symlink args => ∃ bytes rest, decodeOf xdrSymlink3args bytes = some (args, rest)
  | readdirplus args => ∃ bytes rest, decodeOf xdrReaddirplus3args bytes = some (args, rest)
  | mnt _ mountDir => ∃ bytes rest, decodeOf xdrDirpath bytes = some (mountDir, rest)

/-- The handler makes the status a success, whatever the result held before. -/
def ProducesOk (k : Kernel σ) (env : Env) (fs : σ) : HandleRequest → Prop
  | lookup args => MakesOk (nfs3Lookup k env fs args)
  | create args => MakesOk (nfs3Create k env fs args)
  | mkdir args => MakesOk (nfs3Mkdir k env fs args)
  | symlink args => MakesOk (nfs3Symlink k env fs args)
  | readdirplus args => MakesOk (nfs3Readdirplus k env fs args)
  | mnt cbVers mountDir => ∀ res, (mntMnt cbVers mountDir res).2.status = 0

/--
The result can be written, and its handles mean what the handler operated on.

Every handle that a client reads off the reply and sends back in a GETATTR is the path again.
-/
def Delivers (k : Kernel σ) (env : Env) (fs : σ) (res : Mem) : HandleRequest → Prop
  | lookup args => LookupDelivers env args (nfs3Lookup k env fs args res)
  | create args => CreationDelivers env args.where_ (nfs3Create k env fs args res)
  | mkdir args => CreationDelivers env args.where_ (nfs3Mkdir k env fs args res)
  | symlink args => CreationDelivers env args.where_ (nfs3Symlink k env fs args res)
  | readdirplus args => ListingDelivers env args (nfs3Readdirplus k env fs args res)
  | mnt cbVers mountDir => ∀ before, MntDelivers (mntMnt cbVers mountDir before).2 mountDir

/-- An object that is made has a path in bound, and attributes that can be written. -/
def CreationFits (k : Kernel σ) (fs : σ) (where_ : Diropargs3) (res : Mem)
    (make : Path → Action (Os σ)) : Prop :=
  let filePath := where_.path
  filePath.length ≤ nfs3Fhsize ∧ Describable k (make filePath (.start fs)).2.fs filePath res

/-- All paths that are to become handles are in bound. -/
def Fits (k : Kernel σ) (env : Env) (fs : σ) (res : Mem) : HandleRequest → Prop
  | lookup args => args.path.length ≤ nfs3Fhsize
  | create args => CreationFits k fs args.where_ res (openAndClose k)
  | mkdir args => CreationFits k fs args.where_ res fun dirPath os =>
      os.call (fun _ => .mkdir) (k.mkdir dirPath (fieldOf 0 args.attributes.mode))
  | symlink args => CreationFits k fs args.where_ res fun filePath os =>
      os.call (fun _ => .symlink) (k.symlink (cstr args.symlink.symlinkData) filePath)
  | readdirplus args => ListingFits k env fs args
  | mnt _ mountDir => (cstr mountDir).length ≤ nfs3Fhsize

end HandleRequest

/-- A creation that reports success is delivered exactly if it fits. -/
theorem creationDelivers_iff {where_ : Diropargs3} {failure : Nfsstat3}
    {make : Path → Action (Os σ)} (error : failure ≠ .nfs3Ok)
    (makes : MakesOk fun res => nfs3Creation k env fs where_ res failure make) (res : Mem)
    (wf : where_.Wf cstr) :
    CreationDelivers env where_ (nfs3Creation k env fs where_ res failure make) ↔
      HandleRequest.CreationFits k fs where_ res make := by
  obtain ⟨os, makes⟩ := makes_of_makesOk error makes
  rw [makes.delivers_iff res wf, HandleRequest.CreationFits, makes.made]

/--
A request that reports success is delivered exactly if all its paths are in bound.

The operation has taken effect by then, and an object that was made remains without a reply.
-/
theorem handle_delivered (k : Kernel σ) (env : Env) (fs : σ) (res : Mem) {request : HandleRequest}
    (decodes : request.Decodes) (success : request.ProducesOk k env fs) :
    request.Delivers k env fs res ↔ request.Fits k env fs res := by
  -- What was read off the wire is short enough for its length to be stored.
  cases request with
  | lookup args =>
    obtain ⟨bytes, rest, read⟩ := decodes
    have wf := xdrDiropargs3_lawful.wf_of_decodeOf read
    exact (looksUp_of_makesOk success).delivers_iff res wf
  | create args =>
    obtain ⟨bytes, rest, read⟩ := decodes
    have wf := xdrCreate3args_lawful.wf_of_decodeOf read
    exact creationDelivers_iff (by decide) success res wf.1
  | mkdir args =>
    obtain ⟨bytes, rest, read⟩ := decodes
    have wf := xdrMkdir3args_lawful.wf_of_decodeOf read
    exact creationDelivers_iff (by decide) success res wf.1
  | symlink args =>
    obtain ⟨bytes, rest, read⟩ := decodes
    have wf := xdrSymlink3args_lawful.wf_of_decodeOf read
    exact creationDelivers_iff (by decide) success res wf.1
  | readdirplus args => exact listingDelivers_iff success res
  | mnt cbVers mountDir =>
    have served := served_of_mountsOk success
    constructor
    · intro delivers
      exact (mntDelivers_iff served (.ok default)).mp (delivers (.ok default))
    · intro within before
      exact (mntDelivers_iff served before).mpr within

/-- A file looked up in its directory, by a path of four bytes. -/
theorem handle_delivered_lookup :
    let request := HandleRequest.lookup ⟨MemFs.demoDir, MemFs.demoName⟩
    request.Decodes ∧ request.ProducesOk memKernel default (MemFs.demoTree []) ∧
      request.Delivers memKernel default (MemFs.demoTree []) Mem.zero := by
  have wf : Diropargs3.Wf id ⟨MemFs.demoDir, MemFs.demoName⟩ :=
    ⟨show MemFs.demoDir.length ≤ 64 by decide, by decide, by decide⟩
  -- The arguments are those of a message that can be written.
  obtain ⟨bytes, carried⟩ := xdrDiropargs3_lawful.carries _ wf
  have decodes : (HandleRequest.lookup ⟨MemFs.demoDir, MemFs.demoName⟩).Decodes :=
    ⟨bytes, [], carried.decodeOf⟩
  have finds : LooksUp memKernel (MemFs.demoTree []) ⟨MemFs.demoDir, MemFs.demoName⟩ :=
    ⟨by decide, by decide, by decide⟩
  have within : (childPath (cstr MemFs.demoDir) MemFs.demoName).length ≤ nfs3Fhsize := by decide
  exact ⟨decodes, finds.makesOk, (handle_delivered memKernel default (MemFs.demoTree []) Mem.zero
    decodes finds.makesOk).mpr within⟩

/-- A name that is within every bound on names, but not together with its directory. -/
def longName : Bytes := List.replicate 62 0x66

/-- A request to make a directory of that name. -/
def mkdirLongName : Mkdir3args where
  where_ := ⟨MemFs.demoDir, longName⟩
  attributes := ⟨.absent, .absent, .absent, .absent, .dontChange, .dontChange⟩

/-- A directory is made and reported as made, but its handle cannot be written. -/
theorem mkdir_undelivered :
    (HandleRequest.mkdir mkdirLongName).Decodes ∧
      (HandleRequest.mkdir mkdirLongName).ProducesOk memKernel default (MemFs.demoTree []) ∧
      ¬(HandleRequest.mkdir mkdirLongName).Delivers memKernel default (MemFs.demoTree [])
        Mem.zero := by
  have where_ : Diropargs3.Wf id mkdirLongName.where_ :=
    ⟨show MemFs.demoDir.length ≤ 64 by decide, by decide, by decide⟩
  obtain ⟨bytes, carried⟩ := xdrMkdir3args_lawful.carries mkdirLongName
    ⟨where_, trivial, trivial, trivial, trivial⟩
  have read : decodeOf xdrMkdir3args bytes = some (mkdirLongName, []) := carried.decodeOf
  -- The directory is made before its path is found to be too long.
  have makes : ∃ os, Makes memKernel (MemFs.demoTree []) mkdirLongName.where_
      (fun dirPath os => os.call (fun _ => .mkdir)
        (memKernel.mkdir dirPath (fieldOf 0 mkdirLongName.attributes.mode))) os :=
    ⟨_, ⟨by decide, by decide⟩, rfl, by decide⟩
  obtain ⟨os, makes⟩ := makes
  have wf := xdrMkdir3args_lawful.wf_of_decodeOf read
  refine ⟨⟨bytes, [], read⟩, makes.makesOk, fun delivers => ?_⟩
  have fits := ((makes.delivers_iff Mem.zero wf.1).mp delivers).1
  exact absurd fits (by decide)

end Requests

end Dnfs
