import Dnfs.Nfs.HandOut

/-! Reading back the target of a link that was made, from a buffer without any room. -/

namespace Dnfs

variable {σ : Type} {k : Kernel σ} {env : Env} {fs : σ} {args : Symlink3args}

/--
What may be assumed of the calls on links.

A link that was made is found as one, its size is the length of its target, and reading it copies
as much of the target as there is room for.
-/
structure Links (k : Kernel σ) : Prop where
  lstat : ∀ {target path fs after}, k.symlink target path fs = (.ok (), after) →
    ∃ st, k.lstat after path = .ok st ∧ st.type = .lnk ∧ st.stSize = UInt64.ofNat target.length
  readlink : ∀ {target path fs after}, k.symlink target path fs = (.ok (), after) →
    ∀ bufsiz, k.readlink after path bufsiz = .ok (target.take bufsiz.toNat)

/-- The bytes READLINK allocates for a target of some length: none of that size. -/
def readlinkRoom (dataLen : UInt64) : Nat := 0 * dataLen.toNat

/-- The path of the link a request asks for. -/
def Symlink3args.path (args : Symlink3args) : Path :=
  args.where_.path

/-- The target a request asks for. -/
def Symlink3args.target (args : Symlink3args) : Bytes := cstr args.symlink.symlinkData

/-- The target of a link is answered to a client that asks for it by its handle. -/
structure ReadsTarget (k : Kernel σ) (env : Env) (fs : σ) (handle : NfsFh3) (target : Bytes)
    (res : Mem) : Prop where
  replies : (nfs3Readlink k env fs handle res).res 0 = Nfsstat3.nfs3Ok.code
  /-- The string that is found is the target, … -/
  data : (env.heap.over (nfs3Readlink k env fs handle res).stored).chars
    ((nfs3Readlink k env fs handle res).res.getU64 26) = target
  /-- … and it lies within what was allocated, with the NUL that ends it. -/
  inside : ∀ st, k.lstat fs (cstr handle) = .ok st → target.length + 1 ≤ readlinkRoom st.stSize
  received : ∃ resok, (nfs3Readlink k env fs handle res).received env xdrReadlink3res
    loadReadlink3res = some (.ok resok) ∧ resok.data = target

/-- The size that was stored is the one that was found. -/
theorem attrStored_size (st : Stat) : (attrStored st Mem.zero 0).getU64 8 = st.stSize := by
  have loaded : loadFattr3 (attrStored st Mem.zero 0) 2 = st.fattr3 (loadSpec Mem.zero 12) := by
    rw [attrStored, loadFattr3_congr (Mem.agree_put _ (by omega)), loadFattr3_storeFattr3]
  exact congrArg Fattr3.size loaded

/-- A SYMLINK that reports success made the link. -/
theorem symlink_of_makesOk (ok : MakesOk (nfs3Symlink k env fs args)) :
    ∃ after, k.symlink args.target args.path fs = (.ok (), after) ∧
      ∀ res, (nfs3Symlink k env fs args res).os.fs = after := by
  obtain ⟨os, makes⟩ := makes_of_makesOk (by decide) ok
  refine ⟨os.fs, ?_, fun res => ?_⟩
  · -- The noted call has the outcome of the call.
    have result : (k.symlink args.target args.path fs).1 = .ok () := congrArg Prod.fst makes.made
    have after : (k.symlink args.target args.path fs).2 = os.fs :=
      congrArg (fun done => done.2.fs) makes.made
    exact Prod.ext result after
  · rw [nfs3Symlink, nfs3Creation_made res makes.names makes.made]

/-- READLINK of such a link succeeds, and finds the target and whatever memory holds behind. -/
theorem nfs3Readlink_link (env : Env) (links : Links k) {target : Bytes} {path : Path} {after : σ}
    (made : k.symlink target path fs = (.ok (), after)) (small : target.length < 2 ^ 64)
    (named : path ≠ []) (nulFree : 0 ∉ path) (targetFree : 0 ∉ target) (res : Mem) :
    (nfs3Readlink k env after path res).res 0 = Nfsstat3.nfs3Ok.code ∧
      (env.heap.over (nfs3Readlink k env after path res).stored).chars
        ((nfs3Readlink k env after path res).res.getU64 26) = target ++ cstr env.targetTail := by
  obtain ⟨st, found, isLink, size⟩ := links.lstat made
  have same : cstr path = path := cstr_eq_self nulFree
  have judged : judgeFileExit k after (cstr path) FileType.lnk.bits = true := by
    rw [same, judgeFileExit_iff (by decide)]
    exact ⟨st, found, by rw [isLink]; decide⟩
  have whole : target.take st.stSize.toNat = target := by
    rw [size, UInt64.toNat_ofNat', Nat.mod_eq_of_lt small, List.take_length]
  have reads : k.readlink after (cstr path) ((attrStored st Mem.zero 0).getU64 8) = .ok target := by
    rw [same, attrStored_size, links.readlink made, whole]
  have found' : k.lstat after (cstr path) = .ok st := by rw [same, found]
  rw [nfs3Readlink_read res named judged found' reads]
  refine ⟨by simp, ?_⟩
  -- The pointer was stored before the attributes, which lie in front of it.
  have pointer : (((putStatus res .nfs3Ok).putU64 26 (env.address 0)).copy 2
      (attrStored st Mem.zero 0) 0 24).getU64 26 = env.address 0 := by
    simp [Mem.getU64]
  rw [pointer]
  have read : cstr (target ++ env.targetTail) = target ++ cstr env.targetTail := by
    rw [cstr, List.takeWhile_append_of_pos, cstr]
    intro c mem
    simpa using fun zero : c = 0 => targetFree (zero ▸ mem)
  simp [Heap.chars, read]

/-- The handle a SYMLINK that reports success returns is the path of the link. -/
theorem symlink_returns (ok : MakesOk (nfs3Symlink k env fs args)) (wf : args.where_.Wf cstr)
    (res : Mem) {resok : Creation3resok} {handle : NfsFh3}
    (returned : loadCreation3res (env.heap.over (nfs3Symlink k env fs args res).stored)
      (nfs3Symlink k env fs args res).res = .ok resok) (follows : resok.obj = .present handle) :
    handle = args.path := by
  obtain ⟨os, makes⟩ := makes_of_makesOk (by decide) ok
  rw [nfs3Symlink, nfs3Creation_made res makes.names makes.made] at returned
  have same := returned.symm.trans
    (loadCreation3res_made _ res makes.dirThere (childPath_counted wf))
  cases StatusUnion.ok.inj same
  exact (BoolUnion.present.inj follows).symm

/--
The target of a link that SYMLINK made is never answered from within what READLINK allocated.

All the rest of it can go well, if the memory behind ends the target.
-/
theorem symlink_readlink_never (links : Links k) (ok : MakesOk (nfs3Symlink k env fs args))
    (wf : args.where_.Wf cstr) (res readRes : Mem) (readEnv : Env) {resok : Creation3resok}
    {handle : NfsFh3}
    (returned : loadCreation3res (env.heap.over (nfs3Symlink k env fs args res).stored)
      (nfs3Symlink k env fs args res).res = .ok resok) (follows : resok.obj = .present handle) :
    ¬ReadsTarget k readEnv (nfs3Symlink k env fs args res).os.fs handle args.target readRes := by
  intro reads
  obtain ⟨after, made, leaves⟩ := symlink_of_makesOk ok
  obtain ⟨st, found, -, -⟩ := links.lstat made
  have inside := reads.inside st (by
    rw [symlink_returns ok wf res returned follows, leaves res, Symlink3args.path,
      cstr_eq_self (childPath_nul_free _ _)]
    exact found)
  -- Even the NUL that ends the target has no place in an empty buffer.
  rw [readlinkRoom, Nat.zero_mul] at inside
  omega

/-- As a string it is the target if and only if the memory behind starts with the end of one. -/
theorem symlink_readlink_reads_iff (links : Links k) (ok : MakesOk (nfs3Symlink k env fs args))
    (small : args.target.length < 2 ^ 64) (res readRes : Mem) (readEnv : Env) :
    let done := nfs3Readlink k readEnv (nfs3Symlink k env fs args res).os.fs args.path readRes
    done.res 0 = Nfsstat3.nfs3Ok.code ∧
      ((readEnv.heap.over done.stored).chars (done.res.getU64 26) = args.target ↔
        cstr readEnv.targetTail = []) := by
  obtain ⟨after, made, leaves⟩ := symlink_of_makesOk ok
  rw [leaves res]
  have named : args.path ≠ [] := by simp [Symlink3args.path, childPath]
  obtain ⟨status, data⟩ := nfs3Readlink_link readEnv links made small named
    (childPath_nul_free _ _) (cstr_nul_free _) readRes
  exact ⟨status, by rw [data, List.append_right_eq_self]⟩

section Memory

/-- Read a link in memory, whose target is kept as its bytes. -/
def MemFs.readlink (fs : MemFs) (path : Path) (bufsiz : UInt64) : Except Errno Bytes :=
  match fs.nodes.lookup path with
  | some st =>
    if st.type = .lnk then .ok ((fs.read st.stIno.toNat).take bufsiz.toNat) else .error (.other 22)
  | none => .error .enoent

/-- Make a link in memory, under a number that no other object has. -/
def MemFs.symlink (target : Bytes) (path : Path) (fs : MemFs) : Except Errno Unit × MemFs :=
  let st := { Stat.plain .lnk 9 with stSize := UInt64.ofNat target.length }
  fs.unless_ .symlink () { fs with nodes := (path, st) :: fs.nodes, data := (9, target) :: fs.data }

/-- The calls on a file system in memory whose links have targets. -/
def linkKernel : Kernel MemFs :=
  { memKernel with readlink := MemFs.readlink, symlink := MemFs.symlink }

/-- A link that was made is in front of what was there. -/
theorem MemFs.symlink_made {target : Bytes} {path : Path} {fs after : MemFs}
    (made : MemFs.symlink target path fs = (.ok (), after)) :
    after.nodes.lookup path =
        some { Stat.plain .lnk 9 with stSize := UInt64.ofNat target.length } ∧
      after.read 9 = target := by
  unfold MemFs.symlink MemFs.unless_ at made
  split at made
  · cases made
  · cases made
    simp [MemFs.read]

/-- Its calls on links are as may be assumed. -/
theorem linkKernel_links : Links linkKernel where
  lstat := by
    intro target path fs after made
    obtain ⟨found, -⟩ := MemFs.symlink_made made
    refine ⟨{ Stat.plain .lnk 9 with stSize := UInt64.ofNat target.length }, ?_, rfl, rfl⟩
    show MemFs.lstat after path = _
    rw [MemFs.lstat, found]
  readlink := by
    intro target path fs after made bufsiz
    obtain ⟨found, kept⟩ := MemFs.symlink_made made
    show MemFs.readlink after path bufsiz = _
    rw [MemFs.readlink, found]
    exact congrArg (fun bytes => Except.ok (List.take bufsiz.toNat bytes)) kept

/-- A link to a file beside it. -/
def demoSymlink : Symlink3args where
  where_ := ⟨MemFs.demoDir, [0x6c]⟩
  symlink := ⟨⟨.absent, .absent, .absent, .absent, .dontChange, .dontChange⟩, MemFs.demoName⟩

/-- It is made. -/
theorem demoSymlink_makesOk :
    MakesOk (nfs3Symlink linkKernel default (MemFs.demoTree []) demoSymlink) := by
  have makes : Makes linkKernel (MemFs.demoTree []) demoSymlink.where_
      (fun filePath os => os.call (fun _ => .symlink)
        (linkKernel.symlink demoSymlink.target filePath))
      ((Os.start (MemFs.demoTree [])).call (fun _ => .symlink)
        (linkKernel.symlink demoSymlink.target demoSymlink.path)).2 :=
    ⟨⟨by decide, by decide⟩, rfl, rfl⟩
  exact makes.makesOk

theorem symlink_readlink_never_demo :
    MakesOk (nfs3Symlink linkKernel default (MemFs.demoTree []) demoSymlink) ∧
      ¬ReadsTarget linkKernel default
        (nfs3Symlink linkKernel default (MemFs.demoTree []) demoSymlink Mem.zero).os.fs
        demoSymlink.path demoSymlink.target Mem.zero :=
  ⟨demoSymlink_makesOk, symlink_readlink_never linkKernel_links demoSymlink_makesOk
    ⟨show MemFs.demoDir.length ≤ 64 by decide, by decide, by decide⟩ Mem.zero Mem.zero default rfl
    rfl⟩

theorem symlink_readlink_reads_demo :
    let done := nfs3Readlink linkKernel default
      (nfs3Symlink linkKernel default (MemFs.demoTree []) demoSymlink Mem.zero).os.fs
      demoSymlink.path Mem.zero
    ((default : Env).heap.over done.stored).chars (done.res.getU64 26) = demoSymlink.target :=
  (symlink_readlink_reads_iff linkKernel_links demoSymlink_makesOk (by decide) Mem.zero Mem.zero
    default).2.mpr rfl

/-- With another byte in memory behind it, even the string that is found is not the target. -/
theorem readlink_reads_garbage :
    MakesOk (nfs3Symlink linkKernel default (MemFs.demoTree []) demoSymlink) ∧
      let done := nfs3Readlink linkKernel { (default : Env) with targetTail := [0x78, 0] }
        (nfs3Symlink linkKernel default (MemFs.demoTree []) demoSymlink Mem.zero).os.fs
        demoSymlink.path Mem.zero
      demoSymlink.target = [0x66] ∧ done.res 0 = Nfsstat3.nfs3Ok.code ∧
        done.stored = [(done.res.getU64 26, .chars [0x66, 0x78])] :=
  ⟨demoSymlink_makesOk, by decide⟩

end Memory

end Dnfs
