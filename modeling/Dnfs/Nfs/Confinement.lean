import Dnfs.Nfs.ExamineLaws
import Dnfs.Nfs.NamespaceLaws
import Dnfs.Nfs.SattrLaws
import Dnfs.Os.MemFs
import Dnfs.Os.Override
import Dnfs.Os.Paths

/-! What a name in a directory makes the server act on, path by path and place by place. -/

namespace Dnfs

/-- It is longer than the path of the directory. -/
theorem Diropargs3.path_ne_dir (slot : Diropargs3) : cstr slot.dir ≠ slot.path := by
  intro same
  have lengths := congrArg List.length same
  simp only [Diropargs3.path, childPath, List.length_append, List.length_cons] at lengths
  omega

variable {σ : Type} {k v : Kernel σ} {env : Env} {fs : σ} {path : Path}

section Elsewhere

variable {p : Path} (elsewhere : p ≠ path)

include elsewhere

/-- Judging a path looks at that path only. -/
theorem judgeFileExit_override (mask : UInt32) :
    judgeFileExit (k.override v path) fs p mask = judgeFileExit k fs p mask := by
  simp only [judgeFileExit, Kernel.override_lstat elsewhere]

/-- So does storing attributes. -/
theorem nfsSetPostOpAttr_override (m : Mem) (at_ : Nat) :
    nfsSetPostOpAttr (k.override v path) fs p m at_ = nfsSetPostOpAttr k fs p m at_ := by
  simp only [nfsSetPostOpAttr, Kernel.override_lstat elsewhere]

/-- So does keeping them before a change. -/
theorem getPreOpAttr_override (preAttr : Mem) :
    getPreOpAttr (k.override v path) fs p preAttr = getPreOpAttr k fs p preAttr := by
  simp only [getPreOpAttr, nfsSetPostOpAttr_override elsewhere]

/-- So does storing them after it. -/
theorem getWccData_override (preAttr m : Mem) (at_ : Nat) :
    getWccData (k.override v path) fs p preAttr m at_ = getWccData k fs p preAttr m at_ := by
  simp only [getWccData, nfsSetPostOpAttr_override elsewhere]

/-- So does checking a directory. -/
theorem checkDirectory_override (res : Mem) :
    checkDirectory (k.override v path) fs p res = checkDirectory k fs p res := by
  simp only [checkDirectory, judgeFileExit_override elsewhere, getPreOpAttr_override elsewhere]

/-- So does the exit of a failed call. -/
theorem outfail_override (os : Os σ) (preAttr res : Mem) (status : Nfsstat3) :
    outfail (k.override v path) os p preAttr res status = outfail k os p preAttr res status := by
  simp only [outfail, getWccData_override elsewhere]

/-- Attributes are set at the path they are given for. -/
theorem nfsSetSattr3_override (stale : Timespec × Timespec) (os : Os σ) (newAttr : Sattr3) :
    nfsSetSattr3 (k.override v path) stale os p newAttr = nfsSetSattr3 k stale os p newAttr := by
  simp only [nfsSetSattr3, setMode, setOwner, setTimes, Kernel.override_chmod elsewhere,
    Kernel.override_chown elsewhere, Kernel.override_utimes elsewhere]

/-- After a creation the name and its directory are looked at. -/
theorem creationAttributes_override {dirPath : Path} (dirElsewhere : dirPath ≠ path)
    (preAttr res : Mem) :
    creationAttributes (k.override v path) fs dirPath p preAttr res
      = creationAttributes k fs dirPath p preAttr res := by
  simp only [creationAttributes, nfsSetPostOpAttr_override elsewhere,
    getWccData_override dirElsewhere]

end Elsewhere

/-- The check of a directory looks at its path only. -/
theorem checkDirHandle_override {dir : NfsFh3} (elsewhere : cstr dir ≠ path) (res : Mem) :
    checkDirHandle (k.override v path) env fs dir res = checkDirHandle k env fs dir res := by
  simp only [checkDirHandle, handlePath_eq, checkDirectory_override elsewhere]

/-- A handle names a directory whatever happens elsewhere. -/
theorem namesDir_override {dir : NfsFh3} (elsewhere : cstr dir ≠ path) :
    NamesDir (k.override v path) fs dir ↔ NamesDir k fs dir := by
  constructor
  · rintro ⟨named, judged⟩
    exact ⟨named, judgeFileExit_override elsewhere _ ▸ judged⟩
  · rintro ⟨named, judged⟩
    exact ⟨named, (judgeFileExit_override elsewhere _).trans judged⟩

/-- A handle that names no directory is refused without looking further. -/
theorem checkDirHandle_of_not_names {dir : NfsFh3} (env : Env) (res : Mem)
    (other : ¬NamesDir k fs dir) :
    ∃ left, checkDirHandle k env fs dir res = .error left := by
  by_cases named : dir = []
  · exact ⟨_, checkDirHandle_unnamed res named⟩
  · cases judged : judgeFileExit k fs (cstr dir) FileType.dir.bits with
    | false => exact ⟨_, checkDirHandle_other res named judged⟩
    | true => exact absurd ⟨named, judged⟩ other

section Unaffected

variable {res : Mem}

/-- LOOKUP looks at the directory and, if that is one, at the name in it. -/
theorem nfs3Lookup_override {args : Lookup3args} (dirElsewhere : cstr args.dir ≠ path)
    (elsewhere : NamesDir k fs args.dir → Diropargs3.path args ≠ path) :
    nfs3Lookup (k.override v path) env fs args res = nfs3Lookup k env fs args res := by
  by_cases named : args.dir = []
  · rw [nfs3Lookup_unnamed res named, nfs3Lookup_unnamed res named]
  -- What is no directory is refused before the name is looked at.
  cases judged : judgeFileExit k fs (cstr args.dir) FileType.dir.bits with
  | false =>
    rw [nfs3Lookup_other res named judged, nfs3Lookup_other res named]
    rw [judgeFileExit_override dirElsewhere, judged]
  | true =>
    have nameElsewhere := elsewhere ⟨named, judged⟩
    simp only [nfs3Lookup, handlePath_eq, judgeFileExit_override dirElsewhere,
      judgeFileExit_override nameElsewhere, nfsSetPostOpAttr_override dirElsewhere,
      nfsSetPostOpAttr_override nameElsewhere]

/-- A creating procedure looks at the directory and, if that is one, makes its call at the name. -/
theorem nfs3Creation_override {where_ : Diropargs3} {failure : Nfsstat3}
    {make make' : Path → Action (Os σ)} (dirElsewhere : cstr where_.dir ≠ path)
    (elsewhere : NamesDir k fs where_.dir → where_.path ≠ path)
    (same : where_.path ≠ path → make' where_.path (.start fs) = make where_.path (.start fs)) :
    nfs3Creation (k.override v path) env fs where_ res failure make'
      = nfs3Creation k env fs where_ res failure make := by
  by_cases names : NamesDir k fs where_.dir
  · have nameElsewhere := elsewhere names
    simp only [nfs3Creation, handlePath_eq, checkDirHandle_override dirElsewhere,
      same nameElsewhere, outfail_override dirElsewhere,
      creationAttributes_override nameElsewhere dirElsewhere]
  · -- The directory is refused alike, before anything else is looked at.
    obtain ⟨left, refused⟩ := checkDirHandle_of_not_names env res names
    rw [nfs3Creation_refused refused, nfs3Creation_refused]
    rw [checkDirHandle_override dirElsewhere, refused]

/-- The same for a removing procedure, which looks at the name before it makes its call. -/
theorem nfs3Removal_override {object : Diropargs3} {judgeMode : UInt32}
    {unmake unmake' : Path → Action (Os σ)}
    (dirElsewhere : cstr object.dir ≠ path)
    (elsewhere : NamesDir k fs object.dir → object.path ≠ path)
    (same : object.path ≠ path →
      unmake' object.path (.start fs) = unmake object.path (.start fs)) :
    nfs3Removal (k.override v path) env fs object res judgeMode unmake'
      = nfs3Removal k env fs object res judgeMode unmake := by
  by_cases names : NamesDir k fs object.dir
  · have nameElsewhere := elsewhere names
    simp only [nfs3Removal, handlePath_eq, checkDirHandle_override dirElsewhere,
      same nameElsewhere, outfail_override dirElsewhere, judgeFileExit_override nameElsewhere,
      getWccData_override dirElsewhere]
  · obtain ⟨left, refused⟩ := checkDirHandle_of_not_names env res names
    rw [nfs3Removal_refused refused, nfs3Removal_refused]
    rw [checkDirHandle_override dirElsewhere, refused]

/-- MKNOD does the same for a node that has a name and a type it can make. -/
theorem nfs3Mknod_override {args : Mknod3args} (dirElsewhere : cstr args.where_.dir ≠ path)
    (elsewhere : ∀ mode dev newAttr, args.Ready k fs mode dev newAttr → args.where_.path ≠ path) :
    nfs3Mknod (k.override v path) env fs args res = nfs3Mknod k env fs args res := by
  by_cases names : NamesDir k fs args.where_.dir
  · have names' : NamesDir (k.override v path) fs args.where_.dir :=
      (namesDir_override dirElsewhere).mpr names
    -- Without a name or a type the request is refused alike, too.
    by_cases nameless : cstr args.where_.name = []
    · rw [nfs3Mknod_nameless res names nameless, nfs3Mknod_nameless res names' nameless]
    cases node : args.what.node with
    | none =>
      rw [nfs3Mknod_badtype res names nameless node, nfs3Mknod_badtype res names' nameless node]
    | some spec =>
      obtain ⟨mode, dev, newAttr⟩ := spec
      have nameElsewhere := elsewhere mode dev newAttr ⟨names, nameless, node⟩
      simp only [nfs3Mknod, handlePath_eq, judgeFileExit_override dirElsewhere,
        getPreOpAttr_override dirElsewhere, Kernel.override_mknod nameElsewhere,
        getWccData_override dirElsewhere, nfsSetSattr3_override nameElsewhere,
        creationAttributes_override nameElsewhere dirElsewhere]
  · by_cases named : args.where_.dir = []
    · rw [nfs3Mknod_unnamed res named, nfs3Mknod_unnamed res named]
    cases judged : judgeFileExit k fs (cstr args.where_.dir) FileType.dir.bits with
    | true => exact absurd ⟨named, judged⟩ names
    | false =>
      rw [nfs3Mknod_other res named judged, nfs3Mknod_other res named]
      rw [judgeFileExit_override dirElsewhere, judged]

/-- RENAME looks at the first name once its directory is one, and goes on only if that is there. -/
theorem nfs3Rename_override {args : Rename3args} (fromElsewhere : cstr args.fromDir.dir ≠ path)
    (toElsewhere : cstr args.toDir.dir ≠ path)
    (nameElsewhere : NamesDir k fs args.fromDir.dir → args.fromDir.path ≠ path)
    (newElsewhere : args.Ready k fs → args.toDir.path ≠ path) :
    nfs3Rename (k.override v path) env fs args res = nfs3Rename k env fs args res := by
  by_cases names : NamesDir k fs args.fromDir.dir
  · have names' : NamesDir (k.override v path) fs args.fromDir.dir :=
      (namesDir_override fromElsewhere).mpr names
    have oldElsewhere := nameElsewhere names
    -- Each check that fails is the last thing both systems are asked.
    cases there : judgeFileExit k fs args.fromDir.path anyType with
    | false =>
      rw [nfs3Rename_missing res names there, nfs3Rename_missing res names']
      rw [judgeFileExit_override oldElsewhere, there]
    | true =>
      have there' : judgeFileExit (k.override v path) fs args.fromDir.path anyType = true :=
        (judgeFileExit_override oldElsewhere anyType).trans there
      by_cases unnamed : args.toDir.dir = []
      · rw [nfs3Rename_unnamed res names there unnamed,
          nfs3Rename_unnamed res names' there' unnamed]
      cases judged : judgeFileExit k fs (cstr args.toDir.dir) FileType.dir.bits with
      | false =>
        rw [nfs3Rename_other res names there unnamed judged,
          nfs3Rename_other res names' there' unnamed]
        rw [judgeFileExit_override toElsewhere, judged]
      | true =>
        have newNameElsewhere := newElsewhere ⟨names, there, unnamed, judged⟩
        simp only [nfs3Rename, handlePath_eq, checkDirHandle_override fromElsewhere,
          judgeFileExit_override oldElsewhere, checkDirectory_override toElsewhere,
          Kernel.override_rename oldElsewhere newNameElsewhere, getWccData_override fromElsewhere,
          getWccData_override toElsewhere]
  · obtain ⟨left, refused⟩ := checkDirHandle_of_not_names env res names
    rw [nfs3Rename_refused refused, nfs3Rename_refused]
    rw [checkDirHandle_override fromElsewhere, refused]

/-- LINK makes its call at the name once the handle of the file is not empty. -/
theorem nfs3Link_override {args : Link3args} (fileElsewhere : cstr args.file ≠ path)
    (dirElsewhere : cstr args.link.dir ≠ path)
    (elsewhere : args.Ready k fs → args.link.path ≠ path) :
    nfs3Link (k.override v path) env fs args res = nfs3Link k env fs args res := by
  by_cases named : args.file = []
  · rw [nfs3Link_unnamed res named, nfs3Link_unnamed res named]
  by_cases names : NamesDir k fs args.link.dir
  · have nameElsewhere := elsewhere ⟨names, named⟩
    simp only [nfs3Link, handlePath_eq, checkDirHandle_override dirElsewhere,
      Kernel.override_link fileElsewhere nameElsewhere, nfsSetPostOpAttr_override fileElsewhere,
      getWccData_override dirElsewhere]
  · obtain ⟨left, refused⟩ := checkDirHandle_of_not_names env res names
    rw [nfs3Link_refused named refused, nfs3Link_refused named]
    rw [checkDirHandle_override dirElsewhere, refused]

end Unaffected

section Consulted

variable {res : Mem}

/-- A handle names a directory whatever happens at a name in it. -/
theorem namesDir_overridden (slot : Diropargs3) (v : Kernel σ) (names : NamesDir k fs slot.dir) :
    NamesDir (k.override v slot.path) fs slot.dir :=
  (namesDir_override slot.path_ne_dir).mpr names

/-- A system that finds something, or nothing, wherever it looks. -/
def Kernel.finding (k : Kernel σ) (found : Except Errno Stat) : Kernel σ :=
  { k with lstat := fun _ _ => found }

/-- It finds so at the path where it stands in for another. -/
theorem Kernel.override_finding (found : Except Errno Stat) (fs : σ) :
    (k.override (k.finding found) path).lstat fs path = found := if_pos rfl

/-- What a found object is judged by is its type. -/
theorem judgeFileExit_finding (type : FileType) (mask : UInt32) :
    judgeFileExit (k.override (k.finding (.ok (.plain type 0))) path) fs path mask
      = decide ((Stat.plain type 0).stMode &&& mask ≠ 0) := by
  simp only [judgeFileExit, Kernel.override_finding]

/-- Nothing is judged to be there where nothing is found. -/
theorem judgeFileExit_finding_none (errno : Errno) (mask : UInt32) :
    judgeFileExit (k.override (k.finding (.error errno)) path) fs path mask = false := by
  simp only [judgeFileExit, Kernel.override_finding]

/-- LOOKUP in a directory consults the name. -/
theorem nfs3Lookup_consults {args : Lookup3args} (names : NamesDir k fs args.dir) :
    k.Consults (fun k => nfs3Lookup k env fs args res) (Diropargs3.path args) := by
  -- It makes a difference whether a file is found there or nothing.
  refine Kernel.consults_of_ne (k.finding (.ok (.plain .reg 0))) (k.finding (.error .enoent)) ?_
  intro same
  have seen := namesDir_overridden args (k.finding (.ok (.plain .reg 0))) names
  have unseen := namesDir_overridden args (k.finding (.error .enoent)) names
  obtain ⟨dir, foundDir⟩ := judged_lstat seen.judged
  obtain ⟨dir', foundDir'⟩ := judged_lstat unseen.judged
  have codes := congrArg Done.rc same
  rw [nfs3Lookup_found res seen.named seen.judged foundDir
      ((judgeFileExit_finding .reg anyType).trans (by decide)) (Kernel.override_finding _ fs),
    nfs3Lookup_missing res unseen.named unseen.judged foundDir' (judgeFileExit_finding_none _ _)]
    at codes
  cases codes

/-- A system whose calls that make or move a name all succeed, or all fail. -/
def Kernel.answering (k : Kernel σ) (result : Except Errno Unit) : Kernel σ :=
  { k with
    openFile := fun _ _ fs => (result.map fun _ => ⟨0, 0⟩, fs)
    mkdir := fun _ _ fs => (result, fs)
    symlink := fun _ _ fs => (result, fs)
    mknod := fun _ _ _ fs => (result, fs)
    rename := fun _ _ fs => (result, fs)
    link := fun _ _ fs => (result, fs) }

/-- The state that a creating procedure leaves is that of its call. -/
theorem nfs3Creation_os {where_ : Diropargs3} {failure : Nfsstat3}
    {make : Path → Action (Os σ)} (names : NamesDir k fs where_.dir) :
    (nfs3Creation k env fs where_ res failure make).os = (make where_.path (.start fs)).2 := by
  rcases outcome : make where_.path (.start fs) with ⟨_ | _, os⟩
  · rw [nfs3Creation_failed res names outcome]
    rfl
  · simp only [nfs3Creation_made res names outcome]

/-- A creating procedure consults the name if it tells whether its call succeeds there. -/
theorem nfs3Creation_consults {where_ : Diropargs3} {failure : Nfsstat3}
    {make : Kernel σ → Path → Action (Os σ)} (names : NamesDir k fs where_.dir)
    (differ : let calls := fun result =>
        (make (k.override (k.answering result) where_.path) where_.path (.start fs)).2.calls
      calls (.ok ()) ≠ calls (.error .enoent)) :
    k.Consults (fun k => nfs3Creation k env fs where_ res failure (make k)) where_.path := by
  refine Kernel.consults_of_ne (k.answering (.ok ())) (k.answering (.error .enoent)) ?_
  intro same
  have states := congrArg Done.os same
  rw [nfs3Creation_os (namesDir_overridden where_ _ names),
    nfs3Creation_os (namesDir_overridden where_ _ names)] at states
  exact differ (congrArg Os.calls states)

/-- CREATE consults the name. -/
theorem nfs3Create_consults {args : Create3args} (names : NamesDir k fs args.where_.dir) :
    k.Consults (fun k => nfs3Create k env fs args res) args.where_.path :=
  nfs3Creation_consults names
    (by simp [openAndClose, Kernel.override, Kernel.answering, Os.call, succeeded, Except.map])

/-- So does MKDIR. -/
theorem nfs3Mkdir_consults {args : Mkdir3args} (names : NamesDir k fs args.where_.dir) :
    k.Consults (fun k => nfs3Mkdir k env fs args res) args.where_.path :=
  nfs3Creation_consults names (by simp [Kernel.override, Kernel.answering, Os.call, succeeded])

/-- So does SYMLINK. -/
theorem nfs3Symlink_consults {args : Symlink3args} (names : NamesDir k fs args.where_.dir) :
    k.Consults (fun k => nfs3Symlink k env fs args res) args.where_.path :=
  nfs3Creation_consults names (by simp [Kernel.override, Kernel.answering, Os.call, succeeded])

/-- A removing procedure consults the name: it makes its call only if something is found there. -/
theorem nfs3Removal_consults {object : Diropargs3} {judgeMode : UInt32} (type : FileType)
    {unmake : Kernel σ → Path → Action (Os σ)}
    (passes : decide ((Stat.plain type 0).stMode &&& judgeMode ≠ 0) = true)
    (notes : ∀ k p, (unmake k p (.start fs)).2.calls ≠ []) (names : NamesDir k fs object.dir) :
    k.Consults (fun k => nfs3Removal k env fs object res judgeMode (unmake k)) object.path := by
  refine Kernel.consults_of_ne (k.finding (.ok (.plain type 0))) (k.finding (.error .enoent)) ?_
  intro same
  have seen := namesDir_overridden object (k.finding (.ok (.plain type 0))) names
  have unseen := namesDir_overridden object (k.finding (.error .enoent)) names
  -- Where nothing is found there are no calls, otherwise there is one.
  have states := congrArg (fun done => done.os.calls) same
  rw [nfs3Removal_missing res unseen (judgeFileExit_finding_none _ _)] at states
  have there : judgeFileExit (k.override (k.finding (.ok (.plain type 0))) object.path) fs
      object.path judgeMode = true := (judgeFileExit_finding type judgeMode).trans passes
  have noted := notes (k.override (k.finding (.ok (.plain type 0))) object.path) object.path
  rcases outcome : unmake (k.override (k.finding (.ok (.plain type 0))) object.path) object.path
    (.start fs) with ⟨_ | _, os⟩
  · rw [nfs3Removal_failed res seen there outcome] at states
    rw [outcome] at noted
    exact noted states
  · rw [nfs3Removal_made res seen there outcome] at states
    rw [outcome] at noted
    exact noted states

/-- REMOVE consults the name, at which it may find a file. -/
theorem nfs3Remove_consults {args : Remove3args} (names : NamesDir k fs (Diropargs3.dir args)) :
    k.Consults (fun k => nfs3Remove k env fs args res) (Diropargs3.path args) := by
  unfold nfs3Remove
  refine nfs3Removal_consults .reg (by decide) ?_ names
  simp

/-- RMDIR consults it, at which it may find a directory. -/
theorem nfs3Rmdir_consults {args : Rmdir3args} (names : NamesDir k fs (Diropargs3.dir args)) :
    k.Consults (fun k => nfs3Rmdir k env fs args res) (Diropargs3.path args) := by
  unfold nfs3Rmdir
  refine nfs3Removal_consults .dir (by decide) ?_ names
  simp

/-- Setting attributes forgets none of the calls noted before. -/
theorem nfsSetSattr3_suffix (k : Kernel σ) (stale : Timespec × Timespec) (os : Os σ)
    (filePath : Path) (newAttr : Sattr3) :
    os.calls <:+ (nfsSetSattr3 k stale os filePath newAttr).2.calls := by
  have mode : os.calls <:+ (setMode k os filePath newAttr).2.calls := by
    unfold setMode
    split
    · exact List.suffix_cons _ _
    · exact List.suffix_rfl
  have owner : ∀ os : Os σ, os.calls <:+ (setOwner k os filePath newAttr).2.calls := by
    intro os
    unfold setOwner
    split
    · exact List.suffix_cons _ _
    · exact List.suffix_rfl
  have times : ∀ (os : Os σ) (atime mtime : Timespec),
      os.calls <:+ (setTimes k os filePath atime mtime).2.calls := by
    intro os atime mtime
    unfold setTimes
    split <;> exact List.suffix_cons _ _
  unfold nfsSetSattr3
  -- Each call that is made follows those before it, and the first that fails ends it.
  rcases moded : setMode k os filePath newAttr with ⟨_ | _, os₁⟩ <;> rw [moded] at mode
  · exact mode
  · have owner := mode.trans (owner os₁)
    dsimp only
    rcases owned : setOwner k os₁ filePath newAttr with ⟨_ | _, os₂⟩ <;> rw [owned] at owner
    · exact owner
    · dsimp only
      rcases timeToSet stale.1 newAttr.atime with _ | ⟨setAtime, atime⟩
      · exact owner
      rcases timeToSet stale.2 newAttr.mtime with _ | ⟨setMtime, mtime⟩
      · exact owner
      dsimp only
      split
      · have times := owner.trans (times os₂ atime mtime)
        rcases timed : setTimes k os₂ filePath atime mtime with ⟨_ | _, os₃⟩ <;> rw [timed] at times
        · exact times
        · exact times
      · exact owner

/-- MKNOD consults the name of a node that it can make. -/
theorem nfs3Mknod_consults {args : Mknod3args} {mode : UInt32} {dev : UInt64} {newAttr : Sattr3}
    (ready : args.Ready k fs mode dev newAttr) :
    k.Consults (fun k => nfs3Mknod k env fs args res) args.where_.path := by
  -- The request is ready whatever the system does at the name.
  have readyFor : ∀ v, args.Ready (k.override v args.where_.path) fs mode dev newAttr := fun v =>
    ⟨namesDir_overridden args.where_ v ready.toNamesDir, ready.hasName, ready.node⟩
  have makes : ∀ result, (Os.start fs).call (fun _ => .mknod)
      ((k.override (k.answering result) args.where_.path).mknod args.path mode dev)
        = (result, ⟨fs, [⟨.mknod, succeeded result⟩]⟩) := by
    simp [Kernel.override, Kernel.answering, Os.call, Mknod3args.path, Os.start]
  refine Kernel.consults_of_ne (k.answering (.ok ())) (k.answering (.error .enoent)) ?_
  intro same
  -- The call that made the node stays noted, whatever else is set on it.
  have calls := congrArg (fun done => done.os.calls) same
  rw [nfs3Mknod_failed res (readyFor _) (makes _)] at calls
  let works := k.override (k.answering (.ok ())) args.where_.path
  have noted := nfsSetSattr3_suffix works env.staleTimes ⟨fs, [⟨.mknod, true⟩]⟩ args.path newAttr
  rcases sets : nfsSetSattr3 works env.staleTimes ⟨fs, [⟨.mknod, true⟩]⟩ args.path newAttr
    with ⟨status, after⟩
  have keeps : (nfs3Mknod works env fs args res).os = after := by
    by_cases success : status = .nfs3Ok
    · subst success
      simp only [works, nfs3Mknod_made res (readyFor _) (makes _) sets]
    · rw [nfs3Mknod_unset res (readyFor _) (makes _) sets success]
  rw [keeps] at calls
  rw [sets, calls] at noted
  have forgotten : ¬[(⟨.mknod, true⟩ : Call)] <:+ [⟨.mknod, false⟩] := by decide
  exact forgotten noted

/-- RENAME consults the first name, which is not moved if nothing is found there. -/
theorem nfs3Rename_consults {args : Rename3args} (names : NamesDir k fs args.fromDir.dir) :
    k.Consults (fun k => nfs3Rename k env fs args res) args.fromDir.path := by
  refine Kernel.consults_of_ne (k.finding (.ok (.plain .reg 0))) (k.finding (.error .enoent)) ?_
  intro same
  have seen := namesDir_overridden args.fromDir (k.finding (.ok (.plain .reg 0))) names
  have unseen := namesDir_overridden args.fromDir (k.finding (.error .enoent)) names
  have there : judgeFileExit (k.override (k.finding (.ok (.plain .reg 0))) args.fromDir.path) fs
      args.fromDir.path anyType = true := by
    rw [judgeFileExit_finding]
    decide
  -- Where it is found, the answer depends on the other directory, and is never the same.
  rw [nfs3Rename_missing res unseen (judgeFileExit_finding_none _ _)] at same
  by_cases unnamed : args.toDir.dir = []
  · rw [nfs3Rename_unnamed res seen there unnamed] at same
    cases same
  cases judged : judgeFileExit (k.override (k.finding (.ok (.plain .reg 0))) args.fromDir.path) fs
      (cstr args.toDir.dir) FileType.dir.bits with
  | false =>
    rw [nfs3Rename_other res seen there unnamed judged] at same
    have status := congrArg (fun done => done.res 0) (Option.some.inj same)
    simp only [Done.refuse, putStatus_zero] at status
    exact absurd status (by decide)
  | true =>
    obtain ⟨rc, moves⟩ := nfs3Rename_ready res ⟨seen, there, unnamed, judged⟩
    rw [moves] at same
    have calls := congrArg (fun done => done.os.calls) (Option.some.inj same)
    simp [Done.refuse, Os.start] at calls

/-- Standing in for another, it finds whatever that finds. -/
@[simp] theorem Kernel.override_answering_lstat (result : Except Errno Unit) (fs : σ) (p : Path) :
    (k.override (k.answering result) path).lstat fs p = k.lstat fs p := by
  by_cases here : p = path
  · exact if_pos here
  · exact if_neg here

/-- So it judges a path as the other does. -/
theorem judgeFileExit_answering (result : Except Errno Unit) (p : Path) (mask : UInt32) :
    judgeFileExit (k.override (k.answering result) path) fs p mask = judgeFileExit k fs p mask := by
  simp only [judgeFileExit, Kernel.override_answering_lstat]

/-- What names a directory still does. -/
theorem NamesDir.answering {dir : NfsFh3} (names : NamesDir k fs dir) (result : Except Errno Unit) :
    NamesDir (k.override (k.answering result) path) fs dir :=
  ⟨names.named, (judgeFileExit_answering result _ _).trans names.judged⟩

/-- The call that RENAME notes is the one that moves the name. -/
theorem nfs3Rename_calls {args : Rename3args} (ready : args.Ready k fs) :
    (nfs3Rename k env fs args res).map (·.os.calls)
      = some [⟨.rename, succeeded (args.move k fs).1⟩] := by
  obtain ⟨rc, serves⟩ := nfs3Rename_ready res ready
  rw [serves]
  simp only [Option.map_some, Os.start, Os.call_calls]

/-- RENAME consults the second name as well once it moves the first. -/
theorem nfs3Rename_consults_new {args : Rename3args} (ready : args.Ready k fs) :
    k.Consults (fun k => nfs3Rename k env fs args res) args.toDir.path := by
  -- Only the result of the call differs between the two systems.
  have readyFor : ∀ result : Except Errno Unit,
      args.Ready (k.override (k.answering result) args.toDir.path) fs := fun result =>
    ⟨ready.fromNames.answering result, (judgeFileExit_answering result _ _).trans ready.there,
      ready.toNames.answering result⟩
  have moves : ∀ result : Except Errno Unit,
      (args.move (k.override (k.answering result) args.toDir.path) fs).1 = result := by
    intro result
    simp [Rename3args.move, Kernel.override, Kernel.answering, Diropargs3.path]
  refine Kernel.consults_of_ne (k.answering (.ok ())) (k.answering (.error .enoent)) fun same => ?_
  have calls := congrArg (Option.map fun done => done.os.calls) same
  rw [nfs3Rename_calls (readyFor _), nfs3Rename_calls (readyFor _), moves, moves] at calls
  simp [succeeded] at calls

/-- The state that LINK leaves is that of the call that makes the link. -/
theorem nfs3Link_os {args : Link3args} (ready : args.Ready k fs) :
    (nfs3Link k env fs args res).os = ((Os.start fs).call (fun _ => .link) (args.make k)).2 := by
  rcases outcome : (Os.start fs).call (fun _ => .link) (args.make k) with ⟨_ | _, os⟩
  · rw [nfs3Link_failed res ready outcome]
  · obtain ⟨rc, serves⟩ := nfs3Link_made res ready outcome
    rw [serves]

/-- LINK consults the name of the new link. -/
theorem nfs3Link_consults {args : Link3args} (ready : args.Ready k fs) :
    k.Consults (fun k => nfs3Link k env fs args res) args.link.path := by
  have readyFor : ∀ result : Except Errno Unit,
      args.Ready (k.override (k.answering result) args.link.path) fs := fun result =>
    ⟨ready.toNamesDir.answering result, ready.fileNamed⟩
  have makes : ∀ result : Except Errno Unit,
      (Os.start fs).call (fun _ => .link)
          (args.make (k.override (k.answering result) args.link.path))
        = (result, ⟨fs, [⟨.link, succeeded result⟩]⟩) := by
    intro result
    simp [Kernel.override, Kernel.answering, Diropargs3.path, Os.call, Os.start]
  refine Kernel.consults_of_ne (k.answering (.ok ())) (k.answering (.error .enoent)) fun same => ?_
  have calls := congrArg (fun done => done.os.calls) same
  rw [nfs3Link_os (readyFor _), nfs3Link_os (readyFor _), makes, makes] at calls
  simp [succeeded] at calls

end Consulted

section Returned

variable {res : Mem} {p : Path} {address : UInt64}

/-- The handle that LOOKUP returns is the path it looked at. -/
theorem nfs3Lookup_stored {args : Lookup3args}
    (stored : (address, .chars p) ∈ (nfs3Lookup k env fs args res).stored) :
    NamesDir k fs args.dir ∧ p = Diropargs3.path args := by
  by_cases named : args.dir = []
  · simp [nfs3Lookup_unnamed res named, Done.refuse] at stored
  cases judged : judgeFileExit k fs (cstr args.dir) FileType.dir.bits with
  | false => simp [nfs3Lookup_other res named judged, Done.refuse] at stored
  | true =>
    obtain ⟨dir, foundDir⟩ := judged_lstat judged
    -- Only an object that is found is returned a handle for.
    cases there : judgeFileExit k fs args.path anyType with
    | false => simp [nfs3Lookup_missing res named judged foundDir there, Done.refuse] at stored
    | true =>
      obtain ⟨st, found⟩ := judged_lstat there
      simp only [nfs3Lookup_found res named judged foundDir there found, List.mem_singleton,
        Prod.mk.injEq, Block.chars.injEq] at stored
      exact ⟨⟨named, judged⟩, stored.2⟩

/-- The handle that a creating procedure returns is the path of its call. -/
theorem nfs3Creation_stored {where_ : Diropargs3} {failure : Nfsstat3} {make : Path → Action (Os σ)}
    (stored : (address, .chars p) ∈ (nfs3Creation k env fs where_ res failure make).stored) :
    NamesDir k fs where_.dir ∧ p = where_.path := by
  by_cases names : NamesDir k fs where_.dir
  · refine ⟨names, ?_⟩
    rcases outcome : make where_.path (.start fs) with ⟨_ | _, os⟩
    · simp [nfs3Creation_failed res names outcome, outfail] at stored
    · simp only [nfs3Creation_made res names outcome, List.mem_singleton, Prod.mk.injEq,
        Block.chars.injEq] at stored
      exact stored.2
  · obtain ⟨left, refused⟩ := checkDirHandle_of_not_names env res names
    simp [nfs3Creation_refused refused, Done.refuse] at stored

/-- The same for MKNOD. -/
theorem nfs3Mknod_stored {args : Mknod3args}
    (stored : (address, .chars p) ∈ (nfs3Mknod k env fs args res).stored) :
    (∃ mode dev newAttr, args.Ready k fs mode dev newAttr) ∧ p = args.where_.path := by
  by_cases named : args.where_.dir = []
  · simp [nfs3Mknod_unnamed res named, Done.refuse] at stored
  cases judged : judgeFileExit k fs (cstr args.where_.dir) FileType.dir.bits with
  | false => simp [nfs3Mknod_other res named judged, Done.refuse] at stored
  | true =>
    have names : NamesDir k fs args.where_.dir := ⟨named, judged⟩
    -- Only the last exit stores a handle.
    by_cases nameless : cstr args.where_.name = []
    · simp [nfs3Mknod_nameless res names nameless, Done.refuse] at stored
    cases node : args.what.node with
    | none => simp [nfs3Mknod_badtype res names nameless node, Done.refuse] at stored
    | some spec =>
      obtain ⟨mode, dev, newAttr⟩ := spec
      have ready : args.Ready k fs mode dev newAttr := ⟨names, nameless, node⟩
      refine ⟨⟨mode, dev, newAttr, ready⟩, ?_⟩
      rcases outcome : (Os.start fs).call (fun _ => .mknod) (k.mknod args.path mode dev)
        with ⟨_ | _, os⟩
      · simp [nfs3Mknod_failed res ready outcome] at stored
      rcases sets : nfsSetSattr3 k env.staleTimes os args.path newAttr with ⟨status, after⟩
      by_cases success : status = .nfs3Ok
      · subst success
        simp only [nfs3Mknod_made res ready outcome sets, List.mem_singleton, Prod.mk.injEq,
          Block.chars.injEq] at stored
        exact stored.2
      · simp [nfs3Mknod_unset res ready outcome sets success] at stored

/-- No other procedure returns a handle. -/
theorem nfs3Removal_stored {object : Diropargs3} {judgeMode : UInt32}
    {unmake : Path → Action (Os σ)} :
    (nfs3Removal k env fs object res judgeMode unmake).stored = [] := by
  unfold nfs3Removal
  split
  · rfl
  · dsimp only
    split
    · rfl
    · split <;> rfl

/-- RENAME returns none either. -/
theorem nfs3Rename_stored {args : Rename3args} {done : Done σ}
    (serves : nfs3Rename k env fs args res = some done) : done.stored = [] := by
  unfold nfs3Rename at serves
  -- Every exit is without one.
  split at serves
  · cases serves
    rfl
  · dsimp only at serves
    split at serves
    · cases serves
      rfl
    · split at serves
      · cases serves
      · split at serves <;> cases serves <;> rfl

/-- Nor does LINK. -/
theorem nfs3Link_stored {args : Link3args} : (nfs3Link k env fs args res).stored = [] := by
  unfold nfs3Link
  split
  · rfl
  · split
    · rfl
    · dsimp only
      split <;> rfl

end Returned

section Requests

/-- The requests that act on a name in a directory. -/
inductive EntryRequest where
  | lookup (args : Lookup3args)
  | create (args : Create3args)
  | mkdir (args : Mkdir3args)
  | symlink (args : Symlink3args)
  | mknod (args : Mknod3args)
  | remove (args : Remove3args)
  | rmdir (args : Rmdir3args)
  | rename (args : Rename3args)
  | link (args : Link3args)

namespace EntryRequest

/-- Serve the request on a system. -/
def run (env : Env) (fs : σ) (res : Mem) (request : EntryRequest) (k : Kernel σ) :
    Option (Done σ) :=
  match request with
  | lookup args => some (nfs3Lookup k env fs args res)
  | create args => some (nfs3Create k env fs args res)
  | mkdir args => some (nfs3Mkdir k env fs args res)
  | symlink args => some (nfs3Symlink k env fs args res)
  | mknod args => some (nfs3Mknod k env fs args res)
  | remove args => some (nfs3Remove k env fs args res)
  | rmdir args => some (nfs3Rmdir k env fs args res)
  | rename args => nfs3Rename k env fs args res
  | link args => some (nfs3Link k env fs args res)

/-- The paths of the handles in the request. -/
def handles : EntryRequest → List Path
  | lookup args => [cstr args.dir]
  | create args => [cstr args.where_.dir]
  | mkdir args => [cstr args.where_.dir]
  | symlink args => [cstr args.where_.dir]
  | mknod args => [cstr args.where_.dir]
  | remove args => [cstr (Diropargs3.dir args)]
  | rmdir args => [cstr (Diropargs3.dir args)]
  | rename args => [cstr args.fromDir.dir, cstr args.toDir.dir]
  | link args => [cstr args.link.dir, cstr args.file]

/-- The names in directories that the request gets to, past the checks before them. -/
def Reaches (k : Kernel σ) (fs : σ) : EntryRequest → Diropargs3 → Prop
  | lookup args, slot => slot = args ∧ NamesDir k fs args.dir
  | create args, slot => slot = args.where_ ∧ NamesDir k fs args.where_.dir
  | mkdir args, slot => slot = args.where_ ∧ NamesDir k fs args.where_.dir
  | symlink args, slot => slot = args.where_ ∧ NamesDir k fs args.where_.dir
  | mknod args, slot =>
    slot = args.where_ ∧ ∃ mode dev newAttr, args.Ready k fs mode dev newAttr
  | remove args, slot => slot = args ∧ NamesDir k fs (Diropargs3.dir args)
  | rmdir args, slot => slot = args ∧ NamesDir k fs (Diropargs3.dir args)
  | rename args, slot =>
    (slot = args.fromDir ∧ NamesDir k fs args.fromDir.dir) ∨ (slot = args.toDir ∧ args.Ready k fs)
  | link args, slot => slot = args.link ∧ args.Ready k fs

/-- Only CREATE opens the name, and an open goes on behind a link. -/
def opens : EntryRequest → Bool
  | create _ => true
  | _ => false

/-- A path that the request looks at or acts on, or returns a handle for. -/
def Touches (k : Kernel σ) (env : Env) (fs : σ) (res : Mem) (request : EntryRequest)
    (path : Path) : Prop :=
  k.Consults (request.run env fs res) path ∨
    ∃ done address, request.run env fs res k = some done ∧ (address, .chars path) ∈ done.stored

/-- Every name that a request gets to is touched. -/
theorem touches_of_reaches (request : EntryRequest) (res : Mem) {slot : Diropargs3}
    (reaches : request.Reaches k fs slot) : request.Touches k env fs res slot.path := by
  -- Only RENAME has two slots to reach.
  left
  cases request with
  | lookup args => exact reaches.1 ▸ (nfs3Lookup_consults reaches.2).some
  | create args => exact reaches.1 ▸ (nfs3Create_consults reaches.2).some
  | mkdir args => exact reaches.1 ▸ (nfs3Mkdir_consults reaches.2).some
  | symlink args => exact reaches.1 ▸ (nfs3Symlink_consults reaches.2).some
  | mknod args =>
    obtain ⟨rfl, mode, dev, newAttr, ready⟩ := reaches
    exact (nfs3Mknod_consults ready).some
  | remove args => exact reaches.1 ▸ (nfs3Remove_consults reaches.2).some
  | rmdir args => exact reaches.1 ▸ (nfs3Rmdir_consults reaches.2).some
  | rename args =>
    rcases reaches with ⟨rfl, names⟩ | ⟨rfl, ready⟩
    · exact nfs3Rename_consults names
    · exact nfs3Rename_consults_new ready
  | link args => exact reaches.1 ▸ (nfs3Link_consults reaches.2).some

/-- Nothing but the handles and those names is consulted. -/
theorem consults_only {request : EntryRequest} {res : Mem}
    (consults : k.Consults (request.run env fs res) path) :
    path ∈ request.handles ∨ ∃ slot, request.Reaches k fs slot ∧ path = slot.path := by
  by_contra elsewhere
  obtain ⟨v, differ⟩ := consults
  have apart : ∀ handle ∈ request.handles, handle ≠ path := by
    rintro _ mem rfl
    exact elsewhere (.inl mem)
  have away : ∀ slot, request.Reaches k fs slot → slot.path ≠ path := by
    rintro slot reaches rfl
    exact elsewhere (.inr ⟨slot, reaches, rfl⟩)
  -- Whatever the system does there, every procedure comes to the same.
  refine differ ?_
  cases request with
  | lookup args =>
    exact congrArg some (nfs3Lookup_override (apart _ (.head _))
      fun names => away args ⟨rfl, names⟩)
  | create args =>
    refine congrArg some (nfs3Creation_override (apart _ (.head _))
      (fun names => away _ ⟨rfl, names⟩) fun name => ?_)
    simp only [openAndClose, Kernel.override_openFile name]
    rfl
  | mkdir args =>
    refine congrArg some (nfs3Creation_override (apart _ (.head _))
      (fun names => away _ ⟨rfl, names⟩) fun name => ?_)
    simp only [Kernel.override_mkdir name]
  | symlink args =>
    refine congrArg some (nfs3Creation_override (apart _ (.head _))
      (fun names => away _ ⟨rfl, names⟩) fun name => ?_)
    simp only [Kernel.override_symlink name]
  | mknod args =>
    refine congrArg some (nfs3Mknod_override (apart _ (.head _)) fun mode dev newAttr ready => ?_)
    exact away _ ⟨rfl, mode, dev, newAttr, ready⟩
  | remove args =>
    refine congrArg some (nfs3Removal_override (apart _ (.head _))
      (fun names => away args ⟨rfl, names⟩) fun name => ?_)
    simp only [Kernel.override_remove name]
  | rmdir args =>
    refine congrArg some (nfs3Removal_override (apart _ (.head _))
      (fun names => away args ⟨rfl, names⟩) fun name => ?_)
    simp only [Kernel.override_rmdir name]
  | rename args =>
    exact nfs3Rename_override (apart _ (.head _)) (apart _ (.tail _ (.head _)))
      (fun names => away _ (.inl ⟨rfl, names⟩)) fun ready => away _ (.inr ⟨rfl, ready⟩)
  | link args =>
    exact congrArg some (nfs3Link_override (apart _ (.tail _ (.head _))) (apart _ (.head _))
      fun ready => away _ ⟨rfl, ready⟩)

/-- No handle is returned but for one of those names. -/
theorem returns_only {request : EntryRequest} {res : Mem} {done : Done σ} {address : UInt64}
    (serves : request.run env fs res k = some done)
    (stored : (address, .chars path) ∈ done.stored) :
    ∃ slot, request.Reaches k fs slot ∧ path = slot.path := by
  -- Those that return no handle have nothing stored.
  cases request with
  | lookup args =>
    cases serves
    obtain ⟨names, same⟩ := nfs3Lookup_stored stored
    exact ⟨args, ⟨rfl, names⟩, same⟩
  | create args | mkdir args | symlink args =>
    cases serves
    obtain ⟨names, same⟩ := nfs3Creation_stored stored
    exact ⟨args.where_, ⟨rfl, names⟩, same⟩
  | mknod args =>
    cases serves
    obtain ⟨ready, same⟩ := nfs3Mknod_stored stored
    exact ⟨args.where_, ⟨rfl, ready⟩, same⟩
  | remove args =>
    cases serves
    rw [nfs3Remove, nfs3Removal_stored] at stored
    cases stored
  | rmdir args =>
    cases serves
    rw [nfs3Rmdir, nfs3Removal_stored] at stored
    cases stored
  | rename args =>
    rw [nfs3Rename_stored serves] at stored
    cases stored
  | link args =>
    cases serves
    rw [nfs3Link_stored] at stored
    cases stored

/-- Nothing but the handles and those names is touched. -/
theorem touches_only {request : EntryRequest} {res : Mem}
    (touches : request.Touches k env fs res path) :
    path ∈ request.handles ∨ ∃ slot, request.Reaches k fs slot ∧ path = slot.path := by
  rcases touches with consults | ⟨done, address, serves, stored⟩
  · exact consults_only consults
  · exact .inr (returns_only serves stored)

variable {ν : Type}

/-- A name arrives at the entry of its directory that it is the name of, or at nothing. -/
def Inside (tree : PathTree ν) (opens : Bool) (slot : Diropargs3) : Prop :=
  ∀ dir, tree.Names (cstr slot.dir) dir →
    (∀ place, tree.place slot.path = some place → place = .entry dir (cstr slot.name)) ∧
    (opens = true →
      ∀ place, tree.openPlace slot.path = some place → place = .entry dir (cstr slot.name))

/-- The request touches nothing but its handles and entries of their directories. -/
structure Stays (k : Kernel σ) (env : Env) (fs : σ) (res : Mem) (tree : PathTree ν)
    (request : EntryRequest) : Prop where
  contained : ∀ path, request.Touches k env fs res path →
    path ∈ request.handles ∨ ∃ slot, request.Reaches k fs slot ∧ path = slot.path
  inside : ∀ slot, request.Reaches k fs slot → Inside tree request.opens slot

/-- A name that an entry can have and, where it is opened, is not that of a link. -/
def Safe (tree : PathTree ν) (opens : Bool) (slot : Diropargs3) : Prop :=
  ∀ dir, tree.Names (cstr slot.dir) dir →
    (PlainName (cstr slot.name) ∧ (opens = true → tree.Unlinked dir (cstr slot.name))) ∨
      tree.place slot.path = none

/-- Exactly such a name stays inside its directory. -/
theorem inside_iff_safe (tree : PathTree ν) (opens : Bool) (slot : Diropargs3) :
    Inside tree opens slot ↔ Safe tree opens slot := by
  refine forall_congr' fun dir => forall_congr' fun names => ?_
  -- What is opened must not lead on through a link.
  cases opens with
  | true =>
    have opened := names.openStays_iff (cstr slot.name)
    simpa [Diropargs3.path, childPath, slash] using opened
  | false =>
    have looked := names.stays_iff (cstr slot.name)
    simpa [Diropargs3.path, childPath, slash] using looked

end EntryRequest

end Requests

section Escape

/-- A system that resolves every path before it acts on it. -/
def Kernel.via (k : Kernel σ) (resolve : σ → Path → Path) : Kernel σ where
  lstat fs p := k.lstat fs (resolve fs p)
  statvfs fs p := k.statvfs fs (resolve fs p)
  readlink fs p := k.readlink fs (resolve fs p)
  scandir fs p := k.scandir fs (resolve fs p)
  openDirectory fs p := k.openDirectory fs (resolve fs p)
  lseek fs p := k.lseek fs (resolve fs p)
  getdents fs p := k.getdents fs (resolve fs p)
  openFile p mode fs := k.openFile (resolve fs p) mode fs
  close := k.close
  preadv := k.preadv
  pwritev := k.pwritev
  fsync := k.fsync
  chmod p mode fs := k.chmod (resolve fs p) mode fs
  chown p owner group fs := k.chown (resolve fs p) owner group fs
  utimes p times fs := k.utimes (resolve fs p) times fs
  mkdir p mode fs := k.mkdir (resolve fs p) mode fs
  symlink target p fs := k.symlink target (resolve fs p) fs
  mknod p mode dev fs := k.mknod (resolve fs p) mode dev fs
  remove p fs := k.remove (resolve fs p) fs
  rmdir p fs := k.rmdir (resolve fs p) fs
  rename src dst fs := k.rename (resolve fs src) (resolve fs dst) fs
  link src dst fs := k.link (resolve fs src) (resolve fs dst) fs

namespace MemFs

/-- The path of an object, given the names on the way to it. -/
def pathOf (names : List Bytes) : Path := names.flatMap (slash :: ·)

/-- What type of object there is, if any. -/
def typeAt (fs : MemFs) (names : List Bytes) : Option FileType :=
  if names = [] then some .dir else (fs.nodes.lookup (pathOf names)).map (·.type)

/-- The directories of a file system in memory, each known by the names on the way to it. -/
def tree (fs : MemFs) : PathTree (List Bytes) where
  root := []
  cwd := []
  entry dir name := (fs.typeAt (dir ++ [name])).map fun _ => dir ++ [name]
  parent := List.dropLast
  enter names := if fs.typeAt names = some .dir then some names else none
  isLink names := fs.typeAt names = some .lnk
  leads _ := none

/-- The path of what a path arrives at. -/
def resolve (fs : MemFs) (path : Path) : Path :=
  match fs.tree.place path with
  | some (.directory names) => pathOf names
  | some (.entry dir name) => pathOf (dir ++ [name])
  | none => []

/-- A directory, and a file beside it. -/
def demoBeside : MemFs := ⟨[(demoDir, .plain .dir 1), (demoPath, .plain .reg 2)], [], [], []⟩

end MemFs

/-- A request to remove a name that leads out of the directory. -/
def removeBeside : Remove3args := ⟨MemFs.demoDir, [0x2e, 0x2e, 0x2f, 0x66]⟩

end Escape

end Dnfs
