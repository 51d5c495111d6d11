import Dnfs.Nfs.Examine

/-! What the procedures that only look leave in their results, exit by exit. -/

namespace Dnfs

variable {σ : Type} {k : Kernel σ} {env : Env} {fs : σ}

section Handles

variable {handle : NfsFh3} {st : Stat} {errno : Errno}

/-- An empty handle is refused without a status. -/
theorem examineHandle_unnamed (res : Mem) (unnamed : handle = []) :
    examineHandle k env fs handle res = .error res := by
  simp only [examineHandle, unnamed, List.length_nil, if_true]

/-- An object that cannot be examined is refused, with no attributes marked. -/
theorem examineHandle_missing (res : Mem) (named : handle ≠ [])
    (missing : k.lstat fs (cstr handle) = .error errno) :
    examineHandle k env fs handle res = .error (putStatus (res.put 2 0) errno.status) := by
  simp only [examineHandle, List.length_eq_zero_iff, named, if_false, handlePath_eq,
    nfsSetPostOpAttr_error missing]
  cases errno <;> rfl

/-- What a result holds once an object was examined in place. -/
def examinedInPlace (st : Stat) (res : Mem) : Mem := putStatus (attrStored st res 2) .nfs3Ok

/-- Attributes are marked whether or not they were unmarked before. -/
theorem attrStored_unmarked (st : Stat) (res : Mem) :
    attrStored st (res.put 2 0) 2 = attrStored st res 2 := by
  funext i
  by_cases marker : i = 2
  · simp [attrStored, marker]
  · cases device : st.type.isDevice <;>
      simp [attrStored, storeFattr3, storeTime, device, marker]

/-- An object that can be examined has its attributes stored in place. -/
theorem examineHandle_found (res : Mem) (named : handle ≠ [])
    (found : k.lstat fs (cstr handle) = .ok st) :
    examineHandle k env fs handle res = .ok (examinedInPlace st res) := by
  simp only [examineHandle, List.length_eq_zero_iff, named, if_false, handlePath_eq,
    nfsSetPostOpAttr_ok found, attrStored_unmarked]
  rfl

/-- Nothing but the status and the attributes is touched. -/
theorem examinedInPlace_agree (st : Stat) (res : Mem) {start count : Nat} (behind : 26 ≤ start) :
    (examinedInPlace st res).Agree res start count :=
  (putStatus_agree _ _ (by omega)).trans (attrStored_agree st _ (by omega))

/-- Attributes stored in place keep device numbers that were there before. -/
theorem loadPostOpAttr_examinedInPlace (st : Stat) (res : Mem) :
    loadPostOpAttr (examinedInPlace st res) 2 = .present (st.fattr3 (loadSpec res 14)) := by
  rw [examinedInPlace, loadPostOpAttr_congr (putStatus_agree _ _ (by decide)),
    loadPostOpAttr_attrStored]

/-- The attributes themselves, behind their discriminant. -/
theorem loadFattr3_examinedInPlace (st : Stat) (res : Mem) :
    loadFattr3 (examinedInPlace st res) 4 = st.fattr3 (loadSpec res 14) := by
  have follows : examinedInPlace st res 2 = 1 := by simp [examinedInPlace, putStatus, attrStored]
  have whole := loadPostOpAttr_examinedInPlace st res
  rw [loadPostOpAttr, follows] at whole
  simpa [loadUnion] using whole

/-- The type is read back from its word. -/
theorem examinedInPlace_type (st : Stat) (res : Mem) :
    examinedInPlace st res 4 = st.type.ftype3.code :=
  congrArg Fattr3.type (loadFattr3_examinedInPlace st res)

/-- Only a directory has the type of one. -/
theorem FileType.code_eq_dir {type : FileType} :
    type.ftype3.code = Ftype3.nf3dir.code ↔ type = .dir := by
  cases type <;> decide

/-- Only a regular file has the type of one. -/
theorem FileType.code_eq_reg {type : FileType} :
    type.ftype3.code = Ftype3.nf3reg.code ↔ type = .reg := by
  cases type <;> decide

end Handles

section Attributes

variable {st : Stat} (res : Mem)

/-- GETATTR shows what it examined. -/
theorem nfs3Getattr_found {args : Getattr3args} (named : args ≠ [])
    (found : k.lstat fs (cstr args) = .ok st) :
    nfs3Getattr k env fs args res = .refuse fs .nfsReqOk
      ((putStatus res .nfs3Ok).copy 2 (attrStored st Mem.zero 0) 2 22) := by
  simp only [nfs3Getattr, List.length_eq_zero_iff, named, if_false, handlePath_eq,
    nfsSetPostOpAttr_ok found]

end Attributes

section Names

variable (res : Mem)

/-- LOOKUP refuses an empty handle. -/
theorem nfs3Lookup_unnamed {args : Lookup3args} (unnamed : args.dir = []) :
    nfs3Lookup k env fs args res = .refuse fs .nfsReqError res := by
  simp only [nfs3Lookup, unnamed, List.length_nil, if_true]

/-- LOOKUP refuses what is no directory. -/
theorem nfs3Lookup_other {args : Lookup3args} (named : args.dir ≠ [])
    (other : judgeFileExit k fs (cstr args.dir) FileType.dir.bits = false) :
    nfs3Lookup k env fs args res = .refuse fs .nfsReqError (putStatus res .nfs3errNotdir) := by
  simp only [nfs3Lookup, List.length_eq_zero_iff, named, if_false, handlePath_eq, other,
    Bool.false_eq_true, not_false_eq_true, if_true]

/-- A name that is not there leaves the attributes of its directory. -/
theorem nfs3Lookup_missing {args : Lookup3args} {dir : Stat} (named : args.dir ≠ [])
    (judged : judgeFileExit k fs (cstr args.dir) FileType.dir.bits = true)
    (foundDir : k.lstat fs (cstr args.dir) = .ok dir)
    (missing : judgeFileExit k fs args.path anyType = false) :
    nfs3Lookup k env fs args res = .refuse fs .nfsReqError
      (attrStored dir (putStatus res .nfs3errNoent) 2) := by
  simp only [nfs3Lookup, List.length_eq_zero_iff, named, if_false, handlePath_eq, judged, missing,
    Bool.false_eq_true, not_false_eq_true, not_true_eq_false, if_true,
    nfsSetPostOpAttr_ok foundDir]

/-- A name that is there leaves the attributes of both, and a handle. -/
theorem nfs3Lookup_found {args : Lookup3args} {dir st : Stat} (named : args.dir ≠ [])
    (judged : judgeFileExit k fs (cstr args.dir) FileType.dir.bits = true)
    (foundDir : k.lstat fs (cstr args.dir) = .ok dir)
    (there : judgeFileExit k fs args.path anyType = true)
    (found : k.lstat fs args.path = .ok st) :
    nfs3Lookup k env fs args res =
      let filePath := args.path
      ⟨.nfsReqOk, .start fs,
        putStatus (attrStored st (putStatus
          (attrStored dir (setFileHandle env res 2 filePath) 30) .nfs3Ok) 6) .nfs3Ok,
        [(env.address 0, .chars filePath)]⟩ := by
  simp only [nfs3Lookup, List.length_eq_zero_iff, named, if_false, handlePath_eq, judged, there,
    not_true_eq_false, nfsSetPostOpAttr_ok foundDir, nfsSetPostOpAttr_ok found]
  rfl

/-- READLINK refuses what is no link. -/
theorem nfs3Readlink_other {args : Readlink3args} (named : args ≠ [])
    (other : judgeFileExit k fs (cstr args) FileType.lnk.bits = false) :
    nfs3Readlink k env fs args res = .refuse fs .nfsReqError (putStatus res .nfs3errNoent) := by
  simp only [nfs3Readlink, List.length_eq_zero_iff, named, if_false, handlePath_eq, other,
    Bool.false_eq_true, not_false_eq_true, if_true]

/-- READLINK hands out its buffer even if nothing was read into it. -/
theorem nfs3Readlink_unreadable {args : Readlink3args} {st : Stat} {errno : Errno}
    (named : args ≠ []) (judged : judgeFileExit k fs (cstr args) FileType.lnk.bits = true)
    (found : k.lstat fs (cstr args) = .ok st)
    (fails : k.readlink fs (cstr args) ((attrStored st Mem.zero 0).getU64 8) = .error errno) :
    nfs3Readlink k env fs args res =
      ⟨.nfsReqError, .start fs,
        (putStatus ((putStatus res .nfs3Ok).putU64 26 (env.address 0)) .nfs3errIo).copy 2
          (attrStored st Mem.zero 0) 0 24,
        [(env.address 0, .chars (cstr env.targetTail))]⟩ := by
  simp only [nfs3Readlink, List.length_eq_zero_iff, named, if_false, handlePath_eq, judged,
    not_true_eq_false, nfsSetPostOpAttr_ok found, fails]

/-- The target of a link ends wherever the memory behind it does. -/
theorem nfs3Readlink_read {args : Readlink3args} {st : Stat} {target : Bytes}
    (named : args ≠ []) (judged : judgeFileExit k fs (cstr args) FileType.lnk.bits = true)
    (found : k.lstat fs (cstr args) = .ok st)
    (reads : k.readlink fs (cstr args) ((attrStored st Mem.zero 0).getU64 8) = .ok target) :
    nfs3Readlink k env fs args res =
      ⟨.nfsReqOk, .start fs,
        ((putStatus res .nfs3Ok).putU64 26 (env.address 0)).copy 2 (attrStored st Mem.zero 0) 0 24,
        [(env.address 0, .chars (cstr (target ++ env.targetTail)))]⟩ := by
  simp only [nfs3Readlink, List.length_eq_zero_iff, named, if_false, handlePath_eq, judged,
    not_true_eq_false, nfsSetPostOpAttr_ok found, reads]

end Names

section Reading

variable {args : Read3args} {st : Stat} (res : Mem)

/-- What READ stores before it looks at anything. -/
def readCleared (res : Mem) : Mem :=
  putStatus (((((res.put 2 0).put 27 0).put 26 0).putU64 30 0).put 28 0) .nfs3Ok

/-- The size is read back from its words. -/
theorem examinedInPlace_size (st : Stat) (res : Mem) :
    (examinedInPlace st res).getU64 10 = st.stSize :=
  congrArg Fattr3.size (loadFattr3_examinedInPlace st res)

/-- A regular file is examined, and then it is read. -/
theorem nfs3Read_past (named : args.file ≠ []) (found : k.lstat fs (cstr args.file) = .ok st)
    (isReg : st.type = .reg) :
    nfs3Read k env fs args res
      = readRegular k env fs args (cstr args.file) (examinedInPlace st (readCleared res)) := by
  have start : putStatus (((((res.put 2 0).put 27 0).put 26 0).putU64 30 0).put 28 0) .nfs3Ok
      = readCleared res := rfl
  have examined : putStatus (attrStored st (readCleared res) 2) .nfs3Ok
      = examinedInPlace st (readCleared res) := rfl
  simp only [nfs3Read, start, List.length_eq_zero_iff, named, if_false, handlePath_eq,
    nfsSetPostOpAttr_ok found, examined, examinedInPlace_type, FileType.code_eq_reg.mpr isReg,
    ne_eq, not_true_eq_false]

end Reading

end Dnfs
