import Dnfs.Nfs.Utils
import Mathlib.Data.List.TakeWhile

/-! What the shared helpers do, said once for every handler that calls them. -/

namespace Dnfs

variable {σ : Type}

section Modes

/-- Permission bits have nothing in common with a mask above them. -/
private theorem perm_and_mask {perm mask : Nat} (small : perm < 2 ^ 12) (high : mask % 2 ^ 12 = 0) :
    perm &&& mask = 0 := by
  -- Below bit twelve the mask is clear, and from there on the permissions are.
  apply Nat.eq_of_testBit_eq
  intro i
  rw [Nat.testBit_and, Nat.zero_testBit]
  by_cases low : i < 12
  · have clear : mask.testBit i = false := by
      have whole : (mask % 2 ^ 12).testBit i = mask.testBit i := by
        rw [Nat.testBit_mod_two_pow]
        simp [low]
      rw [← whole, high, Nat.zero_testBit]
    rw [clear, Bool.and_false]
  · have clear : perm.testBit i = false := by
      apply Nat.testBit_lt_two_pow
      exact Nat.lt_of_lt_of_le small (Nat.pow_le_pow_right (by decide) (by omega))
    rw [clear, Bool.false_and]

/-- A mask above the permissions sees only the type. -/
theorem stMode_and (st : Stat) {mask : UInt32} (high : mask.toNat % 2 ^ 12 = 0) :
    st.stMode &&& mask = st.type.bits &&& mask := by
  have fits : (st.perm : Nat) < UInt32.size := Nat.lt_trans st.perm.isLt (by decide)
  apply UInt32.toNat_inj.mp
  rw [Stat.stMode, UInt32.toNat_and, UInt32.toNat_or, UInt32.toNat_ofNat_of_lt' fits,
    Nat.and_or_distrib_right, perm_and_mask st.perm.isLt high, Nat.or_zero, UInt32.toNat_and]

/-- The protocol's name for a type. -/
def FileType.ftype3 : FileType → Ftype3
  | fifo => .nf3fifo
  | chr => .nf3chr
  | dir => .nf3dir
  | blk => .nf3blk
  | reg => .nf3reg
  | lnk => .nf3lnk
  | sock => .nf3sock

/-- The type of an object is always recognized. -/
theorem ftype3OfMode_stMode (st : Stat) : ftype3OfMode st.stMode = some st.type.ftype3 := by
  have kind : st.stMode &&& sIfmt = st.type.bits &&& sIfmt := stMode_and st (by decide)
  rw [ftype3OfMode, kind]
  cases st.type <;> decide

/-- A test for a type passes every type that shares a bit with it. -/
theorem judgeFileExit_iff {k : Kernel σ} {fs : σ} {path : Path} {mask : UInt32}
    (high : mask.toNat % 2 ^ 12 = 0) :
    judgeFileExit k fs path mask = true ↔
      ∃ st, k.lstat fs path = .ok st ∧ st.type.bits &&& mask ≠ 0 := by
  rw [judgeFileExit]
  cases k.lstat fs path with
  | error errno => simp
  | ok st => simp [stMode_and st high]

end Modes

section Examining

variable {at_ start count : Nat} {k : Kernel σ} {fs : σ} {path : Path} {errno : Errno}
  {m preAttr : Mem} {st : Stat}

/-- The attributes reported for an object, given what the device numbers held before. -/
def Stat.fattr3 (st : Stat) (rdev : Specdata3) : Fattr3 where
  type := st.type.ftype3.code
  mode := st.stMode &&& 0o777
  nlink := st.stNlink.toUInt32
  uid := st.stUid
  gid := st.stGid
  size := st.stSize
  used := st.stBlocks * 512
  -- Only a device overwrites them.
  rdev := if st.type.isDevice then ⟨major st.stRdev, minor st.stRdev⟩ else rdev
  fsid := fsidOf st.stDev
  fileid := st.stIno
  atime := ⟨st.stAtim.tvSec.toUInt32, st.stAtim.tvNsec.toUInt32⟩
  mtime := ⟨st.stMtim.tvSec.toUInt32, st.stMtim.tvNsec.toUInt32⟩
  ctime := ⟨st.stCtim.tvSec.toUInt32, st.stCtim.tvNsec.toUInt32⟩

/-- The part of the attributes that is kept from before an operation. -/
def Stat.wccAttr (st : Stat) : WccAttr where
  size := st.stSize
  mtime := ⟨st.stMtim.tvSec.toUInt32, st.stMtim.tvNsec.toUInt32⟩
  ctime := ⟨st.stCtim.tvSec.toUInt32, st.stCtim.tvNsec.toUInt32⟩

/-- Stored attributes read back as they were, but for device numbers never stored. -/
theorem loadFattr3_storeFattr3 (m : Mem) (at_ : Nat) (st : Stat) :
    loadFattr3 (storeFattr3 m at_ st.type.ftype3 st) at_ = st.fattr3 (loadSpec m (at_ + 10)) := by
  cases device : st.type.isDevice
  · simp [loadFattr3, storeFattr3, storeTime, Stat.fattr3, loadSpec, loadTime, Mem.getU64, device,
      Nat.add_assoc]
  · simp [loadFattr3, storeFattr3, storeTime, Stat.fattr3, loadSpec, loadTime, Mem.getU64, device,
      Nat.add_assoc]

/-- Storing attributes touches nothing outside them. -/
theorem storeFattr3_agree (m : Mem) (type : Ftype3) (st : Stat)
    (outside : at_ + 22 ≤ start ∨ start + count ≤ at_) :
    (storeFattr3 m at_ type st).Agree m start count := by
  intro i low high
  have miss : ∀ j, j < 22 → i ≠ at_ + j := by omega
  have missStart : i ≠ at_ := by omega
  cases device : st.type.isDevice
  · simp [storeFattr3, storeTime, device, miss, missStart, Nat.add_assoc]
  · simp [storeFattr3, storeTime, device, miss, missStart, Nat.add_assoc]

/-- No failure is reported as success. -/
@[simp] theorem Errno.status_ne_ok (errno : Errno) : errno.status ≠ .nfs3Ok := by
  cases errno <;> simp [Errno.status]

/-- Attributes stored behind a true discriminant. -/
def attrStored (st : Stat) (m : Mem) (at_ : Nat) : Mem :=
  (storeFattr3 m (at_ + 2) st.type.ftype3 st).put at_ 1

/-- An object that cannot be examined leaves memory as it was. -/
theorem nfsSetPostOpAttr_error (missing : k.lstat fs path = .error errno) :
    nfsSetPostOpAttr k fs path m at_ = (errno.status, m) := by
  simp only [nfsSetPostOpAttr, missing]

/-- An object that can be examined has its attributes stored. -/
theorem nfsSetPostOpAttr_ok (found : k.lstat fs path = .ok st) :
    nfsSetPostOpAttr k fs path m at_ = (.nfs3Ok, attrStored st m at_) := by
  simp only [nfsSetPostOpAttr, found, ftype3OfMode_stMode, attrStored]

/-- Stored attributes read back, but for device numbers never stored. -/
theorem loadPostOpAttr_attrStored (st : Stat) (m : Mem) (at_ : Nat) :
    loadPostOpAttr (attrStored st m at_) at_
      = .present (st.fattr3 (loadSpec m (at_ + 12))) := by
  have arm : loadFattr3 (attrStored st m at_) (at_ + 2)
      = st.fattr3 (loadSpec m (at_ + 12)) := by
    rw [attrStored, loadFattr3_congr (Mem.agree_put _ (by omega)), loadFattr3_storeFattr3,
      Nat.add_assoc]
  have follows : attrStored st m at_ at_ = 1 := by simp [attrStored]
  rw [loadPostOpAttr, arm, follows]
  rfl

/-- Storing attributes touches nothing outside them. -/
theorem attrStored_agree (st : Stat) (m : Mem) (outside : at_ + 24 ≤ start ∨ start + count ≤ at_) :
    (attrStored st m at_).Agree m start count :=
  (Mem.agree_put _ (by omega)).trans (storeFattr3_agree m _ st (by omega))

/-- What is kept of an object from before an operation. -/
def preStored (st : Stat) (preAttr : Mem) : Mem :=
  let getA := attrStored st Mem.zero 0
  (((preAttr.put 0 1).copy 2 getA 8 2).copy 6 getA 22 2).copy 4 getA 20 2

/-- An object that cannot be examined before an operation leaves nothing to keep. -/
theorem getPreOpAttr_error (missing : k.lstat fs path = .error errno) :
    getPreOpAttr k fs path preAttr = (errno.status, preAttr) := by
  simp only [getPreOpAttr, nfsSetPostOpAttr_error missing]
  cases errno <;> rfl

/-- An object that can be examined before an operation is kept. -/
theorem getPreOpAttr_ok (found : k.lstat fs path = .ok st) :
    getPreOpAttr k fs path preAttr = (.nfs3Ok, preStored st preAttr) := by
  simp only [getPreOpAttr, nfsSetPostOpAttr_ok found]
  rfl

/-- What is kept reads back as the size and the two times. -/
theorem loadWccAttr_preStored (st : Stat) (preAttr : Mem) :
    loadWccAttr (preStored st preAttr) 2 = st.wccAttr := by
  have fields := loadFattr3_storeFattr3 Mem.zero 2 st
  simp only [loadFattr3, Stat.fattr3, Fattr3.mk.injEq] at fields
  obtain ⟨_, _, _, _, _, size, _, _, _, _, _, mtime, ctime⟩ := fields
  simp only [loadWccAttr, Stat.wccAttr, WccAttr.mk.injEq]
  refine ⟨?_, ?_, ?_⟩
  · rw [← size]
    simp [Mem.getU64, preStored, attrStored]
  · rw [← mtime]
    simp [loadTime, preStored, attrStored]
  · rw [← ctime]
    simp [loadTime, preStored, attrStored]

/-- What is kept is marked as there. -/
theorem loadPreOpAttr_preStored (st : Stat) (preAttr : Mem) :
    loadPreOpAttr (preStored st preAttr) 0 = .present st.wccAttr := by
  have follows : preStored st preAttr 0 = 1 := by simp [preStored]
  rw [loadPreOpAttr, loadWccAttr_preStored, follows]
  rfl

/-- What an object was, and what it is, stored side by side. -/
def wccStored (st : Stat) (preAttr m : Mem) (at_ : Nat) : Mem :=
  (m.copy at_ preAttr 0 8).copy (at_ + 8) (attrStored st Mem.zero 0) 0 24

/-- An object that cannot be examined after an operation leaves memory as it was. -/
theorem getWccData_error (missing : k.lstat fs path = .error errno) :
    getWccData k fs path preAttr m at_ = (errno.status, m) := by
  simp only [getWccData, nfsSetPostOpAttr_error missing]
  cases errno <;> rfl

/-- An object that can be examined after an operation is stored beside what it was. -/
theorem getWccData_ok (found : k.lstat fs path = .ok st) :
    getWccData k fs path preAttr m at_ = (.nfs3Ok, wccStored st preAttr m at_) := by
  simp only [getWccData, nfsSetPostOpAttr_ok found]
  rfl

/-- Everything stored this way reads back, and nothing of it was in memory before. -/
theorem loadWccData_wccStored (st : Stat) (preAttr m : Mem) (at_ : Nat) :
    loadWccData (wccStored st preAttr m at_) at_
      = ⟨loadPreOpAttr preAttr 0, .present (st.fattr3 ⟨0, 0⟩)⟩ := by
  have before : loadPreOpAttr (wccStored st preAttr m at_) at_ = loadPreOpAttr preAttr 0 := by
    rw [wccStored, loadPreOpAttr_congr (Mem.agree_copy _ _ (by omega)), loadPreOpAttr_copy]
  have after : loadPostOpAttr (wccStored st preAttr m at_) (at_ + 8)
      = .present (st.fattr3 ⟨0, 0⟩) := by
    rw [wccStored, loadPostOpAttr_copy, loadPostOpAttr_attrStored]
    rfl
  rw [loadWccData, before, after]

/-- Storing both touches nothing outside them. -/
theorem wccStored_agree (st : Stat) (preAttr m : Mem)
    (outside : at_ + 32 ≤ start ∨ start + count ≤ at_) :
    (wccStored st preAttr m at_).Agree m start count :=
  (Mem.agree_copy _ _ (by omega)).trans (Mem.agree_copy _ _ (by omega))

end Examining

section Handles

/-- A C string ends at its first NUL, whatever lies behind. -/
theorem cstr_append_nul {chars : Bytes} (nulFree : 0 ∉ chars) (rest : Bytes) :
    cstr (chars ++ 0 :: rest) = chars := by
  rw [cstr, List.takeWhile_append_of_pos]
  · simp
  · intro c mem
    simpa using fun zero : c = 0 => nulFree (zero ▸ mem)

/--
A rebuilt handle names the path its own bytes spell up to the first NUL.

Neither the bytes behind the handle nor those behind the string object are ever part of it.
-/
@[simp] theorem handlePath_eq (around : Surroundings) (handle : NfsFh3) :
    handlePath around handle = cstr handle := by
  by_cases nul : 0 ∈ handle
  · -- Reading stops at the NUL within the handle, and the copy keeps that NUL.
    obtain ⟨chars, rest, rfl, nulFree⟩ := List.eq_append_cons_of_mem nul
    have read : cstr (chars ++ 0 :: rest ++ around.handleTail) = chars := by
      rw [List.append_assoc]
      exact cstr_append_nul nulFree _
    have taken : ∀ tail : Bytes, (chars ++ 0 :: tail).take (chars ++ 0 :: rest).length
        = chars ++ 0 :: tail.take rest.length := by
      intro tail
      simp [List.take_append, List.take_of_length_le]
    rw [handlePath, getFileHandle, read, List.append_assoc, List.cons_append, taken,
      List.append_assoc, List.cons_append, cstr_append_nul nulFree, cstr_append_nul nulFree]
  · -- Reading runs past the handle, and the copy is cut back to it.
    have read : cstr (handle ++ around.handleTail) = handle ++ cstr around.handleTail := by
      rw [cstr, List.takeWhile_append_of_pos, cstr]
      intro c mem
      simpa using fun zero : c = 0 => nul (zero ▸ mem)
    rw [handlePath, getFileHandle, read, List.append_assoc, List.append_assoc, List.take_left,
      cstr_append_nul nul, cstr_eq_self nul]

end Handles

end Dnfs
