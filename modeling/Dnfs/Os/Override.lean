import Dnfs.Os.Kernel

/-! Which paths a program consults: those at which another behaviour of the system shows. -/

namespace Dnfs

variable {σ α : Type}

/-- A system that behaves like another one at a single path. -/
def Kernel.override (k v : Kernel σ) (path : Path) : Kernel σ where
  lstat fs p := if p = path then v.lstat fs p else k.lstat fs p
  statvfs fs p := if p = path then v.statvfs fs p else k.statvfs fs p
  readlink fs p := if p = path then v.readlink fs p else k.readlink fs p
  scandir fs p := if p = path then v.scandir fs p else k.scandir fs p
  openDirectory fs p := if p = path then v.openDirectory fs p else k.openDirectory fs p
  lseek fs p := if p = path then v.lseek fs p else k.lseek fs p
  getdents fs p := if p = path then v.getdents fs p else k.getdents fs p
  openFile p := if p = path then v.openFile p else k.openFile p
  close := k.close
  preadv := k.preadv
  pwritev := k.pwritev
  fsync := k.fsync
  chmod p := if p = path then v.chmod p else k.chmod p
  chown p := if p = path then v.chown p else k.chown p
  utimes p := if p = path then v.utimes p else k.utimes p
  mkdir p := if p = path then v.mkdir p else k.mkdir p
  symlink target p := if p = path then v.symlink target p else k.symlink target p
  mknod p := if p = path then v.mknod p else k.mknod p
  remove p := if p = path then v.remove p else k.remove p
  rmdir p := if p = path then v.rmdir p else k.rmdir p
  -- A call with two paths is made at both of them.
  rename src dst := if src = path ∨ dst = path then v.rename src dst else k.rename src dst
  link src dst := if src = path ∨ dst = path then v.link src dst else k.link src dst

/-- A path is consulted if what the system does there can make a difference. -/
def Kernel.Consults (k : Kernel σ) (run : Kernel σ → α) (path : Path) : Prop :=
  ∃ v : Kernel σ, run (k.override v path) ≠ run k

/-- Two behaviours that can be told apart cannot both be the one there is. -/
theorem Kernel.consults_of_ne {k : Kernel σ} {run : Kernel σ → α} {path : Path} (v w : Kernel σ)
    (differ : run (k.override v path) ≠ run (k.override w path)) : k.Consults run path := by
  by_cases same : run (k.override v path) = run k
  · exact ⟨w, fun other => differ (same.trans other.symm)⟩
  · exact ⟨v, same⟩

/-- What is consulted for an outcome is consulted for an outcome that is there. -/
theorem Kernel.Consults.some {k : Kernel σ} {run : Kernel σ → α} {path : Path}
    (consults : k.Consults run path) : k.Consults (fun k => Option.some (run k)) path := by
  obtain ⟨v, differ⟩ := consults
  exact ⟨v, fun same => differ (Option.some.inj same)⟩

section Elsewhere

variable {k v : Kernel σ} {path p : Path} (elsewhere : p ≠ path)

include elsewhere

/-- At another path it finds what the other system finds. -/
@[simp] theorem Kernel.override_lstat (fs : σ) :
    (k.override v path).lstat fs p = k.lstat fs p := if_neg elsewhere

/-- It opens as that one does. -/
@[simp] theorem Kernel.override_openFile : (k.override v path).openFile p = k.openFile p :=
  if_neg elsewhere

/-- It sets modes as that one does. -/
@[simp] theorem Kernel.override_chmod : (k.override v path).chmod p = k.chmod p := if_neg elsewhere

/-- It sets owners as that one does. -/
@[simp] theorem Kernel.override_chown : (k.override v path).chown p = k.chown p := if_neg elsewhere

/-- It sets times as that one does. -/
@[simp] theorem Kernel.override_utimes : (k.override v path).utimes p = k.utimes p :=
  if_neg elsewhere

/-- It makes directories as that one does. -/
@[simp] theorem Kernel.override_mkdir : (k.override v path).mkdir p = k.mkdir p := if_neg elsewhere

/-- It makes links as that one does. -/
@[simp] theorem Kernel.override_symlink (target : Bytes) :
    (k.override v path).symlink target p = k.symlink target p := if_neg elsewhere

/-- It makes nodes as that one does. -/
@[simp] theorem Kernel.override_mknod : (k.override v path).mknod p = k.mknod p := if_neg elsewhere

/-- It removes files as that one does. -/
@[simp] theorem Kernel.override_remove : (k.override v path).remove p = k.remove p :=
  if_neg elsewhere

/-- It removes directories as that one does. -/
@[simp] theorem Kernel.override_rmdir : (k.override v path).rmdir p = k.rmdir p := if_neg elsewhere

variable {q : Path} (other : q ≠ path)

include other

/-- It moves names as that one does if neither is at the path. -/
@[simp] theorem Kernel.override_rename : (k.override v path).rename p q = k.rename p q :=
  if_neg (by simp [elsewhere, other])

/-- It links names as that one does if neither is at the path. -/
@[simp] theorem Kernel.override_link : (k.override v path).link p q = k.link p q :=
  if_neg (by simp [elsewhere, other])

end Elsewhere

end Dnfs
