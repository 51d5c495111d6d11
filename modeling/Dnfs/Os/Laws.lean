import Dnfs.Os.Kernel

/-! What may be assumed of the calls: what they do to the bytes of files and the tree of names. -/

namespace Dnfs

variable {σ : Type}

/-- Bytes with new ones placed at an offset, and zeros up to there where there were none. -/
def splice (old : Bytes) (offset : Nat) (new : Bytes) : Bytes :=
  -- Placing nothing does not lengthen a file, however far out.
  if new = [] then old
  else
    old.take offset ++ List.replicate (offset - old.length) 0 ++ new ++
      old.drop (offset + new.length)

/--
A view of the bytes of every file that the calls respect.

Only writing changes bytes, and it changes those of one file.
-/
structure Contents (k : Kernel σ) where
  read : σ → Nat → Bytes
  openFile : ∀ path mode fs, read (k.openFile path mode fs).2 = read fs
  close : ∀ fd fs, read (k.close fd fs) = read fs
  fsync : ∀ fd fs, read (k.fsync fd fs).2 = read fs
  /-- A write that succeeds places the bytes it wrote. -/
  pwritev_ok : ∀ fd data offset fs count, (k.pwritev fd data offset fs).1 = .ok count →
    ∀ file, read (k.pwritev fd data offset fs).2 file =
      if file = fd.file then splice (read fs file) offset.toNat (data.take count) else read fs file
  /-- A write that fails changes nothing. -/
  pwritev_error : ∀ fd data offset fs errno, (k.pwritev fd data offset fs).1 = .error errno →
    read (k.pwritev fd data offset fs).2 = read fs

/--
A view of the tree of names, links and types that the calls respect.

Only the calls that make, remove or move names change the tree, and only if they succeed.
-/
structure Tree (k : Kernel σ) where
  View : Type
  view : σ → View
  openFile : ∀ path mode fs, succeeded (k.openFile path mode fs).1 = false →
    view (k.openFile path mode fs).2 = view fs
  mkdir : ∀ path mode fs, succeeded (k.mkdir path mode fs).1 = false →
    view (k.mkdir path mode fs).2 = view fs
  symlink : ∀ target path fs, succeeded (k.symlink target path fs).1 = false →
    view (k.symlink target path fs).2 = view fs
  mknod : ∀ path mode dev fs, succeeded (k.mknod path mode dev fs).1 = false →
    view (k.mknod path mode dev fs).2 = view fs
  remove : ∀ path fs, succeeded (k.remove path fs).1 = false → view (k.remove path fs).2 = view fs
  rmdir : ∀ path fs, succeeded (k.rmdir path fs).1 = false → view (k.rmdir path fs).2 = view fs
  rename : ∀ src dst fs, succeeded (k.rename src dst fs).1 = false →
    view (k.rename src dst fs).2 = view fs
  link : ∀ src dst fs, succeeded (k.link src dst fs).1 = false →
    view (k.link src dst fs).2 = view fs
  close : ∀ fd fs, view (k.close fd fs) = view fs

end Dnfs
