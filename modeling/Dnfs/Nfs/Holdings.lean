import Dnfs.Nfs.WriteLaws
import Dnfs.Run.Trace

/-! Whether WRITE gives back what it counts and reserves on a file. -/

namespace Dnfs

variable {σ : Type}

section Request

/-- A request gets as far as the file, and then its write or its flush fails. -/
def WriteFails (k : Kernel σ) (server : Server σ) (args : Write3args) : Prop :=
  args.Reaches k server.fs ∧ (writeAttempt k server args).1.leaks = true

instance (k : Kernel σ) (server : Server σ) (args : Write3args) :
    Decidable (WriteFails k server args) :=
  inferInstanceAs (Decidable (_ ∧ _))

/-- A count raised by one is another count. -/
theorem heldMore_ne (held : Int32 × FsalShare) : heldMore held ≠ held := by
  intro same
  have count : held.1 + 1 = held.1 := congrArg Prod.fst same
  simp at count

/-- A WRITE leaves what its path has counted and reserved as it was, unless it fails. -/
theorem nfs3Write_held (k : Kernel σ) (env : Env) (server : Server σ) (args : Write3args)
    (res : Mem) :
    (nfs3Write k env server args res).server.handleMap.held (cstr args.file) =
      if WriteFails k server args then heldMore (server.handleMap.held (cstr args.file))
      else server.handleMap.held (cstr args.file) := by
  by_cases reaches : args.Reaches k server.fs
  · have served := nfs3Write_served env res reaches
    rw [served.held, WriteOutcome.holds]
    simp [WriteFails, reaches]
  · -- A request that is stopped before the file touches nothing.
    rw [(nfs3Write_stopped reaches).1, if_neg fun fails => reaches fails.1]

/-- A WRITE touches no path but its own. -/
theorem nfs3Write_others (k : Kernel σ) (env : Env) (server : Server σ) (args : Write3args)
    (res : Mem) {other : Path} (distinct : other ≠ cstr args.file) :
    (nfs3Write k env server args res).server.handleMap.held other
      = server.handleMap.held other := by
  by_cases reaches : args.Reaches k server.fs
  · have served := nfs3Write_served env res reaches
    rw [HandleMap.held, HandleMap.held, served.others other distinct]
  · rw [(nfs3Write_stopped reaches).1]

end Request

section Runs

/-- A WRITE that was served, and the server that it found. -/
structure WriteEvent (σ : Type) where
  before : Server σ
  args : Write3args

/-- Serving one WRITE after another, each from whatever memory its result is given. -/
def WriteStep (k : Kernel σ) (server : Server σ) (event : WriteEvent σ) (after : Server σ) : Prop :=
  ∃ env args res, event = ⟨server, args⟩ ∧ after = (nfs3Write k env server args res).server

/-- How many requests on a path had their write or their flush fail. -/
def failures (k : Kernel σ) (path : Path) (past : List (WriteEvent σ)) : Nat :=
  past.countP fun event => cstr event.args.file = path ∧ WriteFails k event.before event.args

/-- What a path has counted and reserved after so many requests kept what they took. -/
def heldAfter (count : Nat) : Int32 × FsalShare :=
  (Int32.ofNat count, { FsalShare.zero with shareAccessWrite := UInt32.ofNat count })

/-- One more failure is one more counted and reserved. -/
theorem heldAfter_succ (count : Nat) : heldAfter (count + 1) = heldMore (heldAfter count) := by
  rw [heldAfter, Int32.ofNat_add, UInt32.ofNat_add]
  rfl

/-- In every run a path has counted and reserved as much as requests on it failed. -/
theorem held_of_run {k : Kernel σ} {start server : Server σ} {past : List (WriteEvent σ)}
    (fresh : start.handleMap = .empty) (run : Run (WriteStep k) start past server) (path : Path) :
    server.handleMap.held path = heldAfter (failures k path past) := by
  revert path
  refine run.invariant (fun past server => ∀ path, server.handleMap.held path
    = heldAfter (failures k path past)) ?_ ?_
  · intro path
    rw [HandleMap.held, fresh]
    rfl
  · -- The path of the new request may change, every other path stays.
    rintro past server event after counted ⟨env, args, res, rfl, rfl⟩ path
    by_cases same : path = cstr args.file
    · subst same
      rw [nfs3Write_held, counted]
      by_cases fails : WriteFails k server args
      · simp [failures, fails, heldAfter_succ]
      · simp [failures, fails]
    · rw [nfs3Write_others k env server args res same, counted]
      simp [failures, Ne.symm same]

/-- After so many failures the work counted is zero exactly if it has wrapped around to it. -/
theorem heldAfter_ioWork (count : Nat) : (heldAfter count).1 = 0 ↔ 2 ^ 32 ∣ count := by
  have value : (heldAfter count).1 = 0 ↔ count % 2 ^ 32 = 0 := by
    rw [← Int32.toBitVec_inj, ← BitVec.toNat_inj]
    simp [heldAfter]
  rw [value]
  exact Nat.dvd_iff_mod_eq_zero.symm

/-- After so many failures the writers counted are zero exactly if they have wrapped around. -/
theorem heldAfter_shareAccessWrite (count : Nat) :
    (heldAfter count).2.shareAccessWrite = 0 ↔ 2 ^ 32 ∣ count := by
  have value : (heldAfter count).2.shareAccessWrite = 0 ↔ count % 2 ^ 32 = 0 := by
    rw [← UInt32.toNat_inj]
    simp [heldAfter]
  rw [value]
  exact Nat.dvd_iff_mod_eq_zero.symm

/--
WRITE gives back what it took exactly if neither its write nor its flush fails.

Over a run the failures add up, and a path has nothing counted and reserved exactly if their number
is a multiple of what the counters wrap around at.
-/
theorem write_gives_back_iff {k : Kernel σ} {epoch : UInt64} {fs : σ} {server : Server σ}
    {past : List (WriteEvent σ)}
    (run : Run (WriteStep k) (dnfsInitSvc epoch (Server.load fs)) past server) :
    (∀ (env : Env) (before : Server σ) (args : Write3args) (res : Mem),
      (nfs3Write k env before args res).server.handleMap.held (cstr args.file)
          = before.handleMap.held (cstr args.file) ↔ ¬WriteFails k before args) ∧
      ∀ path, ((server.handleMap.held path).1 = 0 ∧
          (server.handleMap.held path).2.shareAccessWrite = 0) ↔
        2 ^ 32 ∣ failures k path past := by
  constructor
  · intro env before args res
    rw [nfs3Write_held]
    by_cases fails : WriteFails k before args
    · simpa [fails] using heldMore_ne _
    · simp [fails]
  · intro path
    rw [held_of_run rfl run, heldAfter_ioWork, heldAfter_shareAccessWrite, and_self]

/-- A server on a file system that cannot be written to. -/
def unwritable : Server MemFs := dnfsInitSvc 1 (Server.load (MemFs.demo [.pwritev]))

/-- One write that fails leaves one at work and one writer behind. -/
theorem write_keeps_after_failure :
    (nfs3Write memKernel default unwritable (demoWrite .unstable) Mem.zero).server.handleMap.held
        MemFs.demoPath = (1, { FsalShare.zero with shareAccessWrite := 1 }) ∧
      unwritable.handleMap.held MemFs.demoPath = (0, .zero) := by
  decide

/-- After one write that fails the path has something counted and reserved. -/
theorem write_gives_back_unwritable :
    ∃ (event : WriteEvent MemFs) (server : Server MemFs),
      Run (WriteStep memKernel) unwritable [event] server ∧
        ¬((server.handleMap.held MemFs.demoPath).1 = 0 ∧
          (server.handleMap.held MemFs.demoPath).2.shareAccessWrite = 0) := by
  have run : Run (WriteStep memKernel) unwritable [⟨unwritable, demoWrite .unstable⟩]
      (nfs3Write memKernel default unwritable (demoWrite .unstable) Mem.zero).server :=
    .cons .nil ⟨default, demoWrite .unstable, Mem.zero, rfl, rfl⟩
  refine ⟨_, _, run, ?_⟩
  rw [(write_gives_back_iff run).2]
  decide

end Runs

end Dnfs
