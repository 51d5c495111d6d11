import Dnfs.File.FsalHandle
import Dnfs.Nfs.Results
import Dnfs.Nfs.UtilsLaws

/-! The server between requests, and what serving one request leaves behind. -/

namespace Dnfs

/-- The translation units that each have a write verifier of their own under one name. -/
inductive TranslationUnit where
  | dnfsInit | nfsWrite | nfsCommit
  deriving DecidableEq, Repr

/-- What the server keeps from one request to the next. -/
structure Server (σ : Type) where
  fs : σ
  handleMap : HandleMap
  /-- The verifier is a static variable of a header, so every unit has a copy. -/
  nfs3WriteVerifier : TranslationUnit → UInt64

/-- A server whose static variables are all still zero. -/
def Server.load {σ : Type} (fs : σ) : Server σ := ⟨fs, .empty, fun _ => 0⟩

/-- Initialization builds the verifier from the epoch, in the copy of its own unit. -/
def dnfsInitSvc {σ : Type} (nfsServerEpoch : UInt64) (server : Server σ) : Server σ :=
  { server with
    nfs3WriteVerifier := fun unit =>
      if unit = .dnfsInit then nfsServerEpoch else server.nfs3WriteVerifier unit }

/-- What serving a request depends on besides the server and the file system. -/
structure Env where
  around : Surroundings
  /-- Where the next allocations of the request will lie. -/
  address : Nat → UInt64
  /-- No allocation lies at the null pointer. -/
  address_ne_zero : ∀ i, address i ≠ 0
  /-- What memory holds elsewhere. -/
  heap : Heap
  /-- What the nodes of a listing hold before they are written to. -/
  node : Nat → Mem
  /-- The bytes behind the target of a link. -/
  targetTail : Bytes
  /-- What the stack held in place of the times to set. -/
  staleTimes : Timespec × Timespec
  /-- The largest listing the configuration allows. -/
  readdirResSize : UInt32
  /-- The most entries the configuration allows in one listing. -/
  readdirMaxCount : UInt32

/-- Surroundings with nothing of note in them, and listing sizes of the default configuration. -/
instance : Inhabited Env where
  default :=
    { around := ⟨[], []⟩
      address := fun i => UInt64.ofNat (i % 2 ^ 32 + 1)
      address_ne_zero := by
        intro i zero
        have value := congrArg UInt64.toNat zero
        simp only [UInt64.toNat_ofNat', UInt64.toNat_zero] at value
        omega
      heap := fun _ => .chars []
      node := fun _ => Mem.zero
      targetTail := []
      staleTimes := default
      readdirResSize := 64 * 1024 * 1024
      readdirMaxCount := 1024 * 1024 }

/-- What serving one request leaves behind. -/
structure Served (σ : Type) where
  rc : NfsReqResult
  server : Server σ
  /-- The calls made meanwhile, newest first. -/
  calls : List Call
  res : Mem
  /-- The blocks the result points to, by their addresses. -/
  stored : List (UInt64 × Block)

section Serving

variable {σ : Type}

/-- What serving a request leaves behind when all it touches of the server is the file system. -/
structure Done (σ : Type) where
  rc : NfsReqResult
  os : Os σ
  res : Mem
  stored : List (UInt64 × Block)

/-- The file system as a request finds it, before any call. -/
def Os.start (fs : σ) : Os σ := ⟨fs, []⟩

/-- A request is done without a single call. -/
def Done.refuse (fs : σ) (rc : NfsReqResult) (res : Mem) : Done σ := ⟨rc, .start fs, res, []⟩

/-- A request is done, and touched nothing but the file system. -/
def Server.done (server : Server σ) (done : Done σ) : Served σ where
  rc := done.rc
  server := { server with fs := done.os.fs }
  calls := done.os.calls
  res := done.res
  stored := done.stored

/-- A request is done without a single call. -/
def Server.refuse (server : Server σ) (rc : NfsReqResult) (res : Mem) : Served σ :=
  server.done (.refuse server.fs rc res)

/-- The file system as a request finds it, before any call. -/
def Server.os (server : Server σ) : Os σ := .start server.fs

/-- Store a status. -/
def putStatus (res : Mem) (status : Nfsstat3) : Mem := res.put 0 status.code

/-- Store a status that a helper returned beside the memory it wrote. -/
def putReturned (returned : Nfsstat3 × Mem) : Mem := putStatus returned.2 returned.1

/-- Store a handle at its place in a result: its length, and where its bytes were put. -/
def setFileHandle (env : Env) (res : Mem) (at_ : Nat) (filePath : Path) : Mem :=
  (res.put at_ (UInt32.ofNat filePath.length)).putU64 (at_ + 2) (env.address 0)

/-- The result code of a request all of whose closing examinations have to succeed. -/
def rcOf (statuses : List Nfsstat3) : NfsReqResult :=
  if ∀ status ∈ statuses, status = .nfs3Ok then .nfsReqOk else .nfsReqError

/-- A mask that every type of object passes. -/
def anyType : UInt32 :=
  FileType.dir.bits ||| FileType.chr.bits ||| FileType.reg.bits ||| FileType.lnk.bits |||
    FileType.fifo.bits ||| FileType.blk.bits ||| FileType.sock.bits

/-- What the result of a served request points to. -/
def Served.heap (env : Env) (served : Served σ) : Heap := env.heap.over served.stored

/-- The status stored last is the status found. -/
@[simp] theorem putStatus_zero (res : Mem) (status : Nfsstat3) :
    putStatus res status 0 = status.code := by
  simp [putStatus]

/-- Of two statuses the later one counts. -/
@[simp] theorem putStatus_putStatus (res : Mem) (first second : Nfsstat3) :
    putStatus (putStatus res first) second = putStatus res second := by
  funext i
  by_cases status : i = 0 <;> simp [putStatus, status]

/-- A status leaves everything behind it alone. -/
theorem putStatus_agree (res : Mem) (status : Nfsstat3) {start count : Nat} (behind : 0 < start) :
    (putStatus res status).Agree res start count :=
  Mem.agree_put res (.inl behind)

end Serving

end Dnfs
