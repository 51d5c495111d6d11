import Dnfs.Nfs.Examine

/-! The procedures that list directories. -/

namespace Dnfs

variable {σ : Type}

section Readdir

/-- The chain of entries, where nobody sets the cookies. -/
def readdirChain (env : Env) : Nat → List Dirent → List EntryNode
  | _, [] => []
  | i, dirent :: rest =>
    ⟨env.address i, ⟨dirent.dIno, dirent.dName, (env.node i).getU64 4⟩⟩ ::
      readdirChain env (i + 1) rest

/-- What a chain of entries stores. -/
def storedEntries : List EntryNode → List (UInt64 × Block)
  | [] => []
  | first :: rest => (first.node, .entries (first :: rest)) :: storedEntries rest

/--
Serve READDIR, which always lists the whole directory.

The verifier is never set. The pointer of the first node is left to a head that nobody cleared,
so a directory without a single record gives whatever the head held.
-/
def nfs3Readdir (k : Kernel σ) (env : Env) (fs : σ) (args : Readdir3args) (res : Mem) : Done σ :=
  match examineHandle k env fs args.dir (res.putU64 28 0) with
  | .error res => .refuse fs .nfsReqError res
  | .ok res =>
    if res 4 ≠ Ftype3.nf3dir.code then .refuse fs .nfsReqOk (putStatus res .nfs3errNotdir)
    else
      match k.scandir fs (handlePath env.around args.dir) with
      | .error _ => .refuse fs .nfsReqError (putStatus res .nfs3errBadhandle)
      | .ok namelist =>
        -- Node zero is the head.
        let chain := readdirChain env 1 namelist
        let entries := match chain with
          | [] => (env.node 0).getU64 6
          | first :: _ => first.node
        .mk .nfsReqOk (.start fs) ((res.putU64 28 entries).put 30 1) (storedEntries chain)

end Readdir

section Readdirplus

/-- The names of a directory itself and of its parent, which get neither handle nor attributes. -/
def isDot (name : Bytes) : Bool := name = [0x2e] ∨ name = [0x2e, 0x2e]

/-- The node of one record, unless its object cannot be examined. -/
def entryplusNode (k : Kernel σ) (env : Env) (fs : σ) (dirPath : Path) (i : Nat) (dirent : Dirent) :
    Option EntryplusNode :=
  let node := env.node i
  let nameVal := env.address (3 * i + 1)
  if isDot dirent.dName then
    some ⟨env.address (3 * i), nameVal, node.getU64 34,
      ⟨dirent.dIno, dirent.dName, dirent.dOff, .absent, .absent⟩⟩
  else
    let filePath := childPath dirPath dirent.dName
    match nfsSetPostOpAttr k fs filePath node 6 with
    | (.nfs3Ok, node) =>
      some ⟨env.address (3 * i), nameVal, env.address (3 * i + 2),
        ⟨dirent.dIno, dirent.dName, dirent.dOff, loadPostOpAttr node 6, .present filePath⟩⟩
    | _ => none

/-- The bounds of one listing. -/
structure PageLimits where
  maxEntryCount : Nat
  memAvail : UInt64
  deriving DecidableEq, Repr

/-- The bounds a request and the configuration agree on. -/
def Readdirplus3args.limits (env : Env) (args : Readdirplus3args) : PageLimits where
  maxEntryCount := (min args.dircount env.readdirMaxCount).toNat
  memAvail :=
    let maxResSize := min env.readdirResSize args.maxcount
    -- Two units are taken off as a short integer, which wraps, and the rest as a long one.
    min (64 * 1024 * 1024) ((maxResSize - 4 - 4).toUInt64 - 88 - 8)

/-- Whether a listing of some length is full, where every entry counts as much as a pointer. -/
def PageLimits.full (limits : PageLimits) (entryCount : Nat) : Bool :=
  entryCount ≥ limits.maxEntryCount ∨ 8 * entryCount + 4 ≥ limits.memAvail.toNat

/-- The largest position. -/
def longMax : UInt64 := 0x7fffffffffffffff

/-- What reading some records came to, along with the nodes so far. -/
inductive PageStep where
  /-- The records are used up, or the rest of them is skipped. -/
  | more (nodes : List EntryplusNode)
  /-- The listing is full. -/
  | page (nodes : List EntryplusNode)
  /-- Some object could not be examined. -/
  | unexamined

/-- Read the records of one buffer. -/
def readBuffer (k : Kernel σ) (env : Env) (fs : σ) (dirPath : Path) (limits : PageLimits) :
    List EntryplusNode → List Dirent → PageStep
  | nodes, [] => .more nodes
  | nodes, dirent :: rest =>
    match entryplusNode k env fs dirPath nodes.length dirent with
    | none => .unexamined
    | some node =>
      let nodes := nodes ++ [node]
      if limits.full nodes.length then
        -- This leaves the buffer but not the loop around it.
        if node.entry.cookie = longMax then .more nodes else .page nodes
      else readBuffer k env fs dirPath limits nodes rest

/-- What reading a directory came to. -/
inductive PageResult where
  | listed (nodes : List EntryplusNode) (eof : Bool)
  | unexamined
  | unreadable

/-- Read one buffer after another. -/
def readBuffers (k : Kernel σ) (env : Env) (fs : σ) (dirPath : Path) (limits : PageLimits) :
    List EntryplusNode → List (Except Errno (List Dirent)) → PageResult
  | nodes, [] => .listed nodes true
  | _, .error _ :: _ => .unreadable
  | nodes, .ok [] :: _ => .listed nodes true
  | nodes, .ok (dirent :: rest) :: buffers =>
    match readBuffer k env fs dirPath limits nodes (dirent :: rest) with
    | .more nodes => readBuffers k env fs dirPath limits nodes buffers
    | .page nodes => .listed nodes false
    | .unexamined => .unexamined

/-- What a chain of entries with attributes stores. -/
def storedEntriesplus : List EntryplusNode → List (UInt64 × Block)
  | [] => []
  | first :: rest =>
    (first.node, .entriesplus (first :: rest)) :: (first.nameVal, .chars first.entry.name) ::
      -- A handle that does not follow was not stored either.
      (if first.entry.nameHandle.discriminant ≠ 0 then
        [(first.handleVal, .chars (first.entry.nameHandle.armD []))] else []) ++
      storedEntriesplus rest

/-- The nanoseconds of a stored time. -/
def timespecToNsecs (ctime : Nfstime3) : UInt64 :=
  ctime.tvSec.toUInt64 * 1000000000 + ctime.tvNsec.toUInt64

/-- The position a cookie stands for: those up to two stand for the beginning. -/
def seekPosition (beginCookie : UInt64) : UInt64 := if beginCookie > 2 then beginCookie else 0

/-- Serve READDIRPLUS. -/
def nfs3Readdirplus (k : Kernel σ) (env : Env) (fs : σ) (args : Readdirplus3args)
    (res : Mem) : Done σ :=
  match examineHandle k env fs args.dir ((res.putU64 28 0).put 30 0) with
  | .error res => .refuse fs .nfsReqError res
  | .ok res =>
    let dirPath := handlePath env.around args.dir
    let cookieVerifier := timespecToNsecs (loadTime res 24)
    if res 4 ≠ Ftype3.nf3dir.code then .refuse fs .nfsReqOk (putStatus res .nfs3errNotdir)
    else if args.cookie ≠ 0 ∧ cookieVerifier ≠ args.cookieverf then
      .refuse fs .nfsReqOk (putStatus res .nfs3errBadCookie)
    else
      let cookie := seekPosition args.cookie
      let badhandle := .refuse fs .nfsReqError (putStatus res .nfs3errBadhandle)
      match k.openDirectory fs dirPath, k.lseek fs dirPath cookie with
      | .ok _, .ok _ =>
        match readBuffers k env fs dirPath (args.limits env) []
          (k.getdents fs dirPath cookie) with
        | .unreadable => badhandle
        -- The status still says that all went well, with no entries and no verifier.
        | .unexamined => .refuse fs .nfsReqError res
        | .listed nodes eof =>
          let res := if eof then res.put 30 1 else res
          let entries := match nodes with
            | [] => 0
            | first :: _ => first.node
          .mk .nfsReqOk (.start fs) ((res.putU64 28 entries).putU64 26 cookieVerifier)
            (storedEntriesplus nodes)
      | _, _ => badhandle

end Readdirplus

end Dnfs
