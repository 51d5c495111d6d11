import Dnfs.Nfs.Layout

/-! Results as the encoder and the free functions find them: words, and what pointers lead to. -/

namespace Dnfs

section Heap

/-- A node of a listing without attributes, and where it lies. -/
structure EntryNode where
  node : UInt64
  entry : Entry3
  deriving DecidableEq, Repr

/-- The entry of a node, whose name ends at its first NUL. -/
def EntryNode.seen (entryNode : EntryNode) : Entry3 :=
  { entryNode.entry with name := cstr entryNode.entry.name }

/-- A node of a listing with attributes, and where it, its name and its handle lie. -/
structure EntryplusNode where
  node : UInt64
  nameVal : UInt64
  handleVal : UInt64
  entry : Entryplus3
  deriving DecidableEq, Repr

/-- What memory holds from an address on. -/
inductive Block where
  /-- Characters. -/
  | chars (bytes : Bytes)
  /-- A chain of entries, from one of its nodes on. -/
  | entries (chain : List EntryNode)
  /-- A chain of entries with attributes, from one of its nodes on. -/
  | entriesplus (chain : List EntryplusNode)
  deriving DecidableEq, Repr

/-- Memory behind pointers. -/
abbrev Heap := UInt64 → Block

/-- The characters at an address. -/
def Heap.chars (heap : Heap) (address : UInt64) : Bytes :=
  match heap address with
  | .chars bytes => bytes
  | _ => []

/-- The chain of entries at an address, which is empty at a null pointer. -/
def Heap.entries (heap : Heap) (address : UInt64) : List EntryNode :=
  if address = 0 then []
  else
    match heap address with
    | .entries chain => chain
    | _ => []

/-- The chain of entries with attributes at an address, which is empty at a null pointer. -/
def Heap.entriesplus (heap : Heap) (address : UInt64) : List EntryplusNode :=
  if address = 0 then []
  else
    match heap address with
    | .entriesplus chain => chain
    | _ => []

/-- Memory after some blocks were stored in it, where the first mention of an address counts. -/
def Heap.over (heap : Heap) (stored : List (UInt64 × Block)) : Heap := fun address =>
  (stored.lookup address).getD (heap address)

/-- With nothing stored memory is what it was. -/
@[simp] theorem Heap.over_nil (heap : Heap) : heap.over [] = heap := rfl

/-- The block stored first is found at its address. -/
@[simp] theorem Heap.over_head (heap : Heap) (address : UInt64) (block : Block)
    (stored : List (UInt64 × Block)) : heap.over ((address, block) :: stored) address = block := by
  simp [Heap.over]

end Heap

section Results

variable (heap : Heap) (m : Mem)

/-- A result that is switched on the status in its first word. -/
def loadStatus {α β : Type} (status : UInt32) (resok : α) (resfail : β) : StatusUnion α β :=
  if zero : status = 0 then .ok resok else .fail status zero resfail

/-- A result succeeded when its status is zero, and then holds the success arm. -/
theorem loadStatus_eq_ok {α β : Type} {status : UInt32} {resok ok : α} {resfail : β} :
    loadStatus status resok resfail = .ok ok ↔ status = 0 ∧ resok = ok := by
  unfold loadStatus
  by_cases zero : status = 0 <;> simp [zero]

/-- A handle: its length, and a pointer to its bytes. -/
def loadFh3 (at_ : Nat) : NfsFh3 := runOf (m at_) (heap.chars (m.getU64 (at_ + 2)))

/-- A handle that may follow, two words behind its discriminant. -/
def loadPostOpFh3 (at_ : Nat) : PostOpFh3 := loadUnion (m at_) (loadFh3 heap m (at_ + 2))

/-- A result that only holds attributes from before and after. -/
def loadWcc3res : Wcc3res := loadStatus (m 0) (loadWccData m 2) (loadWccData m 2)

/-- GETATTR: a failure holds nothing but its status. -/
def loadGetattr3res : Getattr3res := loadStatus (m 0) (loadFattr3 m 2) ()

/-- What LOOKUP found, and the directory it looked in. -/
def loadLookup3resok : Lookup3resok where
  object := loadFh3 heap m 2
  objAttributes := loadPostOpAttr m 6
  dirAttributes := loadPostOpAttr m 30

/-- LOOKUP: a failure still shows the directory. -/
def loadLookup3res : Lookup3res :=
  loadStatus (m 0) (loadLookup3resok heap m) (loadPostOpAttr m 2)

/-- ACCESS: the access that is granted stands behind the attributes. -/
def loadAccess3res : Access3res :=
  loadStatus (m 0) ⟨loadPostOpAttr m 2, m 26⟩ (loadPostOpAttr m 2)

/-- READLINK: a pointer to the path of the link. -/
def loadReadlink3res : Readlink3res :=
  loadStatus (m 0) ⟨loadPostOpAttr m 2, heap.chars (m.getU64 26)⟩ (loadPostOpAttr m 2)

/-- What READ read: its data are a length and a pointer. -/
def loadRead3resok : Read3resok where
  fileAttributes := loadPostOpAttr m 2
  count := m 26
  eof := m 27
  data := runOf (m 28) (heap.chars (m.getU64 30))

/-- READ: a failure still shows the file. -/
def loadRead3res : Read3res := loadStatus (m 0) (loadRead3resok heap m) (loadPostOpAttr m 2)

/-- What WRITE wrote, how it was committed, and the verifier. -/
def loadWrite3resok : Write3resok where
  fileWcc := loadWccData m 2
  count := m 34
  committed := m 35
  verf := m.getU64 36

/-- WRITE: a failure shows the file before and after. -/
def loadWrite3res : Write3res := loadStatus (m 0) (loadWrite3resok m) (loadWccData m 2)

/-- What was made: a handle, its attributes and its directory. -/
def loadCreation3resok : Creation3resok where
  obj := loadPostOpFh3 heap m 2
  objAttributes := loadPostOpAttr m 8
  dirWcc := loadWccData m 32

/-- CREATE, MKDIR, SYMLINK and MKNOD: a failure shows the directory. -/
def loadCreation3res : Creation3res :=
  loadStatus (m 0) (loadCreation3resok heap m) (loadWccData m 2)

/-- The two directories of RENAME. -/
def loadRename3resok : Rename3resok := ⟨loadWccData m 2, loadWccData m 34⟩

/-- RENAME: both arms have one layout. -/
def loadRename3res : Rename3res := loadStatus (m 0) (loadRename3resok m) (loadRename3resok m)

/-- The file of LINK and its new directory. -/
def loadLink3resok : Link3resok := ⟨loadPostOpAttr m 2, loadWccData m 26⟩

/-- LINK: both arms have one layout. -/
def loadLink3res : Link3res := loadStatus (m 0) (loadLink3resok m) (loadLink3resok m)

/-- A listing: a chain of entries and whether it ends. -/
def loadReaddir3resok : Readdir3resok where
  dirAttributes := loadPostOpAttr m 2
  cookieverf := m.getU64 26
  reply := ⟨(heap.entries (m.getU64 28)).map (·.seen), m 30⟩

/-- READDIR: a failure still shows the directory. -/
def loadReaddir3res : Readdir3res :=
  loadStatus (m 0) (loadReaddir3resok heap m) (loadPostOpAttr m 2)

/-- A listing whose entries have attributes and handles. -/
def loadReaddirplus3resok : Readdirplus3resok where
  dirAttributes := loadPostOpAttr m 2
  cookieverf := m.getU64 26
  reply := ⟨(heap.entriesplus (m.getU64 28)).map (·.entry), m 30⟩

/-- READDIRPLUS: a failure still shows the directory. -/
def loadReaddirplus3res : Readdirplus3res :=
  loadStatus (m 0) (loadReaddirplus3resok heap m) (loadPostOpAttr m 2)

/-- The space and the files of a file system. -/
def loadFsstat3resok : Fsstat3resok where
  objAttributes := loadPostOpAttr m 2
  tbytes := m.getU64 26
  fbytes := m.getU64 28
  abytes := m.getU64 30
  tfiles := m.getU64 32
  ffiles := m.getU64 34
  afiles := m.getU64 36
  invarsec := m 38

/-- FSSTAT: a failure still shows the object. -/
def loadFsstat3res : Fsstat3res := loadStatus (m 0) (loadFsstat3resok m) (loadPostOpAttr m 2)

/-- The sizes the server takes. -/
def loadFsinfo3resok : Fsinfo3resok where
  objAttributes := loadPostOpAttr m 2
  rtmax := m 26
  rtpref := m 27
  rtmult := m 28
  wtmax := m 29
  wtpref := m 30
  wtmult := m 31
  dtpref := m 32
  -- A word of padding stands before the long integer.
  maxfilesize := m.getU64 34
  timeDelta := loadTime m 36
  properties := m 38

/-- FSINFO: a failure still shows the object. -/
def loadFsinfo3res : Fsinfo3res := loadStatus (m 0) (loadFsinfo3resok m) (loadPostOpAttr m 2)

/-- What the server does with names. -/
def loadPathconf3resok : Pathconf3resok where
  objAttributes := loadPostOpAttr m 2
  linkmax := m 26
  nameMax := m 27
  noTrunc := m 28
  chownRestricted := m 29
  caseInsensitive := m 30
  casePreserving := m 31

/-- PATHCONF: a failure still shows the object. -/
def loadPathconf3res : Pathconf3res :=
  loadStatus (m 0) (loadPathconf3resok m) (loadPostOpAttr m 2)

/-- The file of COMMIT, and the verifier. -/
def loadCommit3resok : Commit3resok := ⟨loadWccData m 2, m.getU64 34⟩

/-- COMMIT: a failure shows the file before and after. -/
def loadCommit3res : Commit3res := loadStatus (m 0) (loadCommit3resok m) (loadWccData m 2)

/-- The result of a procedure, as its encoder reads it. -/
def Proc.load : (p : Proc) → p.Res
  | null => ()
  | getattr => loadGetattr3res m
  | setattr => loadWcc3res m
  | lookup => loadLookup3res heap m
  | access => loadAccess3res m
  | readlink => loadReadlink3res heap m
  | read => loadRead3res heap m
  | write => loadWrite3res m
  | create => loadCreation3res heap m
  | mkdir => loadCreation3res heap m
  | symlink => loadCreation3res heap m
  | mknod => loadCreation3res heap m
  | remove => loadWcc3res m
  | rmdir => loadWcc3res m
  | rename => loadRename3res m
  | link => loadLink3res m
  | readdir => loadReaddir3res heap m
  | readdirplus => loadReaddirplus3res heap m
  | fsstat => loadFsstat3res m
  | fsinfo => loadFsinfo3res m
  | pathconf => loadPathconf3res m
  | commit => loadCommit3res m

end Results

end Dnfs
