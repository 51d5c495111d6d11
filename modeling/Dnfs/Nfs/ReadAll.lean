import Dnfs.Nfs.Client
import Dnfs.Nfs.ExamineLaws
import Dnfs.Nfs.NamespaceLaws
import Dnfs.Os.MemFs

/-! Reading a whole file with READ, one call after another. -/

namespace Dnfs

variable {σ : Type}

section Files

/--
A regular file whose bytes stay what they are while it is opened, read and closed.

A read that begins within the file gives what is there, up to the size asked for.
-/
structure Unchanging (k : Kernel σ) (path : Path) (content : Bytes) where
  /-- The states in which the file is as described. -/
  Still : σ → Prop
  lstat : ∀ fs, Still fs →
    ∃ st, k.lstat fs path = .ok st ∧ st.type = .reg ∧ st.stSize.toNat = content.length
  reads : ∀ fs size (offset : UInt64), Still fs → offset.toNat ≤ content.length →
    ∃ fd opened data after, k.openFile path .rdonly fs = (.ok fd, opened) ∧
      k.preadv fd size offset opened = (.ok data, after) ∧
      data.1 = (content.drop offset.toNat).take size ∧ Still (k.close fd after)

end Files

section Client

/-- What surrounds the calls of a client. -/
structure Reader (σ : Type) where
  env : Nat → Env
  /-- What each result holds before it is written to. -/
  res : Nat → Mem
  /-- What others do to the server after each call. -/
  others : Nat → Server σ → Server σ

/--
All replies a client receives until one tells of the end, each behind the offset it asked at.

There is no result when a reply is missing or reports an error, or when the calls run out.
-/
def readAll (k : Kernel σ) (reader : Reader σ) :
    (fuel n : Nat) → Server σ → Read3args → Option (List (UInt64 × Read3resok))
  | 0, _, _, _ => none
  | fuel + 1, n, server, args =>
    match Proc.read.ask k (reader.env n) server args (reader.res n) with
    | some (.ok resok, server) =>
      if resok.eof ≠ 0 then some [(args.offset, resok)]
      else
        (readAll k reader fuel (n + 1) (reader.others n server)
          { args with offset := args.offset + resok.count.toUInt64 }).map
          ((args.offset, resok) :: ·)
    | _ => none

/-- A reply is the slice of the file at its offset, no longer than was asked for. -/
structure Slice (content : Bytes) (asked : UInt32) (offset : UInt64) (resok : Read3resok) :
    Prop where
  count : resok.count.toNat = resok.data.length
  short : resok.data.length ≤ min asked.toNat maxRead
  data : resok.data = (content.drop offset.toNat).take resok.data.length
  /-- The end is told exactly when the slice reaches it. -/
  eof : resok.eof = if offset.toNat + resok.data.length = content.length then 1 else 0

/-- The replies from an offset on make up the rest of the file; only the last tells of the end. -/
structure Reassembles (content : Bytes) (asked : UInt32) (start : Nat)
    (replies : List (UInt64 × Read3resok)) : Prop where
  slices : ∀ reply ∈ replies, Slice content asked reply.1 reply.2
  last : ∃ earlier reply, replies = earlier ++ [reply] ∧ reply.2.eof = 1 ∧
    ∀ other ∈ earlier, other.2.eof = 0
  whole : replies.flatMap (·.2.data) = content.drop start

end Client

section Replies

variable {k : Kernel σ}

/-- The encoder finds what was stored: attributes, count, end and the bytes behind the pointer. -/
theorem loadRead3res_filled (heap : Heap) (m : Mem) (count : UInt32) (eof : Bool)
    (dataVal : UInt64) (ok : m 0 = 0) :
    loadRead3res heap
        ((((m.put 27 (if eof then 1 else 0)).put 26 count).putU64 30 dataVal).put 28 count)
      = .ok ⟨loadPostOpAttr m 2, count, if eof then 1 else 0,
          runOf count (heap.chars dataVal)⟩ := by
  refine loadStatus_eq_ok.mpr ⟨by simpa using ok, ?_⟩
  have attributes : loadPostOpAttr
      ((((m.put 27 (if eof then 1 else 0)).put 26 count).putU64 30 dataVal).put 28 count) 2
      = loadPostOpAttr m 2 := by
    apply loadPostOpAttr_congr
    intro i low high
    have apart : i ≠ 26 ∧ i ≠ 27 ∧ i ≠ 28 ∧ i ≠ 30 ∧ i ≠ 31 := by omega
    simp [apart]
  rw [loadRead3resok, attributes]
  simp [Mem.getU64]

/-- What READ stores when it succeeds is what the client is sent, whatever attributes it has. -/
theorem loadRead3res_nfsReadOk_any (env : Env) (res : Mem) (fs : σ) (path : Path) {data : Bytes}
    (ok : res 0 = 0) (small : data.length < 2 ^ 32) (eof : Bool) :
    loadRead3res (env.heap.over (nfsReadOk k env fs res data path eof).2)
        (nfsReadOk k env fs res data path eof).1
      = .ok ⟨loadPostOpAttr (nfsSetPostOpAttr k fs path res 2).2 2, UInt32.ofNat data.length,
          if eof then 1 else 0, data⟩ := by
  -- A buffer that was given back is a null pointer to no bytes.
  have bytes : runOf (UInt32.ofNat data.length) ((env.heap.over
      (nfsReadOk k env fs res data path eof).2).chars (if data = [] then 0 else env.address 0))
      = data := by
    by_cases empty : data = []
    · simp [empty, runOf]
    · simp only [nfsReadOk, empty, if_false, Heap.chars, Heap.over_head]
      exact runOf_whole small
  have status : (nfsSetPostOpAttr k fs path res 2).2 0 = 0 :=
    (nfsSetPostOpAttr_status path res (by decide)).trans ok
  exact (loadRead3res_filled _ _ _ _ _ status).trans (by rw [bytes])

/-- A file that can be examined again has its attributes stored again. -/
theorem loadRead3res_nfsReadOk (env : Env) (res : Mem) {fs : σ} {path : Path} {st : Stat}
    {data : Bytes} (ok : res 0 = 0) (found : k.lstat fs path = .ok st)
    (small : data.length < 2 ^ 32)
    (eof : Bool) :
    loadRead3res (env.heap.over (nfsReadOk k env fs res data path eof).2)
        (nfsReadOk k env fs res data path eof).1
      = .ok ⟨.present (st.fattr3 (loadSpec res 14)), UInt32.ofNat data.length,
          if eof then 1 else 0, data⟩ := by
  rw [loadRead3res_nfsReadOk_any env res fs path ok small, nfsSetPostOpAttr_ok found,
    loadPostOpAttr_attrStored]

end Replies

section Calls

variable {k : Kernel σ} {content : Bytes}

/-- What the offset and the bytes read come to does not wrap around. -/
theorem reaches_end_iff {offset size : UInt64} {read : Nat} (small : content.length < 2 ^ 63)
    (total : size.toNat = content.length) (within : offset.toNat + read ≤ content.length) :
    offset + UInt64.ofNat read ≥ size ↔ offset.toNat + read = content.length := by
  have count : (UInt64.ofNat read).toNat = read :=
    UInt64.toNat_ofNat_of_lt' (by simp only [UInt64.size]; omega)
  have sum : (offset + UInt64.ofNat read).toNat = offset.toNat + read := by
    rw [UInt64.toNat_add, count, Nat.mod_eq_of_lt (by omega)]
  rw [ge_iff_le, UInt64.le_iff_toNat_le, sum, total]
  omega

/-- A call within the file is answered with the slice at its offset. -/
theorem ask_read_slice (args : Read3args) (file : Unchanging k (cstr args.file) content)
    (small : content.length < 2 ^ 63) (named : args.file ≠ []) (positive : args.count ≠ 0)
    (env : Env) (server : Server σ) (res : Mem) (still : file.Still server.fs)
    (within : args.offset.toNat ≤ content.length) :
    ∃ resok after, Proc.read.ask k env server args res = some (.ok resok, after) ∧
      file.Still after.fs ∧ Slice content args.count args.offset resok ∧
      resok.data = (content.drop args.offset.toNat).take (min args.count.toNat maxRead) := by
  obtain ⟨st, found, isReg, total⟩ := file.lstat server.fs still
  obtain ⟨fd, opened, data, last, opens, reads, slice, stillAfter⟩ :=
    file.reads server.fs (min args.count.toNat maxRead) args.offset still within
  obtain ⟨st', foundAfter, _, _⟩ := file.lstat _ stillAfter
  have somewhat : min args.count.toNat maxRead ≠ 0 := by
    have nonzero : args.count.toNat ≠ 0 := fun zero => positive (UInt32.toNat_inj.mp zero)
    have room : maxRead ≠ 0 := by decide
    omega
  have notHighest : args.offset ≠ 0xffffffffffffffff := by
    intro highest
    rw [highest] at within
    have value : (0xffffffffffffffff : UInt64).toNat = 2 ^ 64 - 1 := rfl
    omega
  have fits : args.offset.toNat + data.1.length ≤ content.length := by
    rw [slice, List.length_take, List.length_drop]
    omega
  have shortData : data.1.length ≤ maxRead := Nat.le_trans data.2 (Nat.min_le_right _ _)
  have maxRead_lt : maxRead < 2 ^ 32 := by decide
  have served : nfs3Read k env server.fs args res =
      let filled := nfsReadOk k env (k.close fd last) (examinedInPlace st (readCleared res)) data.1
        (cstr args.file) (decide (args.offset + UInt64.ofNat data.1.length ≥ st.stSize))
      ⟨.nfsReqOk, ⟨k.close fd last, []⟩, filled.1, filled.2⟩ := by
    rw [nfs3Read_past res named found isReg]
    simp only [readRegular, somewhat, if_false, opens, reads, notHighest, examinedInPlace_size]
  have loads := loadRead3res_nfsReadOk env (examinedInPlace st (readCleared res))
    (by simp [examinedInPlace]) foundAfter (Nat.lt_of_le_of_lt shortData maxRead_lt)
    (decide (args.offset + UInt64.ofNat data.1.length ≥ st.stSize))
  have ends := reaches_end_iff small total fits
  refine ⟨_, _, Proc.ask_of_wf (congrArg (some ∘ server.done) served) loads ?_, stillAfter, ?_,
    slice⟩
  · refine ⟨trivial, ?_, Nat.le_trans shortData (by decide)⟩
    by_cases last : args.offset + UInt64.ofNat data.1.length ≥ st.stSize <;> simp [last, BoolWf]
  · refine ⟨UInt32.toNat_ofNat_of_lt' (Nat.lt_of_le_of_lt shortData maxRead_lt), data.2, ?_, ?_⟩
    · -- The bytes read are cut where they end, not where they were asked to end.
      show data.1 = (content.drop args.offset.toNat).take data.1.length
      rw [slice, List.length_take]
      exact List.take_eq_take_min
    · simp only [ends, decide_eq_true_eq]

end Calls

section Runs

variable {k : Kernel σ} {args : Read3args} {content : Bytes}

/-- One more reply in front of those that make up the rest. -/
theorem Reassembles.cons {asked : UInt32} {offset : UInt64} {resok : Read3resok}
    {replies : List (UInt64 × Read3resok)} (slice : Slice content asked offset resok)
    (notLast : resok.eof = 0)
    (rest : Reassembles content asked (offset.toNat + resok.data.length) replies) :
    Reassembles content asked offset.toNat ((offset, resok) :: replies) where
  slices := List.forall_mem_cons.mpr ⟨slice, rest.slices⟩
  last := by
    obtain ⟨earlier, reply, split, ends, others⟩ := rest.last
    refine ⟨(offset, resok) :: earlier, reply, by rw [split]; rfl, ends, ?_⟩
    exact List.forall_mem_cons.mpr ⟨notLast, others⟩
  whole := by
    rw [List.flatMap_cons, rest.whole, ← List.drop_drop]
    show resok.data ++ _ = _
    nth_rewrite 1 [slice.data]
    exact List.take_append_drop _ _

/-- A reply that tells of the end makes up the rest alone. -/
theorem Reassembles.single {asked : UInt32} {offset : UInt64} {resok : Read3resok}
    (slice : Slice content asked offset resok) (last : resok.eof = 1)
    (reaches : offset.toNat + resok.data.length = content.length) :
    Reassembles content asked offset.toNat [(offset, resok)] where
  slices := by simpa using slice
  last := ⟨[], (offset, resok), rfl, last, by simp⟩
  whole := by
    have length : resok.data.length = (content.drop offset.toNat).length := by
      rw [List.length_drop]
      omega
    rw [List.flatMap_singleton]
    show resok.data = _
    rw [slice.data, length, List.take_length]

/-- From any offset within the file the calls run on to its end. -/
theorem readAll_from (file : Unchanging k (cstr args.file) content)
    (small : content.length < 2 ^ 63) (named : args.file ≠ []) (positive : args.count ≠ 0)
    (reader : Reader σ)
    (quiet : ∀ n server, file.Still server.fs → file.Still (reader.others n server).fs)
    (left n : Nat) (server : Server σ) (offset : UInt64) (still : file.Still server.fs)
    (within : offset.toNat + left = content.length) :
    ∃ replies, Reassembles content args.count offset.toNat replies ∧
      ∀ fuel, left < fuel →
        readAll k reader fuel n server { args with offset } = some replies := by
  -- Every reply but the last brings some bytes, so what is left gets shorter.
  induction left using Nat.strongRecOn generalizing n server offset with
  | ind left ih =>
    obtain ⟨resok, after, asked, stillAfter, slice, data⟩ :=
      ask_read_slice { args with offset } file small named positive (reader.env n) server
        (reader.res n) still (show offset.toNat ≤ content.length by omega)
    simp only at slice data
    have eof := slice.eof
    by_cases ends : offset.toNat + resok.data.length = content.length
    · rw [if_pos ends] at eof
      refine ⟨[(offset, resok)], .single slice eof ends, ?_⟩
      intro fuel enough
      obtain ⟨fuel, rfl⟩ := Nat.exists_eq_add_one.mpr (Nat.zero_lt_of_lt enough)
      rw [readAll, asked]
      simp [eof]
    · rw [if_neg ends] at eof
      -- A slice that stops short of the end is as long as was asked for, so it is not empty.
      have longer : 0 < resok.data.length ∧ resok.data.length ≤ left := by
        have length := congrArg List.length data
        rw [List.length_take, List.length_drop] at length
        have nonzero : args.count.toNat ≠ 0 := fun zero => positive (UInt32.toNat_inj.mp zero)
        have room : 0 < maxRead := by decide
        omega
      have count : resok.count.toUInt64.toNat = resok.data.length := by
        rw [UInt32.toNat_toUInt64, slice.count]
      have next : (offset + resok.count.toUInt64).toNat = offset.toNat + resok.data.length := by
        rw [UInt64.toNat_add, count, Nat.mod_eq_of_lt (by omega)]
      obtain ⟨replies, rest, run⟩ := ih (left - resok.data.length) (by omega) (n + 1)
        (reader.others n after) (offset + resok.count.toUInt64) (quiet n after stillAfter)
        (by omega)
      rw [next] at rest
      refine ⟨(offset, resok) :: replies, .cons slice eof rest, ?_⟩
      intro fuel enough
      obtain ⟨fuel, rfl⟩ := Nat.exists_eq_add_one.mpr (Nat.zero_lt_of_lt enough)
      rw [readAll, asked]
      simp only [eof, ne_eq, not_true_eq_false, if_false, run fuel (by omega), Option.map_some]

/--
A client that reads on until it is told of the end gets the whole file.

It is told within as many calls as the file has bytes and one more, whatever others do to the
server meanwhile as long as the file stays what it is.
-/
theorem readAll_reassembles (args : Read3args) (file : Unchanging k (cstr args.file) content)
    (small : content.length < 2 ^ 63) (named : args.file ≠ []) (positive : 1 ≤ args.count)
    (beginning : args.offset = 0) (reader : Reader σ)
    (quiet : ∀ n server, file.Still server.fs → file.Still (reader.others n server).fs)
    (server : Server σ) (still : file.Still server.fs) :
    ∃ replies, Reassembles content args.count 0 replies ∧
      (replies.flatMap (·.2.data) = content) ∧
      ∀ fuel, content.length < fuel → readAll k reader fuel 0 server args = some replies := by
  have nonzero : args.count ≠ 0 := by
    intro zero
    rw [zero] at positive
    exact absurd positive (by decide)
  obtain ⟨replies, whole, run⟩ :=
    readAll_from file small named nonzero reader quiet content.length 0
    server 0 still (Nat.zero_add _)
  refine ⟨replies, whole, whole.whole, ?_⟩
  have same : { args with offset := 0 } = args := by
    rw [← beginning]
  rw [same] at run
  exact run

end Runs

section Demo

/-- A file in memory stays what it is as long as the state does. -/
def MemFs.unchanging (fs : MemFs) (path : Path) (st : Stat) (content : Bytes)
    (found : fs.nodes.lookup path = some st) (isReg : st.type = .reg)
    (opens : Fault.openFile ∉ fs.faults) (holds : fs.read st.stIno.toNat = content)
    (total : st.stSize.toNat = content.length) : Unchanging memKernel path content where
  Still := fun now => now = fs
  lstat := by
    intro now same
    refine ⟨st, ?_, isReg, total⟩
    rw [same]
    simp only [memKernel, MemFs.lstat, found]
  reads := by
    intro now size offset same within
    refine ⟨⟨3, st.stIno.toNat⟩, fs, ⟨((fs.read st.stIno.toNat).drop offset.toNat).take size,
      List.length_take_le _ _⟩, fs, ?_, rfl, ?_, rfl⟩
    · rw [same]
      simp only [memKernel, MemFs.openFile, found, MemFs.unless_, if_neg opens]
    · rw [holds]

/-- A file of five bytes. -/
def MemFs.demoContent : MemFs :=
  ⟨[(demoPath, { Stat.plain .reg 7 with stSize := 5 })], [(7, [1, 2, 3, 4, 5])], [], []⟩

/-- Five bytes asked for two at a time arrive in order. -/
theorem readAll_reassembles_five :
    ∃ replies, Reassembles [1, 2, 3, 4, 5] 2 0 replies ∧
      (replies.flatMap (·.2.data) = [1, 2, 3, 4, 5]) ∧
      ∀ fuel, 5 < fuel →
        readAll memKernel ⟨fun _ => default, fun _ => Mem.zero, fun _ server => server⟩
        fuel 0 (Server.load MemFs.demoContent) ⟨MemFs.demoPath, 0, 2⟩ = some replies :=
  readAll_reassembles ⟨MemFs.demoPath, 0, 2⟩
    (MemFs.demoContent.unchanging MemFs.demoPath { Stat.plain .reg 7 with stSize := 5 }
      [1, 2, 3, 4, 5] rfl rfl (by decide) rfl rfl)
    (by decide) (by decide) (by decide) rfl _ (fun _ _ still => still) _ rfl

end Demo

end Dnfs
