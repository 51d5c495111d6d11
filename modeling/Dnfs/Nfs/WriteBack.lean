import Dnfs.Nfs.Durability
import Dnfs.Nfs.ReadAll
import Dnfs.Nfs.WriteTruth

/-! Whether a file reads as the replies to all WRITE requests before have it. -/

namespace Dnfs

variable {σ : Type} {k : Kernel σ}

section Replies

/-- What a client takes a file to hold after one more request and its reply. -/
def IoEvent.acknowledge (path : Path) (event : IoEvent σ) (content : Bytes) : Bytes :=
  match event.request, loadWrite3res event.served.res with
  | .write args, .ok ok =>
    if cstr args.file = path ∧ args.count ≠ 0 then
      splice content args.offset.toNat (args.data.take ok.count.toNat)
    else content
  | _, _ => content

/-- A WRITE that gets past the checks writes to the file of its path, which stays in sight. -/
def IoEvent.Lands (k : Kernel σ) (path : Path) (file : Nat) (event : IoEvent σ) : Prop :=
  ∀ args, event.request = .write args → args.Reaches k event.before.fs →
    ∃ target count, (writeAttempt k event.before args).1 = .written target count ∧
      (file = target ↔ cstr args.file = path) ∧
      ∃ st, k.lstat (writeAttempt k event.before args).2.fs (cstr args.file) = .ok st

variable {path : Path} {file : Nat} {server : Server σ} {past : List (IoEvent σ)}

/-- One WRITE changes a file just as its reply says. -/
theorem write_acknowledged (contents : Contents k) (env : Env) (args : Write3args) (res : Mem)
    (named : path ≠ [])
    (lands : IoEvent.Lands k path file ⟨server, .write args, nfs3Write k env server args res⟩) :
    contents.read (nfs3Write k env server args res).server.fs file
      = IoEvent.acknowledge path ⟨server, .write args, nfs3Write k env server args res⟩
        (contents.read server.fs file) := by
  by_cases reaches : args.Reaches k server.fs
  · obtain ⟨target, count, written, same, examined⟩ := lands args rfl reaches
    have outcome := nfs3Write_served env res reaches
    have status : (nfs3Write k env server args res).res 0 = 0 := by
      rw [outcome.res]
      exact (WriteOutcome.reply_status _ _ _ _ _ _ _).mpr examined
    obtain ⟨ok, replied⟩ := (loadWrite3res_ok_iff _).mpr status
    have final : contents.read (nfs3Write k env server args res).server.fs
        = contents.read (writeAttempt k server args).2.fs := by
      rcases outcome.fs with kept | ⟨fd, closed⟩
      · rw [kept]
      · rw [closed, contents.close]
    rw [final, writeAttempt_contents contents written, ← (outcome.written_reply written replied).1]
    simp only [IoEvent.acknowledge, replied, same, reaches.asks, ne_eq, not_false_eq_true,
      and_true]
  · -- Only a request for no bytes is answered as if all went well.
    rw [(nfs3Write_stopped reaches).1, IoEvent.acknowledge]
    split
    · next request ok isWrite replied =>
      cases isWrite
      have status := (loadStatus_eq_ok.mp replied).1
      refine (if_neg ?_).symm
      rintro ⟨rfl, asks⟩
      rcases Write3args.stopped_cases reaches with unnamed | ⟨some_, invalid⟩ | ⟨_, _, idle⟩
      · exact named (by rw [unnamed]; rfl)
      · rw [nfs3Write_invalid res some_ invalid] at status
        cases (putStatus_zero res .nfs3errInval).symm.trans status
      · exact asks idle
    · rfl

/-- After any requests a file holds what their replies say. -/
theorem contents_acknowledged (contents : Contents k) {epoch : UInt64} {fs : σ}
    (run : Run (IoStep k) (dnfsInitSvc epoch (Server.load fs)) past server) (named : path ≠ [])
    (lands : ∀ event ∈ past, event.Lands k path file) :
    contents.read server.fs file
      = past.foldr (IoEvent.acknowledge path) (contents.read fs file) := by
  induction run with
  | nil => rfl
  | cons older taken ih =>
    have before := ih fun event within => lands event (List.mem_cons_of_mem _ within)
    have now := lands _ List.mem_cons_self
    obtain ⟨env, request, res, rfl, rfl⟩ := taken
    rw [List.foldr_cons, ← before]
    cases request with
    | write args => exact write_acknowledged contents env args res named now
    | commit args =>
      -- Between requests all handles are closed, and then COMMIT does nothing.
      have idle := nfs3Commit_closed k env args res (ioInv_of_run rfl older).closed
      exact congrArg (fun after : Server σ => contents.read after.fs file) idle

end Replies

section Reading

/--
A client that reads a whole file after any WRITE and COMMIT requests, of this file and of others,
gets what the replies to them say the file holds.
-/
theorem readAll_acknowledged (contents : Contents k) {epoch : UInt64} {fs : σ} (file : Nat)
    {past : List (IoEvent σ)} {server : Server σ}
    (run : Run (IoStep k) (dnfsInitSvc epoch (Server.load fs)) past server) (args : Read3args)
    (named : cstr args.file ≠ []) (positive : args.count ≠ 0) (beginning : args.offset = 0)
    (lands : ∀ event ∈ past, event.Lands k (cstr args.file) file)
    (unchanging : Unchanging k (cstr args.file) (contents.read server.fs file))
    (still : unchanging.Still server.fs) (small : (contents.read server.fs file).length < 2 ^ 63)
    (reader : Reader σ)
    (quiet : ∀ n server, unchanging.Still server.fs →
      unchanging.Still (reader.others n server).fs) :
    ∃ replies, replies.flatMap (·.2.data)
        = past.foldr (IoEvent.acknowledge (cstr args.file)) (contents.read fs file) ∧
      ∀ fuel, (contents.read server.fs file).length < fuel →
        readAll k reader fuel 0 server args = some replies := by
  have some_ : args.file ≠ [] := fun empty => named (by rw [empty]; rfl)
  obtain ⟨replies, whole, reads⟩ := readAll_from unchanging small some_ positive reader quiet _ 0
    server 0 still (Nat.zero_add _)
  rw [← beginning] at reads
  refine ⟨replies, ?_, reads⟩
  rw [← contents_acknowledged contents run named lands]
  exact whole.whole

/-- Two bytes in the middle of five are written, and read with the others around them. -/
theorem readAll_acknowledged_five :
    let args : Write3args := ⟨MemFs.demoPath, 1, 2, 0, [8, 9]⟩
    let start := dnfsInitSvc 1 (Server.load MemFs.demoContent)
    ∃ replies, replies.flatMap (·.2.data) = [1, 8, 9, 4, 5] ∧ ∀ fuel, 5 < fuel →
      readAll memKernel ⟨fun _ => default, fun _ => Mem.zero, fun _ server => server⟩ fuel 0
        (nfs3Write memKernel default start args Mem.zero).server ⟨MemFs.demoPath, 0, 2⟩
        = some replies := by
  intro args start
  have run : Run (IoStep memKernel) start
      [⟨start, .write args, nfs3Write memKernel default start args Mem.zero⟩] _ :=
    .cons .nil ⟨default, .write args, Mem.zero, rfl, rfl⟩
  refine readAll_acknowledged memContents 7 run ⟨MemFs.demoPath, 0, 2⟩ (by decide)
    (by decide) rfl ?_ (MemFs.unchanging _ MemFs.demoPath { Stat.plain .reg 7 with stSize := 5 }
      _ rfl rfl (by decide) rfl rfl) rfl (by decide) _ (fun _ _ still => still)
  simp only [List.mem_singleton, forall_eq]
  rintro _ ⟨⟩ _
  exact ⟨7, 2, rfl, by decide, _, rfl⟩

end Reading

end Dnfs
