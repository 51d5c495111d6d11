import Dnfs.Nfs.Dispatch
import Dnfs.Nfs.Durability

/-! Whether the write verifier tells one instance of the server from the next. -/

namespace Dnfs

variable {σ : Type}

section Fills

/-- The verifier in the result of a WRITE or COMMIT that succeeded. -/
def verifierOf (p : Proc) (res : Mem) : Option UInt64 :=
  match p with
  | .write => if res 0 = 0 then some (loadWrite3resok res).verf else none
  | .commit => if res 0 = 0 then some (loadCommit3resok res).verf else none
  | _ => none

/-- A request that succeeds with a verifier filled in, whatever its result held at first. -/
def FillsVerifier (k : Kernel σ) (env : Env) (server : Server σ) (p : Proc) (args : p.Args)
    (verf : UInt64) : Prop :=
  ∀ res, ∃ served, p.serviceFunc k env server args res = some served ∧
    verifierOf p served.res = some verf

variable {k : Kernel σ} {env : Env} {server : Server σ} {verf : UInt64}

/-- A WRITE that does not get as far as the file leaves the place of the verifier alone. -/
theorem nfs3Write_stopped_verf {args : Write3args} (res : Mem)
    (stopped : ¬args.Reaches k server.fs) :
    (nfs3Write k env server args res).res.getU64 36 = res.getU64 36 := by
  rcases Write3args.stopped_cases stopped with unnamed | ⟨named, invalid⟩ | ⟨named, judged, idle⟩
  · rw [nfs3Write_unnamed res unnamed]
    rfl
  · rw [nfs3Write_invalid res named invalid]
    have apart : (putStatus res .nfs3errInval).Agree res 36 2 := putStatus_agree res _ (by decide)
    exact apart.getU64 (by decide) (by decide)
  · rw [nfs3Write_idle res named judged idle]
    -- Examining the file stores its attributes before that place, if it stores anything.
    cases found : k.lstat server.fs (cstr args.file) with
    | error errno => simp [Server.refuse, Server.done, Done.refuse, putReturned, putStatus,
        getWccData_error found, Mem.getU64]
    | ok st =>
      have apart : (wccStored st Mem.zero (putStatus res .nfs3Ok) 2).Agree res 36 2 :=
        (wccStored_agree _ _ _ (.inl (by decide))).trans (putStatus_agree res _ (by decide))
      simp only [Server.refuse, Server.done, Done.refuse, putReturned, getWccData_ok found]
      exact ((putStatus_agree _ _ (by decide)).trans apart).getU64 (by decide) (by decide)

/-- The verifier WRITE fills in is the copy of its own unit. -/
theorem FillsVerifier.write {args : Write3args}
    (fills : FillsVerifier k env server .write args verf) :
    verf = server.nfs3WriteVerifier .nfsWrite := by
  -- What is found is either that copy or what the place held at first, which can be anything.
  have found : ∀ res : Mem, verf = server.nfs3WriteVerifier .nfsWrite ∨ verf = res.getU64 36 := by
    intro res
    obtain ⟨served, serves, carried⟩ := fills res
    obtain rfl := Option.some.inj serves
    by_cases said : (nfs3Write k env server args res).res 0 = 0
    · obtain rfl : (nfs3Write k env server args res).res.getU64 36 = verf := by
        simpa [verifierOf, said, loadWrite3resok] using carried
      by_cases reaches : args.Reaches k server.fs
      · have served := nfs3Write_served env res reaches
        rw [served.res] at said ⊢
        obtain ⟨st, examined⟩ := (WriteOutcome.reply_status _ _ _ _ _ _ _).mp said
        have loaded := WriteOutcome.load_reply examined (server.nfs3WriteVerifier .nfsWrite)
          args.fsalStable res (writeAttempt k server args).1
        rw [loadWrite3res, loadStatus_eq_ok] at loaded
        have verf := congrArg Write3resok.verf loaded.2
        cases amount : (writeAttempt k server args).1.amount with
        | none => exact .inr (by simpa [amount, loadWrite3resok] using verf)
        | some count => exact .inl (by simpa [amount, loadWrite3resok] using verf)
      · exact .inr (nfs3Write_stopped_verf res reaches)
    · simp [verifierOf, said] at carried
  rcases found (Mem.zero.putU64 36 0) with copied | zero
  · exact copied
  · rcases found (Mem.zero.putU64 36 1) with copied | one
    · exact copied
    · have clash : (0 : UInt64) = 1 := by
        simpa [Mem.getU64] using zero.symm.trans one
      exact absurd clash (by decide)

/-- A WRITE whose data were handled and whose file is there afterwards fills the verifier in. -/
theorem fillsVerifier_write {args : Write3args} {st : Stat} {count : Nat}
    (reaches : args.Reaches k server.fs)
    (examined : k.lstat (writeAttempt k server args).2.fs (cstr args.file) = .ok st)
    (amount : (writeAttempt k server args).1.amount = some count) :
    FillsVerifier k env server .write args (server.nfs3WriteVerifier .nfsWrite) := by
  intro res
  refine ⟨_, rfl, ?_⟩
  have served := nfs3Write_served env res reaches
  have loaded := WriteOutcome.load_reply examined (server.nfs3WriteVerifier .nfsWrite)
    args.fsalStable res (writeAttempt k server args).1
  rw [← served.res, loadWrite3res, loadStatus_eq_ok, amount] at loaded
  simp only [verifierOf]
  rw [if_pos loaded.1, loaded.2]

/-- Every exit of COMMIT copies the verifier. -/
theorem nfs3Commit_verf (k : Kernel σ) (env : Env) (server : Server σ) (args : Commit3args)
    (res : Mem) :
    (nfs3Commit k env server args res).res.getU64 34 = server.nfs3WriteVerifier .nfsCommit := by
  unfold nfs3Commit
  dsimp only
  repeat' split
  all_goals simp [Server.refuse, Server.done, Done.refuse, Mem.getU64]

/-- The verifier COMMIT fills in is the copy of its own unit. -/
theorem FillsVerifier.commit {args : Commit3args}
    (fills : FillsVerifier k env server .commit args verf) :
    verf = server.nfs3WriteVerifier .nfsCommit := by
  obtain ⟨served, serves, carried⟩ := fills Mem.zero
  obtain rfl := Option.some.inj serves
  by_cases said : (nfs3Commit k env server args Mem.zero).res 0 = 0
  · rw [← nfs3Commit_verf k env server args Mem.zero]
    simpa [verifierOf, said, loadCommit3resok] using carried.symm
  · simp [verifierOf, said] at carried

/-- A COMMIT that finds the file and no open handle fills the verifier in. -/
theorem fillsVerifier_commit {args : Commit3args} {st : Stat} (named : args.file ≠ [])
    (judged : judgeFileExit k server.fs (cstr args.file) FileType.reg.bits = true)
    (unopened : server.handleMap (cstr args.file) = none)
    (examined : k.lstat server.fs (cstr args.file) = .ok st) :
    FillsVerifier k env server .commit args (server.nfs3WriteVerifier .nfsCommit) := by
  intro res
  refine ⟨_, rfl, ?_⟩
  have said : (nfs3Commit k env server args res).res 0 = 0 := by
    simp [nfs3Commit, named, judged, justGetHandle, unopened, Server.refuse, Server.done,
      Done.refuse, putReturned, getWccData_ok examined]
  simp only [verifierOf]
  rw [if_pos said, loadCommit3resok, nfs3Commit_verf]

end Fills

section Restart

/-- Every verifier that is ever filled in is zero, for only the copy nobody reads was set. -/
theorem FillsVerifier.zero {k : Kernel σ} {epoch : UInt64} {fs : σ} {past : List (ServeEvent σ)}
    {server : Server σ} {env : Env} {p : Proc} {args : p.Args} {verf : UInt64}
    (run : Run (ServeStep k) (dnfsInitSvc epoch (Server.load fs)) past server)
    (fills : FillsVerifier k env server p args verf) : verf = 0 := by
  have kept := verifier_of_run run
  cases p with
  | write =>
    rw [fills.write, kept]
    rfl
  | commit =>
    rw [fills.commit, kept]
    rfl
  | _ =>
    obtain ⟨_, _, carried⟩ := fills Mem.zero
    cases carried

/-- Two verifiers that tell instances of different epochs apart, each built from its epoch. -/
def VerifiersFresh (epoch₁ epoch₂ verf₁ verf₂ : UInt64) : Prop :=
  verf₁ ≠ verf₂ ∧ verf₁ = epoch₁ ∧ verf₂ = epoch₂

/-- No two instances that started at different times can be told apart by a verifier. -/
theorem verifiers_never_fresh {k₁ k₂ : Kernel σ} {epoch₁ epoch₂ : UInt64} {fs₁ fs₂ : σ}
    {past₁ past₂ : List (ServeEvent σ)} {server₁ server₂ : Server σ} {env₁ env₂ : Env}
    {write : Write3args} {p : Proc} {args : p.Args} {verf₁ verf₂ : UInt64}
    (_restarted : epoch₁ ≠ epoch₂)
    (run₁ : Run (ServeStep k₁) (dnfsInitSvc epoch₁ (Server.load fs₁)) past₁ server₁)
    (run₂ : Run (ServeStep k₂) (dnfsInitSvc epoch₂ (Server.load fs₂)) past₂ server₂)
    (fills₁ : FillsVerifier k₁ env₁ server₁ .write write verf₁)
    (fills₂ : FillsVerifier k₂ env₂ server₂ p args verf₂) :
    ¬VerifiersFresh epoch₁ epoch₂ verf₁ verf₂ := by
  intro ⟨differ, _, _⟩
  exact differ ((fills₁.zero run₁).trans (fills₂.zero run₂).symm)

/-- Writing a byte fills the verifier in. -/
theorem demoServer_write (epoch : UInt64) :
    FillsVerifier memKernel default (demoServer epoch) .write (demoWrite .unstable) 0 :=
  fillsVerifier_write (show Write3args.Reaches memKernel (MemFs.demo []) _ by decide) rfl rfl

/-- Committing a file fills the verifier in. -/
theorem demoServer_commit (epoch : UInt64) :
    FillsVerifier memKernel default (demoServer epoch) .commit ⟨MemFs.demoPath, 0, 1⟩ 0 :=
  fillsVerifier_commit (by decide) (show judgeFileExit memKernel (MemFs.demo []) _ _ = _ by decide)
    rfl rfl

/-- A WRITE of one instance and a COMMIT of the next, a second later, carry the same verifier. -/
theorem verifier_survives_restart :
    (1 : UInt64) ≠ 2 ∧ ∃ verf,
      FillsVerifier memKernel default (demoServer 1) .write (demoWrite .unstable) verf ∧
        FillsVerifier memKernel default (demoServer 2) .commit ⟨MemFs.demoPath, 0, 1⟩ verf :=
  ⟨by decide, 0, demoServer_write 1, demoServer_commit 2⟩

/-- There are such requests. -/
theorem verifiers_never_fresh_demo : (1 : UInt64) ≠ 2 ∧ ¬VerifiersFresh 1 2 0 0 :=
  ⟨by decide, verifiers_never_fresh (by decide) .nil .nil (demoServer_write 1)
    (demoServer_commit 2)⟩

end Restart

end Dnfs
