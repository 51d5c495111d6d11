import Dnfs.Rpc.Process

/-! What processing a request gives back of what it took, one request and whole runs. -/

namespace Dnfs

section Accounts

/-- Whether an act answers the client, or decides that nobody will. -/
def RpcAct.answers : RpcAct → Bool
  | sendReply => true
  | svcerrAuth => true
  | svcerrDecode => true
  | dropRequest => true
  | _ => false

/--
The acts of a request balance, given the result object it held before.

A request that holds one was suspended, and its arguments were decoded then.
-/
structure Conserves (held : Option Nat) (acts : List RpcAct) : Prop where
  /-- There is one answer. A reply counts as sent whatever becomes of it on the way. -/
  answered : acts.countP RpcAct.answers = 1
  /-- Arguments that were decoded are freed once, and no others. -/
  args : acts.count .xdrFreeArgs = if held.isSome ∨ .decodeArgs ∈ acts then 1 else 0
  /-- A result object that was allocated is freed once, and no other. -/
  res : ∀ id, acts.count (.freeNfsRes (some id)) =
    if held = some id ∨ .allocateRes id ∈ acts then 1 else 0
  /-- What a result holds is freed only after it was allocated and served. -/
  free : ∀ res, .freeFunction res ∈ acts → ∃ id, res = some id ∧
    (held = some id ∨ [.allocateRes id, .freeFunction res].Sublist acts) ∧
    [.served res, .freeFunction res].Sublist acts

/-- The allocation, the authentication and the decoding of the arguments all succeed. -/
def Outcomes.Clear (o : Outcomes) : Prop :=
  o.allocates = true ∧ o.authenticates = true ∧ o.checksums = true

instance (o : Outcomes) : Decidable o.Clear := inferInstanceAs (Decidable (_ ∧ _ ∧ _))

end Accounts

section Requests

variable {address : Nat} {req : NfsRequest} {o : Outcomes}

/-- A request that gets past the dispatcher is of version three and has no result object yet. -/
theorem nfsRpcValid_some {program : Program} {header : CallHeader}
    (valid : nfsRpcValid program header = some req) :
    req.cbVers = 3 ∧ req.invalidFuncdesc = false ∧ req.rqU2 = none := by
  unfold nfsRpcValid at valid
  split at valid
  · cases valid
  · split at valid
    · rename_i three
      split at valid
      · obtain rfl := Option.some.inj valid
        exact ⟨three, rfl, rfl⟩
      · cases valid
    · cases valid

/-- The arguments and the result of a request of version three are all freed. -/
theorem freeArgs_three (three : req.cbVers = 3) :
    freeArgs req = [.xdrFreeArgs, .freeFunction req.rqU2, .freeNfsRes req.rqU2] := by
  simp [freeArgs, nfsDupreqRele, three]

/-- A request is completed in one of three ways. -/
theorem completeRequest_cases (o : Outcomes) (rc : NfsReqResult) :
    completeRequest o rc = [.dropRequest] ∨ completeRequest o rc = [.sendReply] ∨
      completeRequest o rc = [.sendReply, .svcDestroy] := by
  unfold completeRequest
  by_cases dropped : rc = .nfsReqDrop
  · exact .inl (if_pos dropped)
  · rw [if_neg dropped]
    by_cases died : o.reply.died = true
    · exact .inr (.inr (if_pos died))
    · exact .inr (.inl (if_neg died))

/-- A request that is served is suspended, or it is completed and everything is freed. -/
theorem serveRequest_cases (req : NfsRequest) (three : req.cbVers = 3) (o : Outcomes) :
    serveRequest req o = ([], .xprtSuspend) ∨
      ∃ rc, serveRequest req o = (.served req.rqU2 :: (completeRequest o rc ++
        [.xdrFreeArgs, .freeFunction req.rqU2, .freeNfsRes req.rqU2]), o.stat) := by
  unfold serveRequest
  rw [freeArgs_three three]
  by_cases serves : req.invalidFuncdesc = false ∧ req.cbProc ≠ 0
  · rw [if_pos serves]
    by_cases waits : o.serviceRc = .nfsReqAsyncWait
    · exact .inl (if_pos waits)
    · exact .inr ⟨o.serviceRc, if_neg waits⟩
  · exact .inr ⟨.nfsReqOk, if_neg serves⟩

/-- With a result object in hand, serving and completing a request balances. -/
theorem conserves_served {res : Nat} {started : List RpcAct} {held : Option Nat} (rc : NfsReqResult)
    (begun : (held = some res ∧ started = []) ∨
      (held = none ∧ started = [.allocateRes res, .decodeArgs])) :
    Conserves held (started ++ .served (some res) :: (completeRequest o rc ++
      [.xdrFreeArgs, .freeFunction (some res), .freeNfsRes (some res)])) := by
  -- Only the order of the acts and the one result object matter, so the lists are written out.
  rcases begun with ⟨rfl, rfl⟩ | ⟨rfl, rfl⟩ <;>
  rcases completeRequest_cases o rc with done | done | done <;>
  · rw [done]
    constructor
    · rfl
    · simp
    · intro id
      by_cases same : id = res
      · simp [same]
      · have other : res ≠ id := fun eq => same eq.symm
        simp [same, other]
    · simp

/-- Without memory for its result a request is freed without an answer. -/
theorem nfsRpcProcessRequest_unallocated (fails : o.allocates = false) :
    nfsRpcProcessRequest address req false o = (req, freeArgs req, o.stat) := by
  simp [nfsRpcProcessRequest, nfsDupreqStart, fails]

/-- A caller that is not authenticated is told so, and the result object is left behind. -/
theorem nfsRpcProcessRequest_unauthenticated (allocates : o.allocates = true)
    (fails : o.authenticates = false) :
    nfsRpcProcessRequest address req false o =
      ({ req with rqU2 := some address }, [.allocateRes address, .svcerrAuth], o.reply) := by
  simp [nfsRpcProcessRequest, nfsDupreqStart, allocates, fails]

/-- Arguments that do not decode are freed, and the result object is left behind. -/
theorem nfsRpcProcessRequest_garbled (allocates : o.allocates = true)
    (authenticates : o.authenticates = true) (fails : o.checksums = false) :
    nfsRpcProcessRequest address req false o =
      ({ req with rqU2 := some address },
        [.allocateRes address, .decodeArgs, .xdrFreeArgs, .svcerrDecode], o.reply) := by
  simp [nfsRpcProcessRequest, nfsDupreqStart, allocates, authenticates, fails]

/-- When nothing goes wrong the request is served. -/
theorem nfsRpcProcessRequest_clear (clear : o.Clear) :
    nfsRpcProcessRequest address req false o =
      ({ req with rqU2 := some address },
        [.allocateRes address, .decodeArgs] ++ (serveRequest { req with rqU2 := some address } o).1,
        (serveRequest { req with rqU2 := some address } o).2) := by
  obtain ⟨allocates, authenticates, checksums⟩ := clear
  simp [nfsRpcProcessRequest, nfsDupreqStart, allocates, authenticates, checksums]

/-- A result object that is allocated and never freed is out of balance. -/
theorem not_conserves_of_leak {res : Nat} {acts : List RpcAct}
    (allocated : .allocateRes res ∈ acts) (kept : .freeNfsRes (some res) ∉ acts) :
    ¬Conserves none acts := by
  intro conserves
  have freed := conserves.res res
  rw [List.count_eq_zero_of_not_mem kept, if_pos (.inr allocated)] at freed
  exact absurd freed (by decide)

/--
A request that arrives balances exactly when nothing goes wrong before it is served.

A request that is suspended has nothing to balance yet.
-/
theorem conserves_arrived_iff (address : Nat) (o : Outcomes) (three : req.cbVers = 3) :
    ((nfsRpcProcessRequest address req false o).2.2 ≠ .xprtSuspend →
      Conserves none (nfsRpcProcessRequest address req false o).2.1) ↔ o.Clear := by
  obtain ⟨replyStat, stat⟩ := o.not_suspended
  constructor
  · intro balances
    by_cases allocates : o.allocates = true
    · by_cases authenticates : o.authenticates = true
      · by_cases checksums : o.checksums = true
        · exact ⟨allocates, authenticates, checksums⟩
        · rw [nfsRpcProcessRequest_garbled allocates authenticates (by simpa using checksums)]
            at balances
          exact absurd (balances replyStat) (not_conserves_of_leak List.mem_cons_self (by simp))
      · rw [nfsRpcProcessRequest_unauthenticated allocates (by simpa using authenticates)]
          at balances
        exact absurd (balances replyStat) (not_conserves_of_leak List.mem_cons_self (by simp))
    · -- Nothing is ever sent, and nobody notes that the request is dropped.
      rw [nfsRpcProcessRequest_unallocated (by simpa using allocates), freeArgs_three three]
        at balances
      have answered := (balances stat).answered
      exact absurd answered (by simp [RpcAct.answers])
  · intro clear
    rw [nfsRpcProcessRequest_clear clear]
    rcases serveRequest_cases { req with rqU2 := some address } three o with waits | ⟨rc, serves⟩
    · intro going
      rw [waits] at going
      exact absurd rfl going
    · intro _
      rw [serves]
      exact conserves_served rc (.inr ⟨rfl, rfl⟩)

/-- A request that is processed once more balances whatever happens. -/
theorem conserves_retried (address : Nat) (o : Outcomes) (three : req.cbVers = 3) {res : Nat}
    (held : req.rqU2 = some res)
    (going : (nfsRpcProcessRequest address req true o).2.2 ≠ .xprtSuspend) :
    Conserves req.rqU2 (nfsRpcProcessRequest address req true o).2.1 := by
  simp only [nfsRpcProcessRequest, if_true] at going ⊢
  rcases serveRequest_cases req three o with waits | ⟨rc, serves⟩
  · rw [waits] at going
    exact absurd rfl going
  · rw [serves, held]
    exact conserves_served rc (.inl ⟨rfl, rfl⟩)

end Requests

section Runs

/-- Every event so far went right before its request was served. -/
def RpcEvent.Clear : RpcEvent → Prop
  | arrived program header o => nfsRpcValid program header ≠ none → o.Clear
  | _ => True

/-- The live result objects are those of the suspended requests. -/
structure Workers.Balanced (workers : Workers) : Prop where
  held : (workers.suspended.map NfsRequest.rqU2).Perm (workers.live.map some)
  three : ∀ req ∈ workers.suspended, req.cbVers = 3

variable {workers after : Workers} {req : NfsRequest} {o : Outcomes}

/-- A balanced server has as many result objects as suspended requests. -/
theorem Workers.Balanced.length (balanced : workers.Balanced) :
    workers.live.length = workers.suspended.length := by
  simpa using balanced.held.length_eq.symm

/-- A suspended request holds a result object that is live. -/
theorem Workers.Balanced.holds (balanced : workers.Balanced) (waits : req ∈ workers.suspended) :
    ∃ res ∈ workers.live, req.rqU2 = some res := by
  have mapped := balanced.held.mem_iff.mp (List.mem_map_of_mem waits)
  obtain ⟨res, live, same⟩ := List.mem_map.mp mapped
  exact ⟨res, live, same.symm⟩

/-- Taking a request out along with its result object leaves the rest balanced. -/
theorem Workers.Balanced.released (balanced : workers.Balanced) (waits : req ∈ workers.suspended)
    {res : Nat} (live : res ∈ workers.live) (holds : req.rqU2 = some res) (address : Nat) :
    Workers.Balanced ⟨address, workers.live.erase res, workers.suspended.erase req⟩ where
  held := by
    -- Put back in front, both lists are what they were, so they still agree behind it.
    have requests := (List.perm_cons_erase waits).map NfsRequest.rqU2
    have results := (List.perm_cons_erase live).map some
    have agree := (requests.symm.trans balanced.held).trans results
    rw [List.map_cons, List.map_cons, holds] at agree
    exact agree.cons_inv
  three := fun other within => balanced.three other (List.mem_of_mem_erase within)

/-- Completing a request and freeing everything of it takes its result out of the live ones. -/
theorem onLive_completed (live : List Nat) (o : Outcomes) (rc : NfsReqResult) (res : Nat) :
    (completeRequest o rc ++ [RpcAct.xdrFreeArgs, .freeFunction (some res),
      .freeNfsRes (some res)]).foldl RpcAct.onLive live = live.erase res := by
  rcases completeRequest_cases o rc with done | done | done <;>
  · rw [done]
    rfl

/-- The same with the serving in front, which touches no result object. -/
theorem onLive_served (live : List Nat) (o : Outcomes) (rc : NfsReqResult) (res : Nat) :
    (RpcAct.served (some res) :: (completeRequest o rc ++ [RpcAct.xdrFreeArgs,
      .freeFunction (some res), .freeNfsRes (some res)])).foldl RpcAct.onLive live
      = live.erase res :=
  onLive_completed live o rc res

/-- A request that arrives and is clear leaves the server balanced. -/
theorem Workers.Balanced.arrived (balanced : workers.Balanced) (three : req.cbVers = 3)
    (clear : o.Clear) :
    (workers.processed (nfsRpcProcessRequest workers.address req false o)).Balanced := by
  rw [nfsRpcProcessRequest_clear clear]
  rcases serveRequest_cases { req with rqU2 := some workers.address } three o
    with waits | ⟨rc, serves⟩
  · -- The new request is suspended, and its result object is live.
    rw [waits]
    exact ⟨balanced.held.cons _, List.forall_mem_cons.mpr ⟨three, balanced.three⟩⟩
  · -- The new result object is gone again.
    rw [serves]
    have same : ([RpcAct.allocateRes workers.address, RpcAct.decodeArgs] ++
        RpcAct.served (some workers.address) :: (completeRequest o rc ++ [RpcAct.xdrFreeArgs,
          .freeFunction (some workers.address), .freeNfsRes (some workers.address)])).foldl
        RpcAct.onLive workers.live = workers.live := by
      rw [List.foldl_append, onLive_served]
      exact List.erase_cons_head workers.address workers.live
    unfold Workers.processed
    simp only [same, o.not_suspended.2, if_false]
    exact ⟨balanced.held, balanced.three⟩

/-- A suspended request that is processed once more leaves the server balanced. -/
theorem Workers.Balanced.retried (balanced : workers.Balanced) (waits : req ∈ workers.suspended)
    (o : Outcomes) :
    (({ workers with suspended := workers.suspended.erase req } : Workers).processed
      (nfsRpcProcessRequest workers.address req true o)).Balanced := by
  obtain ⟨res, live, holds⟩ := balanced.holds waits
  simp only [nfsRpcProcessRequest, if_true]
  rcases serveRequest_cases req (balanced.three req waits) o with again | ⟨rc, serves⟩
  · -- Suspended again, it is back where it was.
    rw [again]
    have back := List.perm_cons_erase waits
    refine ⟨(back.map _).symm.trans balanced.held, ?_⟩
    intro other within
    exact balanced.three other (back.mem_iff.mpr within)
  · rw [serves, holds]
    unfold Workers.processed
    simp only [onLive_served, o.not_suspended.2, if_false]
    exact balanced.released waits live holds _

/-- Every event that is clear leaves the server balanced. -/
theorem RpcStep.balanced {event : RpcEvent} (step : RpcStep workers event after)
    (clear : event.Clear) (balanced : workers.Balanced) : after.Balanced := by
  cases step with
  | refused _ => exact balanced
  | arrived valid =>
    refine balanced.arrived (nfsRpcValid_some valid).1 (clear ?_)
    simp [valid]
  | retried waits => exact balanced.retried waits _
  | finished waits =>
    obtain ⟨res, live, holds⟩ := balanced.holds waits
    rw [nfsRpcCompleteAsyncRequest, freeArgs_three (balanced.three _ waits), holds,
      onLive_completed]
    exact balanced.released waits live holds _

/-- In a run of clear events the server is balanced in every state. -/
theorem balanced_of_run {past : List RpcEvent} (run : Run RpcStep .start past workers)
    (clear : ∀ event ∈ past, event.Clear) : workers.Balanced := by
  induction run with
  | nil => exact ⟨List.Perm.nil, by simp [Workers.start]⟩
  | cons _ step ih =>
    have now := clear _ List.mem_cons_self
    exact step.balanced now (ih fun event within => clear event (List.mem_cons_of_mem _ within))

/--
Resources are conserved exactly by requests that are clear.

A request that arrives balances if and only if its result is allocated, its caller is
authenticated and its arguments decode. A suspended request always balances when it is taken up
again. In every run of such requests there are as many live result objects as requests in progress.
-/
theorem rpc_conserves_iff {past : List RpcEvent} {workers : Workers}
    (run : Run RpcStep .start past workers) (clear : ∀ event ∈ past, event.Clear) :
    workers.live.length = workers.suspended.length ∧
    (∀ program header req address o, nfsRpcValid program header = some req →
      (((nfsRpcProcessRequest address req false o).2.2 ≠ .xprtSuspend →
        Conserves none (nfsRpcProcessRequest address req false o).2.1) ↔ o.Clear)) ∧
    ∀ req ∈ workers.suspended, ∀ o,
      (nfsRpcProcessRequest workers.address req true o).2.2 ≠ .xprtSuspend →
        Conserves req.rqU2 (nfsRpcProcessRequest workers.address req true o).2.1 := by
  have balanced := balanced_of_run run clear
  refine ⟨balanced.length, ?_, ?_⟩
  · intro program header req address o valid
    exact conserves_arrived_iff address o (nfsRpcValid_some valid).1
  · -- A suspended request holds the result object that was allocated when it arrived.
    intro req waits o going
    obtain ⟨res, _, holds⟩ := balanced.holds waits
    exact conserves_retried workers.address o (balanced.three req waits) holds going

/-- A GETATTR that nothing goes wrong with before it is served. -/
def clearCall (serviceRc : NfsReqResult) : RpcEvent :=
  .arrived .nfs ⟨100003, 3, 1⟩ ⟨true, true, true, serviceRc, .xprtIdle, .xprtIdle, by decide⟩

/-- One GETATTR is served and balances, and another is suspended and holds the one live result. -/
theorem rpc_conserves_two :
    (Conserves none (nfsRpcProcessRequest 0 ⟨3, 1, false, none⟩ false
      ⟨true, true, true, .nfsReqOk, .xprtIdle, .xprtIdle, by decide⟩).2.1) ∧
    ∃ workers, Run RpcStep .start [clearCall .nfsReqAsyncWait, clearCall .nfsReqOk] workers ∧
      workers.live.length = workers.suspended.length ∧ workers.suspended.length = 1 := by
  have valid : nfsRpcValid .nfs ⟨100003, 3, 1⟩ = some ⟨3, 1, false, none⟩ := rfl
  obtain ⟨workers, run, one⟩ : ∃ workers, Run RpcStep .start
      [clearCall .nfsReqAsyncWait, clearCall .nfsReqOk] workers ∧ workers.suspended.length = 1 :=
    ⟨_, .cons (.cons .nil (.arrived valid)) (.arrived valid), rfl⟩
  have clear : ∀ event ∈ [clearCall .nfsReqAsyncWait, clearCall .nfsReqOk], event.Clear := by
    simp [clearCall, RpcEvent.Clear, Outcomes.Clear]
  have conserves := rpc_conserves_iff run clear
  exact ⟨(conserves.2.1 _ _ _ 0 _ valid).mpr (by decide) (by decide), workers, run, conserves.1,
    one⟩

/-- A GETATTR whose arguments do not decode. -/
def garbledCall : RpcEvent :=
  .arrived .nfs ⟨100003, 3, 1⟩ ⟨true, true, false, .nfsReqOk, .xprtIdle, .xprtIdle, by decide⟩

/-- After one call with arguments that do not decode, a result object is live and no request is. -/
theorem rpc_leaks_result : ∃ workers, Run RpcStep .start [garbledCall] workers ∧
    workers.live = [0] ∧ workers.suspended = [] :=
  ⟨_, .cons .nil (.arrived rfl), rfl, rfl⟩

end Runs

end Dnfs
