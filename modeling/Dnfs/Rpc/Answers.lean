import Dnfs.Rpc.Conservation

/-! How many answers a server gives and how many result objects it loses, over whole runs. -/

namespace Dnfs

section Events

/-- What is done when an event happens. -/
def RpcEvent.acts (workers : Workers) : RpcEvent → List RpcAct
  | arrived program header o =>
    match nfsRpcValid program header with
    | none => []
    | some req => (nfsRpcProcessRequest workers.address req false o).2.1
  | retried req o => (nfsRpcProcessRequest workers.address req true o).2.1
  | finished req o rc => nfsRpcCompleteAsyncRequest req o rc

/-- The workers, and everything they did. -/
abbrev RpcHistory := Workers × List RpcAct

/-- One event after another, with what is done noted down. -/
def RpcNoted (s : RpcHistory) (event : RpcEvent) (t : RpcHistory) : Prop :=
  RpcStep s.1 event t.1 ∧ t.2 = event.acts s.1 ++ s.2

/-- A call arrives that a description is found for, and turns out in some way. -/
def RpcEvent.accepted (turns : Outcomes → Bool) : RpcEvent → Bool
  | arrived program header o => (nfsRpcValid program header).isSome && turns o
  | _ => false

/-- There is memory, and then the caller or the arguments are rejected. -/
def Outcomes.rejects (o : Outcomes) : Bool := o.allocates && !(o.authenticates && o.checksums)

end Events

section Accounts

/-- The live result objects are those of the suspended requests and some that were lost. -/
structure Workers.Accounts (workers : Workers) (lost : List Nat) : Prop where
  held : (workers.suspended.map NfsRequest.rqU2 ++ lost.map some).Perm (workers.live.map some)
  three : ∀ req ∈ workers.suspended, req.cbVers = 3 ∧ req.rqU2.isSome = true

variable {workers after : Workers} {lost : List Nat} {req : NfsRequest} {o : Outcomes}

/-- A request that is taken out takes its result object along. -/
theorem Workers.Accounts.released (accounts : workers.Accounts lost)
    (waits : req ∈ workers.suspended) {res : Nat} (holds : req.rqU2 = some res) (address : Nat) :
    Workers.Accounts ⟨address, workers.live.erase res, workers.suspended.erase req⟩ lost where
  held := by
    have requests := ((List.perm_cons_erase waits).map NfsRequest.rqU2).append_right
      (lost.map some)
    have agree := requests.symm.trans accounts.held
    rw [List.map_cons, List.cons_append, holds] at agree
    -- What the request holds is one of the live objects.
    have live : res ∈ workers.live := by
      have mapped := agree.mem_iff.mp List.mem_cons_self
      simpa using mapped
    exact (agree.trans ((List.perm_cons_erase live).map some)).cons_inv
  three := fun other within => accounts.three other (List.mem_of_mem_erase within)

/-- Completing a request gives one answer, whatever is done about its resources. -/
theorem countP_completed (o : Outcomes) (rc : NfsReqResult) (held : Option Nat) :
    (completeRequest o rc ++ [RpcAct.xdrFreeArgs, .freeFunction held, .freeNfsRes held]).countP
      RpcAct.answers = 1 := by
  rcases completeRequest_cases o rc with done | done | done <;>
  · rw [done]
    rfl

/-- What is true of the workers and of all that happened and was done so far. -/
structure RpcTally (past : List RpcEvent) (s : RpcHistory) (lost : List Nat) : Prop where
  accounts : s.1.Accounts lost
  lost : lost.length = past.countP (RpcEvent.accepted Outcomes.rejects)
  /-- Every call is answered, suspended, or forgotten for want of memory. -/
  answered : s.2.countP RpcAct.answers + s.1.suspended.length
      + past.countP (RpcEvent.accepted fun o => !o.allocates)
    = past.countP (RpcEvent.accepted fun _ => true)

variable {past : List RpcEvent} {acts done : List RpcAct} {program : Program} {header : CallHeader}

/-- A request that is not suspended leaves the suspended ones alone. -/
theorem Workers.processed_going (workers : Workers) (req : NfsRequest) (done : List RpcAct)
    {stat : XprtStat} (going : stat ≠ .xprtSuspend) :
    workers.processed (req, done, stat)
      = ⟨workers.address + 1, done.foldl RpcAct.onLive workers.live, workers.suspended⟩ := by
  simp [Workers.processed, going]

/-- What a call has to add to the tally. -/
theorem RpcTally.next (tally : RpcTally past (workers, acts) lost)
    (valid : nfsRpcValid program header = some req) (more : List Nat)
    (accounts : after.Accounts (more ++ lost))
    (loses : more.length = if o.rejects then 1 else 0)
    (ends : done.countP RpcAct.answers + after.suspended.length + (if o.allocates then 0 else 1)
      = workers.suspended.length + 1) :
    ∃ lost', RpcTally (.arrived program header o :: past) (after, done ++ acts) lost' := by
  have answered := tally.answered
  dsimp only at answered
  refine ⟨more ++ lost, accounts, ?_, ?_⟩
  · simp [List.countP_cons, RpcEvent.accepted, valid, loses, tally.lost, Nat.add_comm]
  · simp [List.countP_cons, RpcEvent.accepted, valid]
    cases allocates : o.allocates <;> simp [allocates] at ends ⊢ <;> omega

/-- A call that arrives is answered, suspended or forgotten, and loses its object if rejected. -/
theorem RpcTally.arrived (tally : RpcTally past (workers, acts) lost)
    (valid : nfsRpcValid program header = some req) :
    ∃ lost', RpcTally (.arrived program header o :: past)
      (workers.processed (nfsRpcProcessRequest workers.address req false o),
        (nfsRpcProcessRequest workers.address req false o).2.1 ++ acts) lost' := by
  obtain ⟨three, _, fresh⟩ := nfsRpcValid_some valid
  obtain ⟨replies, stat⟩ := o.not_suspended
  have accounts := tally.accounts
  -- One object is lost in both ways to reject the call.
  have grown : (workers.suspended.map NfsRequest.rqU2 ++ (workers.address :: lost).map some).Perm
      ((workers.address :: workers.live).map some) :=
    List.perm_middle.trans (accounts.held.cons _)
  by_cases allocates : o.allocates = true
  · by_cases authenticates : o.authenticates = true
    · by_cases checksums : o.checksums = true
      · rw [nfsRpcProcessRequest_clear ⟨allocates, authenticates, checksums⟩]
        rcases serveRequest_cases { req with rqU2 := some workers.address } three o
          with waits | ⟨rc, serves⟩
        · rw [waits]
          refine tally.next valid [] ⟨accounts.held.cons _,
            List.forall_mem_cons.mpr ⟨⟨three, rfl⟩, accounts.three⟩⟩ ?_ ?_
          · simp [Outcomes.rejects, authenticates, checksums]
          · simp [Workers.processed, allocates, RpcAct.answers]
        · rw [serves, Workers.processed_going _ _ _ stat, List.foldl_append, onLive_served]
          refine tally.next valid [] ⟨?_, accounts.three⟩ ?_ ?_
          · simpa [RpcAct.onLive] using accounts.held
          · simp [Outcomes.rejects, authenticates, checksums]
          · have once := countP_completed o rc (some workers.address)
            simp [allocates, RpcAct.answers] at once ⊢
            omega
      · rw [nfsRpcProcessRequest_garbled allocates authenticates (by simpa using checksums),
          Workers.processed_going _ _ _ replies]
        refine tally.next valid [workers.address] ⟨grown, accounts.three⟩ ?_ ?_
        · simp [Outcomes.rejects, allocates, checksums]
        · simp [allocates, List.countP_cons, RpcAct.answers, Nat.add_comm]
    · rw [nfsRpcProcessRequest_unauthenticated allocates (by simpa using authenticates),
        Workers.processed_going _ _ _ replies]
      refine tally.next valid [workers.address] ⟨grown, accounts.three⟩ ?_ ?_
      · simp [Outcomes.rejects, allocates, authenticates]
      · simp [allocates, List.countP_cons, RpcAct.answers, Nat.add_comm]
  · rw [nfsRpcProcessRequest_unallocated (by simpa using allocates), freeArgs_three three, fresh,
      Workers.processed_going _ _ _ stat]
    refine tally.next valid [] ⟨accounts.held, accounts.three⟩ ?_ ?_
    · simp [Outcomes.rejects, allocates]
    · simp [allocates, RpcAct.answers]

/-- A request that leaves is answered once, and takes its result object along. -/
theorem RpcTally.left (tally : RpcTally past (workers, acts) lost)
    (waits : req ∈ workers.suspended) (event : RpcEvent) (ends : done.countP RpcAct.answers = 1)
    (frees : ∀ res, req.rqU2 = some res →
      done.foldl RpcAct.onLive workers.live = workers.live.erase res)
    (other : ∀ turns, event.accepted turns = false) (address : Nat) :
    RpcTally (event :: past) (⟨address, done.foldl RpcAct.onLive workers.live,
      workers.suspended.erase req⟩, done ++ acts) lost := by
  obtain ⟨accounts, counted, answered⟩ := tally
  dsimp only at answered
  obtain ⟨res, holds⟩ := Option.isSome_iff_exists.mp (accounts.three req waits).2
  have fewer := List.length_erase_of_mem waits
  have some := List.length_pos_of_mem waits
  refine ⟨?_, ?_, ?_⟩
  · rw [frees res holds]
    exact accounts.released waits holds address
  · simp [other, counted]
  · simp [other, ends, fewer]
    omega

/-- A suspended request that is processed once more is answered, or is suspended once more. -/
theorem RpcTally.retried (tally : RpcTally past (workers, acts) lost)
    (waits : req ∈ workers.suspended) :
    RpcTally (.retried req o :: past)
      (({ workers with suspended := workers.suspended.erase req } : Workers).processed
        (nfsRpcProcessRequest workers.address req true o),
        (nfsRpcProcessRequest workers.address req true o).2.1 ++ acts) lost := by
  simp only [nfsRpcProcessRequest, if_true]
  rcases serveRequest_cases req (tally.accounts.three req waits).1 o with again | ⟨rc, serves⟩
  · -- It is back where it was, and nothing was done.
    rw [again]
    have back := List.perm_cons_erase waits
    refine ⟨⟨((back.map _).symm.append_right _).trans tally.accounts.held, ?_⟩, tally.lost, ?_⟩
    · intro other within
      exact tally.accounts.three other (back.mem_iff.mpr within)
    · have answered := tally.answered
      rw [back.length_eq] at answered
      exact answered
  · rw [serves, Workers.processed_going _ _ _ o.not_suspended.2]
    refine tally.left waits (.retried req o) ?_ ?_ (fun _ => rfl) _
    · exact countP_completed o rc req.rqU2
    · intro res holds
      rw [holds]
      exact onLive_served workers.live o rc res

/-- A suspended request that is finished is answered. -/
theorem RpcTally.finished (tally : RpcTally past (workers, acts) lost)
    (waits : req ∈ workers.suspended) (rc : NfsReqResult) :
    RpcTally (.finished req o rc :: past)
      ({ workers with
        live := (nfsRpcCompleteAsyncRequest req o rc).foldl RpcAct.onLive workers.live
        suspended := workers.suspended.erase req },
        nfsRpcCompleteAsyncRequest req o rc ++ acts) lost := by
  rw [nfsRpcCompleteAsyncRequest, freeArgs_three (tally.accounts.three req waits).1]
  refine tally.left waits (.finished req o rc) (countP_completed o rc req.rqU2) ?_ (fun _ => rfl) _
  intro res holds
  rw [holds]
  exact onLive_completed workers.live o rc res

/-- Every event leaves a tally. -/
theorem RpcTally.step {s t : RpcHistory} {event : RpcEvent} (tally : RpcTally past s lost)
    (noted : RpcNoted s event t) : ∃ lost', RpcTally (event :: past) t lost' := by
  obtain ⟨workers, acts⟩ := s
  obtain ⟨after, done⟩ := t
  obtain ⟨step, rfl⟩ := noted
  cases step with
  | refused unknown =>
    -- A call that is refused here counts for nothing.
    refine ⟨lost, tally.accounts, ?_, ?_⟩
    · simpa [RpcEvent.accepted, unknown] using tally.lost
    · simpa [RpcEvent.acts, RpcEvent.accepted, unknown] using tally.answered
  | arrived valid =>
    obtain ⟨lost', arrived⟩ := tally.arrived valid
    refine ⟨lost', ?_⟩
    simp only [RpcEvent.acts, valid]
    exact arrived
  | retried waits => exact ⟨lost, tally.retried waits⟩
  | finished waits => exact ⟨lost, tally.finished waits _⟩

end Accounts

section Runs

/--
The answers and the lost result objects can be told from the calls alone.

Over any run, the live result objects are those of the suspended requests and one for every call
that was rejected after the allocation. Every call a description was found for is answered, is
suspended, or was forgotten for want of memory.
-/
theorem rpc_tallies {past : List RpcEvent} {workers : Workers} {acts : List RpcAct}
    (run : Run RpcNoted (.start, []) past (workers, acts)) :
    workers.live.length
      = workers.suspended.length + past.countP (RpcEvent.accepted Outcomes.rejects) ∧
    acts.countP RpcAct.answers + workers.suspended.length
      + past.countP (RpcEvent.accepted fun o => !o.allocates)
      = past.countP (RpcEvent.accepted fun _ => true) := by
  have initially : RpcTally [] (.start, []) [] :=
    ⟨⟨List.Perm.nil, List.forall_mem_nil _⟩, rfl, rfl⟩
  obtain ⟨lost, accounts, counted, answered⟩ := run.invariant
    (fun past s => ∃ lost, RpcTally past s lost) ⟨[], initially⟩
    fun _ _ _ _ ⟨_, tally⟩ noted => tally.step noted
  have lengths := accounts.held.length_eq
  simp only [List.length_append, List.length_map, counted] at lengths
  exact ⟨lengths.symm, answered⟩

/-- Of a suspended call, a rejected one and a served one, two results live and two are answered. -/
theorem rpc_tallies_three : ∃ workers acts, Run RpcNoted (.start, [])
      [clearCall .nfsReqOk, garbledCall, clearCall .nfsReqAsyncWait] (workers, acts) ∧
    workers.live.length = 2 ∧ acts.countP RpcAct.answers = 2 := by
  have valid : nfsRpcValid .nfs ⟨100003, 3, 1⟩ = some ⟨3, 1, false, none⟩ := rfl
  have one : Run RpcNoted (.start, []) [clearCall .nfsReqAsyncWait] (_, _) :=
    .cons .nil ⟨.arrived valid, rfl⟩
  have two : Run RpcNoted (.start, []) [garbledCall, clearCall .nfsReqAsyncWait] (_, _) :=
    .cons one ⟨.arrived valid, rfl⟩
  have three : Run RpcNoted (.start, [])
      [clearCall .nfsReqOk, garbledCall, clearCall .nfsReqAsyncWait] (_, _) :=
    .cons two ⟨.arrived valid, rfl⟩
  obtain ⟨live, answered⟩ := rpc_tallies three
  exact ⟨_, _, three, live, Nat.succ.inj answered⟩

end Runs

end Dnfs
