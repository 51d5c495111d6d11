import Dnfs.Nfs.Utils
import Dnfs.Run.Trace

/-! Processing a request once it is off the wire: its result object, arguments and answer. -/

namespace Dnfs

section Requests

/-- The programs the server is registered for. -/
inductive Program where
  | nfs | mnt
  deriving DecidableEq, Repr

/-- The number of a program. -/
def Program.number : Program → UInt32
  | nfs => 100003
  | mnt => 100005

/-- The last procedure of a program. -/
def Program.lastProc : Program → UInt32
  | nfs => 21
  | mnt => 5

/-- What a call asks for. -/
structure CallHeader where
  cbProg : UInt32
  cbVers : UInt32
  cbProc : UInt32
  deriving DecidableEq, Repr

/-- A request the dispatcher has found a description for. -/
structure NfsRequest where
  cbVers : UInt32
  cbProc : UInt32
  /-- Whether the description is the one of no procedure. -/
  invalidFuncdesc : Bool
  /-- Where the result object lies. A request starts out zeroed, so this starts out null. -/
  rqU2 : Option Nat
  deriving DecidableEq, Repr

/-- Find the description of a call, or answer it with an error at once. -/
def nfsRpcValid (program : Program) (header : CallHeader) : Option NfsRequest :=
  if header.cbProg ≠ program.number then none
  else if header.cbVers = 3 then
    if header.cbProc ≤ program.lastProc then
      some
        { cbVers := header.cbVers, cbProc := header.cbProc, invalidFuncdesc := false, rqU2 := none }
    else none
  else none

/-- What a transport reports, and what processing a request returns. -/
inductive XprtStat where
  | xprtIdle | xprtMorereqs | xprtSuspend | xprtDied | xprtDestroyed
  deriving DecidableEq, Repr

/-- The two reports that come last in their order. -/
def XprtStat.died : XprtStat → Bool
  | xprtDied => true
  | xprtDestroyed => true
  | _ => false

/-- How everything outside of the processing turns out. -/
structure Outcomes where
  /-- Whether there is memory for a result object. -/
  allocates : Bool
  /-- Whether the caller is authenticated. -/
  authenticates : Bool
  /-- Whether the arguments pass their checksum and decode. -/
  checksums : Bool
  /-- What the service function returns. -/
  serviceRc : NfsReqResult
  /-- What sending a reply or an error reports. -/
  reply : XprtStat
  /-- What the transport reports in the end. -/
  stat : XprtStat
  /-- No transport reports a suspended request. -/
  not_suspended : reply ≠ .xprtSuspend ∧ stat ≠ .xprtSuspend
  deriving DecidableEq, Repr

end Requests

section Processing

variable (req : NfsRequest)

/-- What is done with the resources of a request. -/
inductive RpcAct where
  | allocateRes (res : Nat)
  /-- Decoding was tried, so the arguments may hold memory. -/
  | decodeArgs
  /-- The service function is done with a result, or there was nothing to serve. -/
  | served (res : Option Nat)
  | sendReply
  | svcDestroy
  | svcerrAuth
  | svcerrDecode
  | dropRequest
  | xdrFreeArgs
  | freeFunction (res : Option Nat)
  | freeNfsRes (res : Option Nat)
  deriving DecidableEq, Repr

/-- Allocate a result object, and point the request to it. -/
def nfsDupreqStart (address : Nat) (o : Outcomes) (req : NfsRequest) :
    Option (NfsRequest × List RpcAct) :=
  if o.allocates then some ({ req with rqU2 := some address }, [.allocateRes address]) else none

/-- Free what a result holds, and the result, whether or not there is one. -/
def nfsDupreqRele : List RpcAct :=
  [.freeFunction req.rqU2, .freeNfsRes req.rqU2]

/-- Free the arguments and the result. -/
def freeArgs : List RpcAct :=
  (if req.cbVers = 2 ∨ req.cbVers = 3 ∨ req.cbVers = 4 then [.xdrFreeArgs] else []) ++
    nfsDupreqRele req

/-- Send the reply, unless the request is dropped. -/
def completeRequest (o : Outcomes) (rc : NfsReqResult) : List RpcAct :=
  if rc = .nfsReqDrop then [.dropRequest]
  else if o.reply.died then [.sendReply, .svcDestroy]
  else [.sendReply]

/-- Serve a request whose arguments are decoded, which may leave it suspended. -/
def serveRequest (o : Outcomes) : List RpcAct × XprtStat :=
  -- Neither the procedure that does nothing nor an unknown one has anything to serve.
  if req.invalidFuncdesc = false ∧ req.cbProc ≠ 0 then
    if o.serviceRc = .nfsReqAsyncWait then ([], .xprtSuspend)
    else (.served req.rqU2 :: (completeRequest o o.serviceRc ++ freeArgs req), o.stat)
  else (.served req.rqU2 :: (completeRequest o .nfsReqOk ++ freeArgs req), o.stat)

/--
Process a request, given where its result object would be allocated.

The request is returned as it is left, for one that is suspended is taken up again.
-/
def nfsRpcProcessRequest (address : Nat) (req : NfsRequest) (retry : Bool) (o : Outcomes) :
    NfsRequest × List RpcAct × XprtStat :=
  if retry then (req, serveRequest req o)
  else
    match nfsDupreqStart address o req with
    -- Without memory everything is freed, though nothing was allocated or decoded.
    | none => (req, freeArgs req, o.stat)
    | some (req, started) =>
      -- The error is sent, and the result object stays behind.
      if o.authenticates = false then (req, started ++ [.svcerrAuth], o.reply)
      else if o.checksums = false then
        -- The arguments are freed, and the result object stays behind.
        (req, started ++ [.decodeArgs, .xdrFreeArgs, .svcerrDecode], o.reply)
      else
        let (acts, stat) := serveRequest req o
        (req, started ++ .decodeArgs :: acts, stat)

/-- Finish a request that was suspended. -/
def nfsRpcCompleteAsyncRequest (o : Outcomes) (rc : NfsReqResult) : List RpcAct :=
  completeRequest o rc ++ freeArgs req

end Processing

section Runs

/-- The result objects that are allocated, and the requests that are suspended. -/
structure Workers where
  /-- Where the next result object lies. -/
  address : Nat
  live : List Nat
  suspended : List NfsRequest
  deriving DecidableEq, Repr

/-- No request has come in yet. -/
def Workers.start : Workers := ⟨0, [], []⟩

/-- What an act does to the result objects. -/
def RpcAct.onLive (live : List Nat) : RpcAct → List Nat
  | allocateRes res => res :: live
  | freeNfsRes (some res) => live.erase res
  | _ => live

/-- What happens to the server as a whole. -/
inductive RpcEvent where
  /-- A call comes in. -/
  | arrived (program : Program) (header : CallHeader) (o : Outcomes)
  /-- A suspended request is processed once more. -/
  | retried (req : NfsRequest) (o : Outcomes)
  /-- A suspended request is finished. -/
  | finished (req : NfsRequest) (o : Outcomes) (rc : NfsReqResult)
  deriving DecidableEq, Repr

/-- A processed request is suspended or is not, and its acts are done. -/
def Workers.processed (workers : Workers) (processed : NfsRequest × List RpcAct × XprtStat) :
    Workers where
  address := workers.address + 1
  live := processed.2.1.foldl RpcAct.onLive workers.live
  suspended :=
    if processed.2.2 = .xprtSuspend then processed.1 :: workers.suspended else workers.suspended

/-- One event after another. -/
inductive RpcStep : Workers → RpcEvent → Workers → Prop where
  /-- A call that no description is found for allocates nothing. -/
  | refused {workers program header o} : nfsRpcValid program header = none →
    RpcStep workers (.arrived program header o) workers
  | arrived {workers program header o req} : nfsRpcValid program header = some req →
    RpcStep workers (.arrived program header o)
      (workers.processed (nfsRpcProcessRequest workers.address req false o))
  | retried {workers req o} : req ∈ workers.suspended →
    RpcStep workers (.retried req o)
      (({ workers with suspended := workers.suspended.erase req } : Workers).processed
        (nfsRpcProcessRequest workers.address req true o))
  | finished {workers req o rc} : req ∈ workers.suspended →
    RpcStep workers (.finished req o rc)
      { workers with
        live := (nfsRpcCompleteAsyncRequest req o rc).foldl RpcAct.onLive workers.live
        suspended := workers.suspended.erase req }

end Runs

end Dnfs
