import Dnfs.Nfs.Listing
import Dnfs.Nfs.Namespace
import Dnfs.Nfs.WriteLaws
import Dnfs.Run.Trace

/-! The table of procedures, serving requests by it, and what no procedure touches. -/

namespace Dnfs

variable {σ : Type}

section Table

/-- The function the table gives for serving a procedure. Only RENAME can end the server. -/
def Proc.serviceFunc (k : Kernel σ) (env : Env) (server : Server σ) :
    (p : Proc) → p.Args → Mem → Option (Served σ)
  | null, _, res => some (server.done (nfsNull server.fs res))
  | getattr, args, res => some (server.done (nfs3Getattr k env server.fs args res))
  | setattr, args, res => some (server.done (nfs3Setattr k env server.fs args res))
  | lookup, args, res => some (server.done (nfs3Lookup k env server.fs args res))
  | access, args, res => some (server.done (nfs3Access k env server.fs args res))
  | readlink, args, res => some (server.done (nfs3Readlink k env server.fs args res))
  | read, args, res => some (server.done (nfs3Read k env server.fs args res))
  | write, args, res => some (nfs3Write k env server args res)
  | create, args, res => some (server.done (nfs3Create k env server.fs args res))
  | mkdir, args, res => some (server.done (nfs3Mkdir k env server.fs args res))
  | symlink, args, res => some (server.done (nfs3Symlink k env server.fs args res))
  | mknod, args, res => some (server.done (nfs3Mknod k env server.fs args res))
  | remove, args, res => some (server.done (nfs3Remove k env server.fs args res))
  | rmdir, args, res => some (server.done (nfs3Rmdir k env server.fs args res))
  | rename, args, res => (nfs3Rename k env server.fs args res).map server.done
  | link, args, res => some (server.done (nfs3Link k env server.fs args res))
  | readdir, args, res => some (server.done (nfs3Readdir k env server.fs args res))
  | readdirplus, args, res => some (server.done (nfs3Readdirplus k env server.fs args res))
  | fsstat, args, res => some (server.done (nfs3Fsstat k env server.fs args res))
  | fsinfo, args, res => some (server.done (nfs3Fsinfo k env server.fs args res))
  | pathconf, args, res => some (server.done (nfs3Pathconf k env server.fs args res))
  | commit, args, res => some (nfs3Commit k env server args res)

/-- The bytes of the reply to a served request, unless its result cannot be encoded. -/
def Proc.reply (env : Env) (p : Proc) (served : Served σ) : Option Bytes :=
  encodeOf p.xdrEncodeFunc (p.load (served.heap env) served.res)

/-- A request that was served, and what serving it left behind. -/
structure ServeEvent (σ : Type) where
  env : Env
  proc : Proc
  args : proc.Args
  served : Served σ

/-- Serving one request after another, each from whatever memory its result is given. -/
def ServeStep (k : Kernel σ) (server : Server σ) (event : ServeEvent σ) (after : Server σ) : Prop :=
  ∃ res, event.proc.serviceFunc k event.env server event.args res = some event.served ∧
    after = event.served.server

end Table

section Kept

/-- WRITE only reads the verifier. -/
theorem nfs3Write_verifier (k : Kernel σ) (env : Env) (server : Server σ) (args : Write3args)
    (res : Mem) :
    (nfs3Write k env server args res).server.nfs3WriteVerifier = server.nfs3WriteVerifier := by
  by_cases reaches : args.Reaches k server.fs
  · exact (nfs3Write_served env res reaches).verifier
  · rw [(nfs3Write_stopped reaches).1]

/-- COMMIT only reads the verifier. -/
theorem nfs3Commit_verifier (k : Kernel σ) (env : Env) (server : Server σ) (args : Commit3args)
    (res : Mem) :
    (nfs3Commit k env server args res).server.nfs3WriteVerifier = server.nfs3WriteVerifier := by
  unfold nfs3Commit
  dsimp only
  repeat' split
  all_goals rfl

/-- Whatever is served, every copy of the verifier stays what it was. -/
theorem Proc.serviceFunc_verifier {k : Kernel σ} {env : Env} {server : Server σ} {p : Proc}
    {args : p.Args} {res : Mem} {served : Served σ}
    (serves : p.serviceFunc k env server args res = some served) :
    served.server.nfs3WriteVerifier = server.nfs3WriteVerifier := by
  cases p with
  | write =>
    obtain rfl := Option.some.inj serves
    exact nfs3Write_verifier k env server args res
  | commit =>
    obtain rfl := Option.some.inj serves
    exact nfs3Commit_verifier k env server args res
  | rename =>
    obtain ⟨done, _, rfl⟩ := Option.map_eq_some_iff.mp serves
    rfl
  -- The others have no way to reach anything but the file system.
  | _ =>
    obtain rfl := Option.some.inj serves
    rfl

/-- In every run the copies of the verifier stay what initialization left in them. -/
theorem verifier_of_run {k : Kernel σ} {start server : Server σ} {past : List (ServeEvent σ)}
    (run : Run (ServeStep k) start past server) :
    server.nfs3WriteVerifier = start.nfs3WriteVerifier := by
  refine run.invariant (fun _ s => s.nfs3WriteVerifier = start.nfs3WriteVerifier) rfl ?_
  rintro past s event t same ⟨res, serves, rfl⟩
  exact (Proc.serviceFunc_verifier serves).trans same

end Kept

end Dnfs
