import Dnfs.Nfs.Dispatch
import Dnfs.Nfs.RoundTrip

/-! One call as a client sees it: the request is served, its result sent and read back. -/

namespace Dnfs

variable {σ : Type}

/-- A client has some object of every result type to read into. -/
instance Proc.instInhabitedRes : (p : Proc) → Inhabited p.Res
  | null => ⟨()⟩
  | getattr => inferInstanceAs (Inhabited Getattr3res)
  | setattr => inferInstanceAs (Inhabited Setattr3res)
  | lookup => inferInstanceAs (Inhabited Lookup3res)
  | access => inferInstanceAs (Inhabited Access3res)
  | readlink => inferInstanceAs (Inhabited Readlink3res)
  | read => inferInstanceAs (Inhabited Read3res)
  | write => inferInstanceAs (Inhabited Write3res)
  | create => inferInstanceAs (Inhabited Creation3res)
  | mkdir => inferInstanceAs (Inhabited Creation3res)
  | symlink => inferInstanceAs (Inhabited Creation3res)
  | mknod => inferInstanceAs (Inhabited Creation3res)
  | remove => inferInstanceAs (Inhabited Wcc3res)
  | rmdir => inferInstanceAs (Inhabited Wcc3res)
  | rename => inferInstanceAs (Inhabited Rename3res)
  | link => inferInstanceAs (Inhabited Link3res)
  | readdir => inferInstanceAs (Inhabited Readdir3res)
  | readdirplus => inferInstanceAs (Inhabited Readdirplus3res)
  | fsstat => inferInstanceAs (Inhabited Fsstat3res)
  | fsinfo => inferInstanceAs (Inhabited Fsinfo3res)
  | pathconf => inferInstanceAs (Inhabited Pathconf3res)
  | commit => inferInstanceAs (Inhabited Commit3res)

/-- What a client reads off the reply to one call, if it gets one, and the server after it. -/
def Proc.ask (k : Kernel σ) (env : Env) (server : Server σ) (p : Proc) (args : p.Args) (res : Mem) :
    Option (p.Res × Server σ) :=
  (p.serviceFunc k env server args res).bind fun served =>
  (p.reply env served).bind fun bytes =>
  (decodeOf p.xdrEncodeFunc bytes).map fun (reply, _) => (reply, served.server)

/-- A result that is well formed reaches the client as it is. -/
theorem Proc.ask_of_wf {k : Kernel σ} {env : Env} {server : Server σ} {p : Proc} {args : p.Args}
    {res : Mem} {served : Served σ} {x : p.Res}
    (serves : p.serviceFunc k env server args res = some served)
    (loads : p.load (served.heap env) served.res = x) (good : p.ResWf id x) :
    p.ask k env server args res = some (x, served.server) := by
  obtain ⟨bytes, carried⟩ := p.res_lawful.carries x good
  have sent : p.reply env served = some bytes := by
    rw [Proc.reply, loads]
    exact carried.encodeOf
  have received : decodeOf p.xdrEncodeFunc bytes = some (x, []) := carried.decodeOf
  simp only [Proc.ask, serves, Option.bind_some, sent, received, Option.map_some]

end Dnfs
