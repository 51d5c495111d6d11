import Dnfs.Xdr.Loop

/-! The lists of the MOUNT protocol: groups, exports and mounts, each moved by a loop. -/

namespace Dnfs

/-- The longest path of an exported or mounted directory. -/
def mntPathLen : Nat := 1024

/-- The longest name of a host or a group. -/
def mntNamLen : Nat := 255

/-- One exported directory and the groups it is exported to. -/
structure Exportnode where
  exDir : Bytes
  exGroups : List Bytes
  deriving DecidableEq, Repr, Inhabited

/-- One mount: the host that made it and the directory it mounted. -/
structure Mountbody where
  mlHostname : Bytes
  mlDirectory : Bytes
  deriving DecidableEq, Repr, Inhabited

/-- Paths of directories. -/
def xdrDirpath : Xdrproc Bytes := xdrString mntPathLen

/-- Names of hosts and groups. -/
def xdrName : Xdrproc Bytes := xdrString mntNamLen

/-- A node of a group list is its name. -/
def xdrGroupnodeX : Xdrproc Bytes := fun xdrs objp =>
  xdrs.field xdrName objp fun xdrs grName => some (xdrs, grName)

/-- The groups of an export. -/
def xdrGroups : Xdrproc (List Bytes) := xdrLoop xdrGroupnodeX []

/-- A node of an export list is its directory and its groups. -/
def xdrExportnodeX : Xdrproc Exportnode := fun xdrs objp =>
  xdrs.field xdrDirpath objp.exDir fun xdrs exDir =>
  xdrs.field xdrGroups objp.exGroups fun xdrs exGroups =>
  some (xdrs, { exDir, exGroups })

/-- The exports of a server. -/
def xdrExports : Xdrproc (List Exportnode) := xdrLoop xdrExportnodeX { exDir := [], exGroups := [] }

/-- A node of a mount list is its host and its directory. -/
def xdrMountbodyX : Xdrproc Mountbody := fun xdrs objp =>
  xdrs.field xdrName objp.mlHostname fun xdrs mlHostname =>
  xdrs.field xdrDirpath objp.mlDirectory fun xdrs mlDirectory =>
  some (xdrs, { mlHostname, mlDirectory })

/-- The mounts of a server. -/
def xdrMountlist : Xdrproc (List Mountbody) :=
  xdrLoop xdrMountbodyX { mlHostname := [], mlDirectory := [] }

/-- A group name can be sent. -/
def GroupWf (name : Bytes) : Prop := 0 ∉ name ∧ name.length ≤ mntNamLen

/-- An export can be sent when its directory and all its groups can. -/
def Exportnode.Wf (node : Exportnode) : Prop :=
  (0 ∉ node.exDir ∧ node.exDir.length ≤ mntPathLen) ∧ ∀ name ∈ node.exGroups, GroupWf name

/-- A mount can be sent when its host and its directory can. -/
def Mountbody.Wf (body : Mountbody) : Prop :=
  (0 ∉ body.mlHostname ∧ body.mlHostname.length ≤ mntNamLen) ∧
    (0 ∉ body.mlDirectory ∧ body.mlDirectory.length ≤ mntPathLen)

/-- Group lists as the recursive format has them. -/
def groupsBytes : List Bytes → Bytes := chainBytes stringBytes

/-- Export lists as the recursive format has them. -/
def exportsBytes : List Exportnode → Bytes :=
  chainBytes fun node => stringBytes node.exDir ++ groupsBytes node.exGroups

/-- Mount lists as the recursive format has them. -/
def mountlistBytes : List Mountbody → Bytes :=
  chainBytes fun body => stringBytes body.mlHostname ++ stringBytes body.mlDirectory

/--
Every list of well-formed nodes is written in the recursive format and rebuilt from it.

It is read behind a null pointer, and whatever follows the list is left exactly as it was.
-/
def RoundTrips {α : Type} (proc : Xdrproc (List α)) (wf : α → Prop)
    (bytes : List α → Bytes) : Prop :=
  ∀ list, (∀ x ∈ list, wf x) →
    (∀ out, proc ⟨.encode, out⟩ list = some (⟨.encode, out ++ bytes list⟩, list)) ∧
    ∀ suffix, proc ⟨.decode, bytes list ++ suffix⟩ [] = some (⟨.decode, suffix⟩, list)

/--
On any input the loop stops, and each of its turns takes four bytes or more off the input.

The number of turns is at most one more than the whole units of the input, whatever list the
loop was started at.
-/
def LoopStops {α : Type} (node : Xdrproc α) (fresh : α) : Prop :=
  TurnConsumes node fresh ∧
    ∀ input objp, listLoop node fresh (input.length / 4 + 1) [] ⟨.decode, input⟩ objp ≠ .unfinished

section Nodes

/-- A group node is rebuilt from its name. -/
theorem xdrGroupnodeX_rebuilds {name : Bytes} (wf : GroupWf name) :
    Rebuilds xdrGroupnodeX [] name (stringBytes name) := by
  have carried := xdrString_carries (by decide) wf
  constructor
  · intro out
    simp only [xdrGroupnodeX, xdrName, Xdr.field_of_some (carried.writes out)]
  · intro rest
    simp only [xdrGroupnodeX, xdrName, Xdr.field_of_some (carried.reads [] rest)]

/-- A group list is rebuilt from the recursive format. -/
theorem xdrGroups_rebuilds {groups : List Bytes} (wf : ∀ name ∈ groups, GroupWf name) :
    Rebuilds xdrGroups [] groups (groupsBytes groups) :=
  xdrLoop_rebuilds fun name within => xdrGroupnodeX_rebuilds (wf name within)

/-- An export node is rebuilt from its directory and its group list. -/
theorem xdrExportnodeX_rebuilds {node : Exportnode} (wf : node.Wf) :
    Rebuilds xdrExportnodeX { exDir := [], exGroups := [] } node
      (stringBytes node.exDir ++ groupsBytes node.exGroups) := by
  have dir := xdrString_carries (by decide) wf.1
  have groups := xdrGroups_rebuilds wf.2
  constructor
  · intro out
    simp only [xdrExportnodeX, xdrDirpath, Xdr.field_of_some (dir.writes out),
      Xdr.field_of_some (groups.writes _), List.append_assoc]
  · intro rest
    -- The groups are read behind the null pointer of a zeroed node.
    simp only [xdrExportnodeX, xdrDirpath, List.append_assoc,
      Xdr.field_of_some (dir.reads [] _), Xdr.field_of_some (groups.reads rest)]

/-- A mount node is rebuilt from its host and its directory. -/
theorem xdrMountbodyX_rebuilds {body : Mountbody} (wf : body.Wf) :
    Rebuilds xdrMountbodyX { mlHostname := [], mlDirectory := [] } body
      (stringBytes body.mlHostname ++ stringBytes body.mlDirectory) := by
  have host := xdrString_carries (by decide) wf.1
  have dir := xdrString_carries (by decide) wf.2
  constructor
  · intro out
    simp only [xdrMountbodyX, xdrName, xdrDirpath, Xdr.field_of_some (host.writes out),
      Xdr.field_of_some (dir.writes _), List.append_assoc]
  · intro rest
    simp only [xdrMountbodyX, xdrName, xdrDirpath, List.append_assoc,
      Xdr.field_of_some (host.reads [] _), Xdr.field_of_some (dir.reads [] rest)]

end Nodes

section Stops

/-- A group node only takes bytes off the input. -/
theorem xdrGroupnodeX_shrinks : Shrinks xdrGroupnodeX :=
  Shrinks.step (xdrString_shrinks _) Shrinks.done

/-- An export node only takes bytes off the input, however many groups it reads. -/
theorem xdrExportnodeX_shrinks : Shrinks xdrExportnodeX :=
  Shrinks.step (xdrString_shrinks _) fun _ =>
    Shrinks.step (xdrLoop_shrinks xdrGroupnodeX_shrinks) fun _ => Shrinks.done _

/-- A mount node only takes bytes off the input. -/
theorem xdrMountbodyX_shrinks : Shrinks xdrMountbodyX :=
  Shrinks.step (xdrString_shrinks _) fun _ =>
    Shrinks.step (xdrString_shrinks _) fun _ => Shrinks.done _

/-- A loop over nodes that only take bytes off the input stops. -/
theorem loopStops_of_shrinks {α : Type} {node : Xdrproc α} (shrinks : Shrinks node) (fresh : α) :
    LoopStops node fresh := by
  have consumes := turnConsumes_of_shrinks shrinks fresh
  refine ⟨consumes, ?_⟩
  intro input objp
  apply listLoop_finishes consumes
  · rfl
  · show input.length < 4 * (input.length / 4 + 1)
    omega

end Stops

/-- What is rebuilt list by list round trips. -/
theorem roundTrips_of_rebuilds {α : Type} {proc : Xdrproc (List α)} {wf : α → Prop}
    {bytes : List α → Bytes}
    (each : ∀ list, (∀ x ∈ list, wf x) → Rebuilds proc [] list (bytes list)) :
    RoundTrips proc wf bytes := by
  intro list good
  have rebuilt := each list good
  exact ⟨rebuilt.writes, rebuilt.reads⟩

/--
The three lists of the protocol round trip, and their loops stop on any input.

Each loop writes the recursive format, rebuilds the list from it behind a null pointer in the
same order, and leaves exactly what follows.
-/
theorem mountLists_roundTrip :
    (RoundTrips xdrGroups GroupWf groupsBytes ∧
      RoundTrips xdrExports Exportnode.Wf exportsBytes ∧
      RoundTrips xdrMountlist Mountbody.Wf mountlistBytes) ∧
    (LoopStops xdrGroupnodeX [] ∧
      LoopStops xdrExportnodeX { exDir := [], exGroups := [] } ∧
      LoopStops xdrMountbodyX { mlHostname := [], mlDirectory := [] }) := by
  constructor
  · refine ⟨?_, ?_, ?_⟩
    · exact roundTrips_of_rebuilds fun _ good => xdrGroups_rebuilds good
    · apply roundTrips_of_rebuilds
      intro list good
      exact xdrLoop_rebuilds fun node within => xdrExportnodeX_rebuilds (good node within)
    · apply roundTrips_of_rebuilds
      intro list good
      exact xdrLoop_rebuilds fun body within => xdrMountbodyX_rebuilds (good body within)
  · -- No routine for a node ever gives bytes back.
    refine ⟨?_, ?_, ?_⟩
    · exact loopStops_of_shrinks xdrGroupnodeX_shrinks _
    · exact loopStops_of_shrinks xdrExportnodeX_shrinks _
    · exact loopStops_of_shrinks xdrMountbodyX_shrinks _

/-- Two exports, the first with two groups. -/
def demoExports : List Exportnode := [⟨[47, 97], [[103], [104]]⟩, ⟨[47, 98], []⟩]

/-- They are sent and rebuilt in order with their groups, and leave the byte behind them. -/
theorem mountLists_roundTrip_exports :
    xdrExports ⟨.encode, []⟩ demoExports = some (⟨.encode, exportsBytes demoExports⟩, demoExports) ∧
    xdrExports ⟨.decode, exportsBytes demoExports ++ [7]⟩ [] =
      some (⟨.decode, [7]⟩, demoExports) := by
  have wf : ∀ node ∈ demoExports, node.Wf := by
    simp [demoExports, Exportnode.Wf, GroupWf, mntNamLen, mntPathLen]
  obtain ⟨writes, reads⟩ := mountLists_roundTrip.1.2.1 demoExports wf
  exact ⟨writes [], reads [7]⟩

end Dnfs
