import Dnfs.Mnt.Lists
import Dnfs.Nfs.Accepts
import Dnfs.Nfs.Service
import Dnfs.Xdr.Array

/-! Mounting a directory, whose path is handed out as its handle. -/

namespace Dnfs

/-- The only version of the protocol that is served. -/
def mountV3 : UInt32 := 3

/-- The flavour of a client that does not authenticate. -/
def authNone : UInt32 := 0

/-- The most flavours a result can list. -/
def xdrArrayMaxlen : Nat := 1024

/-- A mounted directory: its handle, and the flavours a client may authenticate with. -/
structure Mountres3ok where
  fhandle : Bytes
  authFlavors : List UInt32
  deriving DecidableEq, Repr, Inhabited

/-- A mount that failed has nothing behind its status. -/
abbrev Mountres3 := StatusUnion Mountres3ok Unit

/-- Handles of mounted directories. -/
def xdrFhandle3 : Xdrproc Bytes := xdrBytes nfs3Fhsize

def xdrMountres3ok : Xdrproc Mountres3ok := fun xdrs objp =>
  xdrs.field xdrFhandle3 objp.fhandle fun xdrs fhandle =>
  xdrs.field (xdrArray xdrArrayMaxlen xdrUInt 0) objp.authFlavors fun xdrs authFlavors =>
  some (xdrs, { fhandle, authFlavors })

def xdrMountres3 : Xdrproc Mountres3 := xdrStatusUnion xdrMountres3ok xdrVoid

/-- Serve MNT, which looks at nothing but the path it was given. -/
def mntMnt (cbVers : UInt32) (mountDir : Bytes) (res : Mountres3) : NfsReqResult × Mountres3 :=
  if cbVers ≠ mountV3 then (.nfsReqError, res)
  else
    -- A cleared result has a status that says all went well.
    (.nfsReqOk, .ok { fhandle := cstr mountDir, authFlavors := [authNone] })

/-- The version that is served mounts any path. -/
theorem mntMnt_served {cbVers : UInt32} (served : cbVers = mountV3) (mountDir : Bytes)
    (res : Mountres3) :
    mntMnt cbVers mountDir res = (.nfsReqOk, .ok ⟨cstr mountDir, [authNone]⟩) := by
  rw [mntMnt, if_neg (not_not.mpr served)]

/-- Any other leaves the result as it was. -/
theorem mntMnt_unserved {cbVers : UInt32} (unserved : cbVers ≠ mountV3) (mountDir : Bytes)
    (res : Mountres3) : mntMnt cbVers mountDir res = (.nfsReqError, res) := by
  rw [mntMnt, if_pos unserved]

/-- A mounted directory is carried with a handle in bound and a list of flavours in bound. -/
theorem xdrMountres3_carried {ok : Mountres3ok} (handle : ok.fhandle.length ≤ nfs3Fhsize)
    (flavors : ok.authFlavors.length ≤ xdrArrayMaxlen) : Carried xdrMountres3 (.ok ok) := by
  have arm : Carried xdrMountres3ok ok := by
    refine .step ⟨_, xdrBytes_carries (by decide) handle⟩ ?_
    refine .step (xdrArray_carried (by decide) flavors fun v _ => ⟨_, xdrUInt_carries v⟩) ?_
    exact .done rfl
  -- A zero status is followed by the success arm.
  refine .step ⟨_, xdrUInt_carries 0⟩ ?_
  exact .dite (fun _ => .step arm (.done rfl)) fun nonzero => absurd rfl nonzero

/-- A mounted directory is written only with a handle in bound. -/
theorem xdrMountres3_accepts (ok : Mountres3ok) (flavors : ok.authFlavors.length ≤ xdrArrayMaxlen) :
    AcceptsAt xdrMountres3 (.ok ok) (ok.fhandle.length ≤ nfs3Fhsize) := by
  have arm : AcceptsAt xdrMountres3ok ok (ok.fhandle.length ≤ nfs3Fhsize) := by
    refine .step (xdrBytes_accepts nfs3Fhsize _) fun within => ?_
    have listed : Carried (xdrArray xdrArrayMaxlen xdrUInt 0) ok.authFlavors :=
      xdrArray_carried (by decide) flavors fun v _ => ⟨_, xdrUInt_carries v⟩
    exact .step listed.accepts fun _ => .done rfl within
  refine .step (Carried.accepts ⟨_, xdrUInt_carries 0⟩) fun _ => ?_
  exact .dite (fun _ => .step arm fun within => .done rfl within) fun nonzero => absurd rfl nonzero

end Dnfs
