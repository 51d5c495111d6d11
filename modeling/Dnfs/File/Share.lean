import Mathlib.Algebra.Group.Nat.Defs
import Mathlib.Tactic.Common

/-! Share reservations: who reads, who writes, and who denies either to others. -/

namespace Dnfs

variable (share : FsalShare)

/-- Open flags are sixteen bits wide. -/
abbrev FsalOpenflags := UInt16

/-- No access and no denial. -/
def fsalOClosed : FsalOpenflags := 0x0000

/-- Access to read. -/
def fsalORead : FsalOpenflags := 0x0001

/-- Access to write. -/
def fsalOWrite : FsalOpenflags := 0x0002

/-- Any open descriptor will do. -/
def fsalOAny : FsalOpenflags := 0x0020

/-- Reading is denied to others. -/
def fsalODenyRead : FsalOpenflags := 0x0100

/-- Writing is denied to others. -/
def fsalODenyWrite : FsalOpenflags := 0x0200

/-- Writing is denied to others, also to those who bypass the advisory denials. -/
def fsalODenyWriteMand : FsalOpenflags := 0x0400

/-- Whether a flag is among those given. -/
def FsalOpenflags.has (openflags flag : FsalOpenflags) : Bool := openflags &&& flag ≠ 0

/-- The counters of the reservations a file is under. -/
structure FsalShare where
  shareAccessRead : UInt32
  shareAccessWrite : UInt32
  shareDenyRead : UInt32
  shareDenyWrite : UInt32
  /-- Mandatory denials, which are counted among the others as well. -/
  shareDenyWriteMand : UInt32
  deriving DecidableEq, Repr

/-- A file nobody has reserved. -/
def FsalShare.zero : FsalShare := ⟨0, 0, 0, 0, 0⟩

instance : Inhabited FsalShare := ⟨.zero⟩

/-- What the status of a reservation can be. -/
inductive FsalErrors where
  | errFsalNoError
  | errFsalShareDenied
  deriving DecidableEq, Repr, Inhabited

/-- One for a flag that is given, zero for one that is not. -/
def flagCount (openflags flag : FsalOpenflags) : Int := if openflags.has flag then 1 else 0

/-- How much replacing one set of flags by another adds to the count of a flag. -/
def flagInc (oldOpenflags newOpenflags flag : FsalOpenflags) : Int :=
  flagCount newOpenflags flag - flagCount oldOpenflags flag

/-- Replace the reservation made under the old flags by one under the new. -/
def updateShareCounters (oldOpenflags newOpenflags : FsalOpenflags) : FsalShare :=
  let accessReadInc := flagInc oldOpenflags newOpenflags fsalORead
  let accessWriteInc := flagInc oldOpenflags newOpenflags fsalOWrite
  let denyReadInc := flagInc oldOpenflags newOpenflags fsalODenyRead
  -- Both kinds of denial are combined, so a flag set with both counts twice.
  let denyWriteInc := flagInc oldOpenflags newOpenflags fsalODenyWrite +
    flagInc oldOpenflags newOpenflags fsalODenyWriteMand
  let denyWriteMandInc := flagInc oldOpenflags newOpenflags fsalODenyWriteMand
  -- The increments are signed and the counters are not, so the sums wrap.
  { shareAccessRead := share.shareAccessRead + UInt32.ofInt accessReadInc
    shareAccessWrite := share.shareAccessWrite + UInt32.ofInt accessWriteInc
    shareDenyRead := share.shareDenyRead + UInt32.ofInt denyReadInc
    shareDenyWrite := share.shareDenyWrite + UInt32.ofInt denyWriteInc
    shareDenyWriteMand := share.shareDenyWriteMand + UInt32.ofInt denyWriteMandInc }

/-- Why a reservation is refused. -/
inductive ShareCause where
  | readDenied | writeDenied | denyReadDenied | denyWriteDenied
  deriving DecidableEq, Repr

/-- The first reason to refuse a reservation, in the order the tests are made. -/
def shareConflictCause (openflags : FsalOpenflags) (bypass : Bool) : Option ShareCause :=
  if openflags.has fsalORead ∧ share.shareDenyRead > 0 ∧ ¬bypass then some .readDenied
  else if openflags.has fsalOWrite ∧
      (share.shareDenyWriteMand > 0 ∨ (¬bypass ∧ share.shareDenyWrite > 0)) then
    some .writeDenied
  else if openflags.has fsalODenyRead ∧ share.shareAccessRead > 0 then some .denyReadDenied
  else if (openflags.has fsalODenyWrite ∨ openflags.has fsalODenyWriteMand) ∧
      share.shareAccessWrite > 0 then
    some .denyWriteDenied
  else none

/-- Whether a reservation can be made. -/
def checkShareConflict (openflags : FsalOpenflags) (bypass : Bool) : FsalErrors :=
  match shareConflictCause share openflags bypass with
  | none => .errFsalNoError
  | some _ => .errFsalShareDenied

/-- Make a reservation if nothing stands against it. -/
def checkShareConflictAndUpdate (oldOpenflags newOpenflags : FsalOpenflags) (bypass : Bool) :
    FsalErrors × FsalShare :=
  match checkShareConflict share newOpenflags bypass with
  -- The counters take the reservation only once it is granted.
  | .errFsalNoError => (.errFsalNoError, updateShareCounters share oldOpenflags newOpenflags)
  | .errFsalShareDenied => (.errFsalShareDenied, share)

end Dnfs
