import Dnfs.Nfs.RoundTrip
import Dnfs.Xdr.Accepts

/-! Which results of the procedures cannot be written. -/

namespace Dnfs

section Parts

/-- Attributes that may follow are written only behind a boolean. -/
theorem xdrPostOpAttr_accepts : Accepts xdrPostOpAttr AttrWf :=
  xdrBoolUnion_accepts fun x => (xdrFattr3_lawful.carries x trivial).accepts

/-- Handles are written only in bound. -/
theorem xdrNfsFh3_accepts : Accepts xdrNfsFh3 NfsFh3.Wf := xdrBytes_accepts 64

/-- A handle that may follow is written only in bound and behind a boolean. -/
theorem xdrPostOpFh3_accepts : Accepts xdrPostOpFh3 (BoolUnion.Wf NfsFh3.Wf) :=
  xdrBoolUnion_accepts xdrNfsFh3_accepts

/-- Attributes from before and after are written only behind booleans. -/
theorem xdrWccData_accepts : Accepts xdrWccData WccData.Wf := by
  intro x
  have before : Accepts xdrPreOpAttr (BoolUnion.Wf fun _ => True) :=
    xdrBoolUnion_accepts fun x => (xdrWccAttr_lawful.carries x trivial).accepts
  refine .step (before _) fun beforeGood => ?_
  exact .step (xdrPostOpAttr_accepts _) fun afterGood => .done rfl ⟨beforeGood, afterGood⟩

/-- An entry with attributes and handle is written only with a handle in bound. -/
theorem xdrEntryplus3_accepts : Accepts xdrEntryplus3 fun x => x.nameHandle.Wf NfsFh3.Wf := by
  intro x
  refine .step (xdrULonglong_lawful.carries _ trivial).accepts fun _ => ?_
  refine .step (xdrString_accepts _ _) fun _ => ?_
  refine .step (xdrULonglong_lawful.carries _ trivial).accepts fun _ => ?_
  refine .step (xdrPostOpAttr_accepts _) fun _ => ?_
  exact .step (xdrPostOpFh3_accepts _) fun handle => .done rfl handle

end Parts

section Results

/-- LOOKUP has its result written only with a handle in bound. -/
theorem xdrLookup3res_accepts :
    Accepts xdrLookup3res (StatusUnion.Wf (fun ok => ok.object.Wf) AttrWf) := by
  refine xdrStatusUnion_accepts (fun x => ?_) xdrPostOpAttr_accepts
  refine .step (xdrNfsFh3_accepts _) fun object => ?_
  refine .step (xdrPostOpAttr_accepts _) fun _ => ?_
  exact .step (xdrPostOpAttr_accepts _) fun _ => .done rfl object

/-- A creating procedure has its result written only if all of it is well formed. -/
theorem xdrCreation3res_accepts :
    Accepts xdrCreation3res (StatusUnion.Wf Creation3resok.Wf WccData.Wf) := by
  refine xdrStatusUnion_accepts (fun x => ?_) xdrWccData_accepts
  refine .step (xdrPostOpFh3_accepts _) fun obj => ?_
  refine .step (xdrPostOpAttr_accepts _) fun objAttributes => ?_
  exact .step (xdrWccData_accepts _) fun dirWcc => .done rfl ⟨obj, objAttributes, dirWcc⟩

/-- A listing with attributes and handles is written only if all handles are in bound. -/
theorem xdrReaddirplus3resok_accepts :
    Accepts xdrReaddirplus3resok fun ok => AttrWf ok.dirAttributes ∧
      ∀ entry ∈ ok.reply.entries, entry.nameHandle.Wf NfsFh3.Wf := by
  intro x
  have listing : AcceptsAt xdrDirlistplus3 x.reply
      (∀ entry ∈ x.reply.entries, entry.nameHandle.Wf NfsFh3.Wf) := by
    refine .step (xdrChain_accepts xdrEntryplus3_accepts _) fun entries => ?_
    exact .step (xdrBool_accepts _) fun _ => .done rfl entries
  refine .step (xdrPostOpAttr_accepts _) fun attributes => ?_
  refine .step (xdrOpaque8_lawful.carries _ trivial).accepts fun _ => ?_
  exact .step listing fun entries => .done rfl ⟨attributes, entries⟩

/-- READDIRPLUS has its result written only if all handles are in bound. -/
theorem xdrReaddirplus3res_accepts :
    Accepts xdrReaddirplus3res (StatusUnion.Wf
      (fun ok => ∀ entry ∈ ok.reply.entries, entry.nameHandle.Wf NfsFh3.Wf) AttrWf) :=
  xdrStatusUnion_accepts (fun x => (xdrReaddirplus3resok_accepts x).imp And.right)
    xdrPostOpAttr_accepts

end Results

end Dnfs
