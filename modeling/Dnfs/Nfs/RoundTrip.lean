import Dnfs.Nfs.Messages

/-! Every message of the protocol survives being written and read back. -/

namespace Dnfs

section Parts

/-- A predicate that asks nothing of a type whose every value is well formed. -/
abbrev Always {α : Type} (_ : Bytes → Bytes) (_ : α) : Prop := True

/-- Unsigned 32-bit integers are lawful, and so is every type that is one. -/
theorem xdrUInt_lawful : Lawful xdrUInt Always :=
  ⟨fun v _ => ⟨_, xdrUInt_carries v⟩, xdrUInt_yields⟩

/-- Unsigned 64-bit integers are lawful, and so is every type that is one. -/
theorem xdrULonglong_lawful : Lawful xdrULonglong Always :=
  ⟨fun v _ => ⟨_, xdrULonglong_carries v⟩, xdrULonglong_yields⟩

/-- Eight opaque bytes are lawful, and so is every verifier. -/
theorem xdrOpaque8_lawful : Lawful xdrOpaque8 Always :=
  ⟨fun v _ => ⟨_, xdrOpaque8_carries v⟩, xdrOpaque8_yields⟩

/-- A void arm is lawful. -/
theorem xdrVoid_lawful : Lawful xdrVoid Always := by
  refine ⟨fun _ _ => ⟨[], xdrVoid_carries⟩, ?_⟩
  intro xdrs old after x op read
  obtain ⟨rfl, _⟩ : xdrs = after ∧ old = x := by simpa [xdrVoid] using read
  exact ⟨op, trivial⟩

/-- Boolean fields are lawful. -/
theorem xdrBool_lawful : Lawful xdrBool fun _ => BoolWf :=
  ⟨fun _ isBool => ⟨_, xdrBool_carries isBool⟩, xdrBool_yields⟩

/-- Points in time are lawful. -/
theorem xdrNfstime3_lawful : Lawful xdrNfstime3 Always :=
  xdrUInt_lawful.two xdrUInt_lawful (by simp) fun _ => rfl

/-- Device numbers are lawful. -/
theorem xdrSpecdata3_lawful : Lawful xdrSpecdata3 Always :=
  xdrUInt_lawful.two xdrUInt_lawful (by simp) fun _ => rfl

/-- Attributes are lawful, whatever their thirteen fields hold. -/
theorem xdrFattr3_lawful : Lawful xdrFattr3 Always := by
  -- The fields go out and come in one by one, in the order of the record.
  constructor
  · intro x _
    iterate 5 refine .step (xdrUInt_lawful.carries _ trivial) ?_
    iterate 2 refine .step (xdrULonglong_lawful.carries _ trivial) ?_
    refine .step (xdrSpecdata3_lawful.carries _ trivial) ?_
    iterate 2 refine .step (xdrULonglong_lawful.carries _ trivial) ?_
    iterate 3 refine .step (xdrNfstime3_lawful.carries _ trivial) ?_
    exact .done rfl
  · iterate 5 refine .step xdrUInt_lawful.yields fun _ _ => ?_
    iterate 2 refine .step xdrULonglong_lawful.yields fun _ _ => ?_
    refine .step xdrSpecdata3_lawful.yields fun _ _ => ?_
    iterate 2 refine .step xdrULonglong_lawful.yields fun _ _ => ?_
    iterate 3 refine .step xdrNfstime3_lawful.yields fun _ _ => ?_
    exact .done trivial

/-- Attributes that may follow an operation are lawful. -/
theorem xdrPostOpAttr_lawful : Lawful xdrPostOpAttr fun _ => BoolUnion.Wf fun _ => True :=
  xdrBoolUnion_lawful xdrFattr3_lawful

/-- Handles within the bound are lawful. -/
theorem xdrNfsFh3_lawful : Lawful xdrNfsFh3 fun _ => NfsFh3.Wf :=
  ⟨fun _ within => ⟨_, xdrBytes_carries (by decide) within⟩, xdrBytes_yields 64⟩

/-- File data within the bound is lawful. -/
theorem xdrData_lawful :
    Lawful (xdrBytes xdrBytesMaxlenIo) fun _ data => data.length ≤ xdrBytesMaxlenIo :=
  ⟨fun _ within => ⟨_, xdrBytes_carries (by decide) within⟩, xdrBytes_yields _⟩

/-- Names, and targets of links, are lawful. -/
theorem xdrFilename3_lawful : Lawful xdrFilename3 NameWf := xdrString_lawful (by decide)

/-- A handle that may follow an operation is lawful. -/
theorem xdrPostOpFh3_lawful : Lawful xdrPostOpFh3 fun _ => BoolUnion.Wf NfsFh3.Wf :=
  xdrBoolUnion_lawful xdrNfsFh3_lawful

/-- A name within a directory is lawful. -/
theorem xdrDiropargs3_lawful : Lawful xdrDiropargs3 Diropargs3.Wf :=
  xdrNfsFh3_lawful.two xdrFilename3_lawful (fun _ _ _ => Iff.rfl) fun _ => rfl

/-- Cache-consistency attributes are lawful. -/
theorem xdrWccAttr_lawful : Lawful xdrWccAttr Always :=
  xdrULonglong_lawful.three xdrNfstime3_lawful xdrNfstime3_lawful (by simp) fun _ => rfl

/-- Attributes from before and after an operation are lawful. -/
theorem xdrWccData_lawful : Lawful xdrWccData fun _ => WccData.Wf :=
  (xdrBoolUnion_lawful xdrWccAttr_lawful).two xdrPostOpAttr_lawful
    (fun _ _ _ => Iff.rfl) fun _ => rfl

/-- A time to set is lawful, whatever its discriminant asks for. -/
theorem xdrSetTime_lawful : Lawful xdrSetTime Always := by
  constructor
  · intro x _
    cases x with
    | setToClientTime time =>
      -- Only this discriminant is followed by a time.
      refine .step (xdrUInt_lawful.carries _ trivial) ?_
      exact .dite (fun _ => .step (xdrNfstime3_lawful.carries _ trivial) (.done rfl))
        fun c => absurd rfl c
    | other setIt noTime =>
      refine .step (xdrUInt_lawful.carries _ trivial) ?_
      exact .dite (fun c => absurd c noTime) fun _ => .done rfl
  · refine .step xdrUInt_lawful.yields fun _ _ => ?_
    exact .dite (fun _ => .step xdrNfstime3_lawful.yields fun _ _ => .done trivial)
      fun _ => .done trivial

/-- A field that is set only when its boolean says so is lawful. -/
theorem xdrSetField_lawful {α : Type} {proc : Xdrproc α} {fresh : α} (lawful : Lawful proc Always) :
    Lawful (xdrBoolUnion proc fresh false) fun _ => BoolUnion.Wf fun _ => True :=
  xdrBoolUnion_lawful lawful

/-- Attributes to set are lawful. -/
theorem xdrSattr3_lawful : Lawful xdrSattr3 fun _ => Sattr3.Wf := by
  constructor
  · rintro x ⟨mode, uid, gid, size⟩
    refine .step ((xdrSetField_lawful xdrUInt_lawful).carries _ mode) ?_
    refine .step ((xdrSetField_lawful xdrUInt_lawful).carries _ uid) ?_
    refine .step ((xdrSetField_lawful xdrUInt_lawful).carries _ gid) ?_
    refine .step ((xdrSetField_lawful xdrULonglong_lawful).carries _ size) ?_
    refine .step (xdrSetTime_lawful.carries _ trivial) ?_
    exact .step (xdrSetTime_lawful.carries _ trivial) (.done rfl)
  · refine .step (xdrSetField_lawful xdrUInt_lawful).yields fun _ mode => ?_
    refine .step (xdrSetField_lawful xdrUInt_lawful).yields fun _ uid => ?_
    refine .step (xdrSetField_lawful xdrUInt_lawful).yields fun _ gid => ?_
    refine .step (xdrSetField_lawful xdrULonglong_lawful).yields fun _ size => ?_
    refine .step xdrSetTime_lawful.yields fun _ _ => ?_
    exact .step xdrSetTime_lawful.yields fun _ _ => .done ⟨mode, uid, gid, size⟩

/-- A way to create is lawful when its mode is one of the three. -/
theorem xdrCreatehow3_lawful : Lawful xdrCreatehow3 fun _ => Createhow3.Wf := by
  constructor
  · intro x good
    refine .step (xdrUInt_lawful.carries _ trivial) ?_
    cases x with
    | unchecked attrs =>
      exact .ite (fun _ => .step (xdrSattr3_lawful.carries _ good) (.done rfl))
        fun c => absurd rfl c
    | guarded attrs =>
      refine .ite (fun c => absurd c (show (1 : UInt32) ≠ 0 by decide)) fun _ => ?_
      exact .ite (fun _ => .step (xdrSattr3_lawful.carries _ good) (.done rfl))
        fun c => absurd rfl c
    | exclusive verf =>
      refine .ite (fun c => absurd c (show (2 : UInt32) ≠ 0 by decide)) fun _ => ?_
      refine .ite (fun c => absurd c (show (2 : UInt32) ≠ 1 by decide)) fun _ => ?_
      exact .ite (fun _ => .step (xdrOpaque8_lawful.carries _ trivial) (.done rfl))
        fun c => absurd rfl c
    | other mode outside => exact good.elim
  · -- A mode outside the three is refused, so what is read has one of them.
    refine .step xdrUInt_lawful.yields fun _ _ => ?_
    refine .ite (fun _ => .step xdrSattr3_lawful.yields fun _ good => .done good) fun _ => ?_
    refine .ite (fun _ => .step xdrSattr3_lawful.yields fun _ good => .done good) fun _ => ?_
    exact .ite (fun _ => .step xdrOpaque8_lawful.yields fun _ _ => .done trivial)
      fun _ => .refuse

/-- A device to be made is lawful. -/
theorem xdrDevicedata3_lawful : Lawful xdrDevicedata3 fun _ x => x.devAttributes.Wf :=
  xdrSattr3_lawful.two xdrSpecdata3_lawful (by simp) fun _ => rfl

/-- A node to be made is lawful, also when its type has nothing following it. -/
theorem xdrMknoddata3_lawful : Lawful xdrMknoddata3 fun _ => Mknoddata3.Wf := by
  constructor
  · intro x good
    refine .step (xdrUInt_lawful.carries _ trivial) ?_
    -- The types are tested in order, so each arm fails the tests before its own.
    cases x with
    | chr device =>
      exact .dite (fun _ => .step (xdrDevicedata3_lawful.carries _ good) (.done rfl))
        fun c => absurd rfl c
    | blk device =>
      refine .dite (fun c => absurd c (show (3 : UInt32) ≠ 4 by decide)) fun _ => ?_
      exact .dite (fun _ => .step (xdrDevicedata3_lawful.carries _ good) (.done rfl))
        fun c => absurd rfl c
    | sock attrs =>
      refine .dite (fun c => absurd c (show (6 : UInt32) ≠ 4 by decide)) fun _ => ?_
      refine .dite (fun c => absurd c (show (6 : UInt32) ≠ 3 by decide)) fun _ => ?_
      exact .dite (fun _ => .step (xdrSattr3_lawful.carries _ good) (.done rfl))
        fun c => absurd rfl c
    | fifo attrs =>
      refine .dite (fun c => absurd c (show (7 : UInt32) ≠ 4 by decide)) fun _ => ?_
      refine .dite (fun c => absurd c (show (7 : UInt32) ≠ 3 by decide)) fun _ => ?_
      refine .dite (fun c => absurd c (show (7 : UInt32) ≠ 6 by decide)) fun _ => ?_
      exact .dite (fun _ => .step (xdrSattr3_lawful.carries _ good) (.done rfl))
        fun c => absurd rfl c
    | other type outside =>
      refine .dite (fun c => absurd c outside.1) fun _ => ?_
      refine .dite (fun c => absurd c outside.2.1) fun _ => ?_
      refine .dite (fun c => absurd c outside.2.2.1) fun _ => ?_
      exact .dite (fun c => absurd c outside.2.2.2) fun _ => .done rfl
  · refine .step xdrUInt_lawful.yields fun _ _ => ?_
    refine .dite (fun _ => .step xdrDevicedata3_lawful.yields fun _ good => .done good) fun _ => ?_
    refine .dite (fun _ => .step xdrDevicedata3_lawful.yields fun _ good => .done good) fun _ => ?_
    refine .dite (fun _ => .step xdrSattr3_lawful.yields fun _ good => .done good) fun _ => ?_
    exact .dite (fun _ => .step xdrSattr3_lawful.yields fun _ good => .done good)
      fun _ => .done trivial

/-- A symbolic link to be made is lawful. -/
theorem xdrSymlinkdata3_lawful : Lawful xdrSymlinkdata3 Symlinkdata3.Wf :=
  xdrSattr3_lawful.two xdrFilename3_lawful (fun _ _ _ => Iff.rfl) fun _ => rfl

/-- An entry of a listing is lawful. -/
theorem xdrEntry3_lawful : Lawful xdrEntry3 Entry3.Wf :=
  xdrULonglong_lawful.three xdrFilename3_lawful xdrULonglong_lawful
    (by simp [Entry3.Wf]) fun _ => rfl

/-- An entry with attributes and handle is lawful. -/
theorem xdrEntryplus3_lawful : Lawful xdrEntryplus3 Entryplus3.Wf :=
  xdrULonglong_lawful.five xdrFilename3_lawful xdrULonglong_lawful xdrPostOpAttr_lawful
    xdrPostOpFh3_lawful (by simp [Entryplus3.Wf]) fun _ => rfl

/-- A listing of any length is lawful. -/
theorem xdrDirlist3_lawful : Lawful xdrDirlist3 Dirlist3.Wf :=
  (xdrChain_lawful xdrEntry3_lawful).two xdrBool_lawful (fun _ _ _ => Iff.rfl) fun _ => rfl

/-- A listing of any length with attributes and handles is lawful. -/
theorem xdrDirlistplus3_lawful : Lawful xdrDirlistplus3 Dirlistplus3.Wf :=
  (xdrChain_lawful xdrEntryplus3_lawful).two xdrBool_lawful (fun _ _ _ => Iff.rfl) fun _ => rfl

end Parts

section Messages

/-- Attributes that may follow have a boolean discriminant. -/
abbrev AttrWf (x : PostOpAttr) : Prop := x.Wf fun _ => True

/-- Which arguments of a procedure are well formed. -/
def Proc.ArgsWf (look : Bytes → Bytes) : (p : Proc) → p.Args → Prop
  | null, _ => True
  | getattr, x => NfsFh3.Wf x
  | setattr, x => x.object.Wf ∧ x.newAttributes.Wf ∧ x.guard.Wf fun _ => True
  | lookup, x => Diropargs3.Wf look x
  | access, x => x.object.Wf
  | readlink, x => NfsFh3.Wf x
  | read, x => x.file.Wf
  | write, x => x.file.Wf ∧ x.data.length ≤ xdrBytesMaxlenIo
  | create, x => x.where_.Wf look ∧ x.how.Wf
  | mkdir, x => x.where_.Wf look ∧ x.attributes.Wf
  | symlink, x => x.where_.Wf look ∧ x.symlink.Wf look
  | mknod, x => x.where_.Wf look ∧ x.what.Wf
  | remove, x => Diropargs3.Wf look x
  | rmdir, x => Diropargs3.Wf look x
  | rename, x => x.fromDir.Wf look ∧ x.toDir.Wf look
  | link, x => x.file.Wf ∧ x.link.Wf look
  | readdir, x => x.dir.Wf
  | readdirplus, x => x.dir.Wf
  | fsstat, x => NfsFh3.Wf x
  | fsinfo, x => NfsFh3.Wf x
  | pathconf, x => NfsFh3.Wf x
  | commit, x => x.file.Wf

/-- What a creating procedure made is well formed. -/
def Creation3resok.Wf (x : Creation3resok) : Prop :=
  x.obj.Wf NfsFh3.Wf ∧ AttrWf x.objAttributes ∧ x.dirWcc.Wf

/-- Which results of a procedure are well formed. -/
def Proc.ResWf (look : Bytes → Bytes) : (p : Proc) → p.Res → Prop
  | null, _ => True
  | getattr, x => x.Wf (fun _ => True) fun _ => True
  | setattr, x => x.Wf WccData.Wf WccData.Wf
  | lookup, x => x.Wf
    (fun ok => ok.object.Wf ∧ AttrWf ok.objAttributes ∧ AttrWf ok.dirAttributes) AttrWf
  | access, x => x.Wf (fun ok => AttrWf ok.objAttributes) AttrWf
  | readlink, x => x.Wf (fun ok => AttrWf ok.symlinkAttributes ∧ NameWf look ok.data) AttrWf
  | read, x => x.Wf (fun ok => AttrWf ok.fileAttributes ∧ BoolWf ok.eof ∧
      ok.data.length ≤ xdrBytesMaxlenIo) AttrWf
  | write, x => x.Wf (fun ok => ok.fileWcc.Wf) WccData.Wf
  | create, x => x.Wf Creation3resok.Wf WccData.Wf
  | mkdir, x => x.Wf Creation3resok.Wf WccData.Wf
  | symlink, x => x.Wf Creation3resok.Wf WccData.Wf
  | mknod, x => x.Wf Creation3resok.Wf WccData.Wf
  | remove, x => x.Wf WccData.Wf WccData.Wf
  | rmdir, x => x.Wf WccData.Wf WccData.Wf
  | rename, x => x.Wf (fun both => both.fromdirWcc.Wf ∧ both.todirWcc.Wf)
    fun both => both.fromdirWcc.Wf ∧ both.todirWcc.Wf
  | link, x => x.Wf (fun both => AttrWf both.fileAttributes ∧ both.linkdirWcc.Wf)
    fun both => AttrWf both.fileAttributes ∧ both.linkdirWcc.Wf
  | readdir, x => x.Wf (fun ok => AttrWf ok.dirAttributes ∧ ok.reply.Wf look) AttrWf
  | readdirplus, x => x.Wf (fun ok => AttrWf ok.dirAttributes ∧ ok.reply.Wf look) AttrWf
  | fsstat, x => x.Wf (fun ok => AttrWf ok.objAttributes) AttrWf
  | fsinfo, x => x.Wf (fun ok => AttrWf ok.objAttributes) AttrWf
  | pathconf, x => x.Wf (fun ok => AttrWf ok.objAttributes ∧ BoolWf ok.noTrunc ∧
      BoolWf ok.chownRestricted ∧ BoolWf ok.caseInsensitive ∧ BoolWf ok.casePreserving) AttrWf
  | commit, x => x.Wf (fun ok => ok.fileWcc.Wf) WccData.Wf

/-- A handle and a range are lawful. -/
theorem xdrRange3args_lawful : Lawful xdrRange3args fun _ x => x.file.Wf :=
  xdrNfsFh3_lawful.three xdrULonglong_lawful xdrUInt_lawful (by simp) fun _ => rfl

/-- SETATTR arguments are lawful. -/
theorem xdrSetattr3args_lawful : Lawful xdrSetattr3args fun look => Proc.ArgsWf look .setattr :=
  xdrNfsFh3_lawful.three xdrSattr3_lawful (xdrBoolUnion_lawful xdrNfstime3_lawful)
    (fun _ _ _ _ => Iff.rfl) fun _ => rfl

/-- ACCESS arguments are lawful. -/
theorem xdrAccess3args_lawful : Lawful xdrAccess3args fun _ x => x.object.Wf :=
  xdrNfsFh3_lawful.two xdrUInt_lawful (by simp) fun _ => rfl

/-- WRITE arguments are lawful. -/
theorem xdrWrite3args_lawful : Lawful xdrWrite3args fun look => Proc.ArgsWf look .write :=
  xdrNfsFh3_lawful.five xdrULonglong_lawful xdrUInt_lawful xdrUInt_lawful xdrData_lawful
    (by simp [Proc.ArgsWf]) fun _ => rfl

/-- CREATE arguments are lawful. -/
theorem xdrCreate3args_lawful : Lawful xdrCreate3args fun look => Proc.ArgsWf look .create :=
  xdrDiropargs3_lawful.two xdrCreatehow3_lawful (fun _ _ _ => Iff.rfl) fun _ => rfl

/-- MKDIR arguments are lawful. -/
theorem xdrMkdir3args_lawful : Lawful xdrMkdir3args fun look => Proc.ArgsWf look .mkdir :=
  xdrDiropargs3_lawful.two xdrSattr3_lawful (fun _ _ _ => Iff.rfl) fun _ => rfl

/-- SYMLINK arguments are lawful. -/
theorem xdrSymlink3args_lawful : Lawful xdrSymlink3args fun look => Proc.ArgsWf look .symlink :=
  xdrDiropargs3_lawful.two xdrSymlinkdata3_lawful (fun _ _ _ => Iff.rfl) fun _ => rfl

/-- MKNOD arguments are lawful. -/
theorem xdrMknod3args_lawful : Lawful xdrMknod3args fun look => Proc.ArgsWf look .mknod :=
  xdrDiropargs3_lawful.two xdrMknoddata3_lawful (fun _ _ _ => Iff.rfl) fun _ => rfl

/-- RENAME arguments are lawful. -/
theorem xdrRename3args_lawful : Lawful xdrRename3args fun look => Proc.ArgsWf look .rename :=
  xdrDiropargs3_lawful.two xdrDiropargs3_lawful (fun _ _ _ => Iff.rfl) fun _ => rfl

/-- LINK arguments are lawful. -/
theorem xdrLink3args_lawful : Lawful xdrLink3args fun look => Proc.ArgsWf look .link :=
  xdrNfsFh3_lawful.two xdrDiropargs3_lawful (fun _ _ _ => Iff.rfl) fun _ => rfl

/-- READDIR arguments are lawful. -/
theorem xdrReaddir3args_lawful : Lawful xdrReaddir3args fun _ x => x.dir.Wf :=
  xdrNfsFh3_lawful.four xdrULonglong_lawful xdrOpaque8_lawful xdrUInt_lawful (by simp) fun _ => rfl

/-- READDIRPLUS arguments are lawful. -/
theorem xdrReaddirplus3args_lawful : Lawful xdrReaddirplus3args fun _ x => x.dir.Wf :=
  xdrNfsFh3_lawful.five xdrULonglong_lawful xdrOpaque8_lawful xdrUInt_lawful xdrUInt_lawful
    (by simp) fun _ => rfl

/-- The arguments of every procedure are lawful. -/
theorem Proc.args_lawful (p : Proc) : Lawful p.xdrDecodeFunc fun look => p.ArgsWf look := by
  cases p with
  | null => exact xdrVoid_lawful
  | getattr | readlink | fsstat | fsinfo | pathconf => exact xdrNfsFh3_lawful
  | setattr => exact xdrSetattr3args_lawful
  | lookup | remove | rmdir => exact xdrDiropargs3_lawful
  | access => exact xdrAccess3args_lawful
  | read | commit => exact xdrRange3args_lawful
  | write => exact xdrWrite3args_lawful
  | create => exact xdrCreate3args_lawful
  | mkdir => exact xdrMkdir3args_lawful
  | symlink => exact xdrSymlink3args_lawful
  | mknod => exact xdrMknod3args_lawful
  | rename => exact xdrRename3args_lawful
  | link => exact xdrLink3args_lawful
  | readdir => exact xdrReaddir3args_lawful
  | readdirplus => exact xdrReaddirplus3args_lawful

/-- What LOOKUP found is lawful. -/
theorem xdrLookup3resok_lawful : Lawful xdrLookup3resok fun _ ok =>
      ok.object.Wf ∧ AttrWf ok.objAttributes ∧ AttrWf ok.dirAttributes :=
  xdrNfsFh3_lawful.three xdrPostOpAttr_lawful xdrPostOpAttr_lawful
    (fun _ _ _ _ => Iff.rfl) fun _ => rfl

/-- The rights ACCESS granted are lawful. -/
theorem xdrAccess3resok_lawful : Lawful xdrAccess3resok fun _ ok => AttrWf ok.objAttributes :=
  xdrPostOpAttr_lawful.two xdrUInt_lawful (by simp) fun _ => rfl

/-- The target READLINK read is lawful. -/
theorem xdrReadlink3resok_lawful : Lawful xdrReadlink3resok fun look ok =>
      AttrWf ok.symlinkAttributes ∧ NameWf look ok.data :=
  xdrPostOpAttr_lawful.two xdrFilename3_lawful (fun _ _ _ => Iff.rfl) fun _ => rfl

/-- The data READ read is lawful. -/
theorem xdrRead3resok_lawful : Lawful xdrRead3resok fun _ ok =>
      AttrWf ok.fileAttributes ∧ BoolWf ok.eof ∧ ok.data.length ≤ xdrBytesMaxlenIo :=
  xdrPostOpAttr_lawful.four xdrUInt_lawful xdrBool_lawful xdrData_lawful (by simp) fun _ => rfl

/-- What WRITE wrote is lawful. -/
theorem xdrWrite3resok_lawful : Lawful xdrWrite3resok fun _ ok => ok.fileWcc.Wf :=
  xdrWccData_lawful.four xdrUInt_lawful xdrUInt_lawful xdrOpaque8_lawful (by simp) fun _ => rfl

/-- What a creating procedure made is lawful. -/
theorem xdrCreation3resok_lawful : Lawful xdrCreation3resok fun _ => Creation3resok.Wf :=
  xdrPostOpFh3_lawful.three xdrPostOpAttr_lawful xdrWccData_lawful
    (fun _ _ _ _ => Iff.rfl) fun _ => rfl

/-- The attributes of both directories are lawful. -/
theorem xdrRename3resok_lawful : Lawful xdrRename3resok fun _ both =>
      both.fromdirWcc.Wf ∧ both.todirWcc.Wf :=
  xdrWccData_lawful.two xdrWccData_lawful (fun _ _ _ => Iff.rfl) fun _ => rfl

/-- The attributes LINK returns are lawful. -/
theorem xdrLink3resok_lawful : Lawful xdrLink3resok fun _ both =>
      AttrWf both.fileAttributes ∧ both.linkdirWcc.Wf :=
  xdrPostOpAttr_lawful.two xdrWccData_lawful (fun _ _ _ => Iff.rfl) fun _ => rfl

/-- The listing READDIR made is lawful. -/
theorem xdrReaddir3resok_lawful : Lawful xdrReaddir3resok fun look ok =>
      AttrWf ok.dirAttributes ∧ ok.reply.Wf look :=
  xdrPostOpAttr_lawful.three xdrOpaque8_lawful xdrDirlist3_lawful (by simp) fun _ => rfl

/-- The listing READDIRPLUS made is lawful. -/
theorem xdrReaddirplus3resok_lawful : Lawful xdrReaddirplus3resok fun look ok =>
      AttrWf ok.dirAttributes ∧ ok.reply.Wf look :=
  xdrPostOpAttr_lawful.three xdrOpaque8_lawful xdrDirlistplus3_lawful (by simp) fun _ => rfl

/-- The space FSSTAT found is lawful. -/
theorem xdrFsstat3resok_lawful : Lawful xdrFsstat3resok fun _ ok => AttrWf ok.objAttributes := by
  constructor
  · intro x attributes
    refine .step (xdrPostOpAttr_lawful.carries _ attributes) ?_
    iterate 6 refine .step (xdrULonglong_lawful.carries _ trivial) ?_
    exact .step (xdrUInt_lawful.carries _ trivial) (.done rfl)
  · refine .step xdrPostOpAttr_lawful.yields fun _ attributes => ?_
    iterate 6 refine .step xdrULonglong_lawful.yields fun _ _ => ?_
    exact .step xdrUInt_lawful.yields fun _ _ => .done attributes

/-- The limits FSINFO states are lawful. -/
theorem xdrFsinfo3resok_lawful : Lawful xdrFsinfo3resok fun _ ok => AttrWf ok.objAttributes := by
  constructor
  · intro x attributes
    refine .step (xdrPostOpAttr_lawful.carries _ attributes) ?_
    iterate 7 refine .step (xdrUInt_lawful.carries _ trivial) ?_
    refine .step (xdrULonglong_lawful.carries _ trivial) ?_
    refine .step (xdrNfstime3_lawful.carries _ trivial) ?_
    exact .step (xdrUInt_lawful.carries _ trivial) (.done rfl)
  · refine .step xdrPostOpAttr_lawful.yields fun _ attributes => ?_
    iterate 7 refine .step xdrUInt_lawful.yields fun _ _ => ?_
    refine .step xdrULonglong_lawful.yields fun _ _ => ?_
    refine .step xdrNfstime3_lawful.yields fun _ _ => ?_
    exact .step xdrUInt_lawful.yields fun _ _ => .done attributes

/-- The path limits PATHCONF states are lawful. -/
theorem xdrPathconf3resok_lawful : Lawful xdrPathconf3resok fun _ ok =>
      AttrWf ok.objAttributes ∧ BoolWf ok.noTrunc ∧ BoolWf ok.chownRestricted ∧
        BoolWf ok.caseInsensitive ∧ BoolWf ok.casePreserving := by
  constructor
  · rintro x ⟨attributes, noTrunc, chownRestricted, caseInsensitive, casePreserving⟩
    refine .step (xdrPostOpAttr_lawful.carries _ attributes) ?_
    iterate 2 refine .step (xdrUInt_lawful.carries _ trivial) ?_
    refine .step (xdrBool_lawful.carries _ noTrunc) ?_
    refine .step (xdrBool_lawful.carries _ chownRestricted) ?_
    refine .step (xdrBool_lawful.carries _ caseInsensitive) ?_
    exact .step (xdrBool_lawful.carries _ casePreserving) (.done rfl)
  · refine .step xdrPostOpAttr_lawful.yields fun _ attributes => ?_
    iterate 2 refine .step xdrUInt_lawful.yields fun _ _ => ?_
    refine .step xdrBool_lawful.yields fun _ noTrunc => ?_
    refine .step xdrBool_lawful.yields fun _ chownRestricted => ?_
    refine .step xdrBool_lawful.yields fun _ caseInsensitive => ?_
    exact .step xdrBool_lawful.yields fun _ casePreserving =>
      .done ⟨attributes, noTrunc, chownRestricted, caseInsensitive, casePreserving⟩

/-- What COMMIT returns on success is lawful. -/
theorem xdrCommit3resok_lawful : Lawful xdrCommit3resok fun _ ok => ok.fileWcc.Wf :=
  xdrWccData_lawful.two xdrOpaque8_lawful (by simp) fun _ => rfl

/-- The results of every procedure are lawful. -/
theorem Proc.res_lawful (p : Proc) : Lawful p.xdrEncodeFunc fun look => p.ResWf look := by
  -- Each result is a union over its status, so only its two arms need be named.
  cases p with
  | null => exact xdrVoid_lawful
  | getattr => exact xdrStatusUnion_lawful xdrFattr3_lawful xdrVoid_lawful
  | setattr | remove | rmdir => exact xdrStatusUnion_lawful xdrWccData_lawful xdrWccData_lawful
  | lookup => exact xdrStatusUnion_lawful xdrLookup3resok_lawful xdrPostOpAttr_lawful
  | access => exact xdrStatusUnion_lawful xdrAccess3resok_lawful xdrPostOpAttr_lawful
  | readlink => exact xdrStatusUnion_lawful xdrReadlink3resok_lawful xdrPostOpAttr_lawful
  | read => exact xdrStatusUnion_lawful xdrRead3resok_lawful xdrPostOpAttr_lawful
  | write => exact xdrStatusUnion_lawful xdrWrite3resok_lawful xdrWccData_lawful
  | create | mkdir | symlink | mknod =>
    exact xdrStatusUnion_lawful xdrCreation3resok_lawful xdrWccData_lawful
  | rename => exact xdrStatusUnion_lawful xdrRename3resok_lawful xdrRename3resok_lawful
  | link => exact xdrStatusUnion_lawful xdrLink3resok_lawful xdrLink3resok_lawful
  | readdir => exact xdrStatusUnion_lawful xdrReaddir3resok_lawful xdrPostOpAttr_lawful
  | readdirplus => exact xdrStatusUnion_lawful xdrReaddirplus3resok_lawful xdrPostOpAttr_lawful
  | fsstat => exact xdrStatusUnion_lawful xdrFsstat3resok_lawful xdrPostOpAttr_lawful
  | fsinfo => exact xdrStatusUnion_lawful xdrFsinfo3resok_lawful xdrPostOpAttr_lawful
  | pathconf => exact xdrStatusUnion_lawful xdrPathconf3resok_lawful xdrPostOpAttr_lawful
  | commit => exact xdrStatusUnion_lawful xdrCommit3resok_lawful xdrWccData_lawful

/--
Every message survives the trip, and every message that arrives is well formed.

A well-formed message can always be written. Reading what was written gives the message back and
stops where it ended, whatever follows. Nothing else can be read: strings that arrive are C strings
within the bound, and every boolean, handle, mode and count is in range.
-/
theorem roundTrip_messages (p : Proc) :
    (∀ x, p.ArgsWf id x → ∃ bytes,
      (∀ out, p.xdrDecodeFunc ⟨.encode, out⟩ x = some (⟨.encode, out ++ bytes⟩, x)) ∧
      ∀ old suffix, p.xdrDecodeFunc ⟨.decode, bytes ++ suffix⟩ old
        = some (⟨.decode, suffix⟩, x)) ∧
    (∀ y, p.ResWf id y → ∃ bytes,
      (∀ out, p.xdrEncodeFunc ⟨.encode, out⟩ y = some (⟨.encode, out ++ bytes⟩, y)) ∧
      ∀ old suffix, p.xdrEncodeFunc ⟨.decode, bytes ++ suffix⟩ old
        = some (⟨.decode, suffix⟩, y)) ∧
    (∀ input old after x, p.xdrDecodeFunc ⟨.decode, input⟩ old = some (after, x) →
      p.ArgsWf cstr x) ∧
    (∀ input old after y, p.xdrEncodeFunc ⟨.decode, input⟩ old = some (after, y) →
      p.ResWf cstr y) := by
  refine ⟨?_, ?_, ?_, ?_⟩
  · intro x good
    obtain ⟨bytes, carried⟩ := p.args_lawful.carries x good
    exact ⟨bytes, carried.writes, carried.reads⟩
  · intro y good
    obtain ⟨bytes, carried⟩ := p.res_lawful.carries y good
    exact ⟨bytes, carried.writes, carried.reads⟩
  · intro input old after x read
    exact (p.args_lawful.yields _ _ _ _ rfl read).2
  · intro input old after y read
    exact (p.res_lawful.yields _ _ _ _ rfl read).2

/-- A listing of two entries, of which the first has both attributes and a handle. -/
def twoEntryListing : Readdirplus3res :=
  .ok
    { dirAttributes := .absent
      cookieverf := 7
      reply :=
        { entries :=
            [{ fileid := 2, name := [46], cookie := 1, nameAttributes := .present default,
               nameHandle := .present [47] },
             { fileid := 3, name := [97], cookie := 2, nameAttributes := .absent,
               nameHandle := .absent }]
          eof := 1 } }

/-- The trip of that listing, and of the one-byte handle an eight-byte message holds. -/
theorem roundTrip_twoEntryListing :
    (∃ bytes,
      (∀ out, xdrReaddirplus3res ⟨.encode, out⟩ twoEntryListing
        = some (⟨.encode, out ++ bytes⟩, twoEntryListing)) ∧
      ∀ old suffix, xdrReaddirplus3res ⟨.decode, bytes ++ suffix⟩ old
        = some (⟨.decode, suffix⟩, twoEntryListing)) ∧
    (∃ bytes,
      (∀ out, xdrGetattr3args ⟨.encode, out⟩ [47] = some (⟨.encode, out ++ bytes⟩, [47])) ∧
      ∀ old suffix, xdrGetattr3args ⟨.decode, bytes ++ suffix⟩ old
        = some (⟨.decode, suffix⟩, [47])) ∧
    Proc.ArgsWf cstr .getattr [47] ∧
    Proc.ResWf cstr .getattr (.fail 2 (by decide) ()) := by
  refine ⟨?_, ?_, ?_, ?_⟩
  · refine (roundTrip_messages .readdirplus).2.1 twoEntryListing ⟨trivial, ?_, Or.inr rfl⟩
    refine List.forall_mem_cons.mpr ⟨?_, List.forall_mem_singleton.mpr ?_⟩
    · exact ⟨⟨by decide, by decide⟩, trivial, show [47].length ≤ 64 by decide⟩
    · exact ⟨⟨by decide, by decide⟩, trivial, trivial⟩
  · exact (roundTrip_messages .getattr).1 [47] (show [47].length ≤ 64 by decide)
  · exact (roundTrip_messages .getattr).2.2.1 [0, 0, 0, 1, 47, 0, 0, 0] [] ⟨.decode, []⟩ [47] rfl
  · exact (roundTrip_messages .getattr).2.2.2 [0, 0, 0, 2] (.ok default) ⟨.decode, []⟩ _ rfl

end Messages

end Dnfs
