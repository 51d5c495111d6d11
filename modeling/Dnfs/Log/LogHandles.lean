import Dnfs.Log.LogDisk
import Dnfs.Run.Sequences

/-! How many descriptors a log file holds open. -/

namespace Dnfs

variable {σ : Type}

section Handles

namespace LogFile

variable {os : LogOs σ} (handles : os.Handles)
variable (file : LogFile)

/-- The call throws before it opens anything. -/
def Refused (os : LogOs σ) (file : LogFile) (s : σ) : Prop :=
  file.logFilePath = [] ∨ (os.missing file.logFilePath s).1 = false ∧
    (os.readOnly file.logFilePath (os.missing file.logFilePath s).2).1 = true

instance (os : LogOs σ) (file : LogFile) (s : σ) : Decidable (file.Refused os s) :=
  inferInstanceAs (Decidable (_ ∨ _ ∧ _))

/-- A refused call changes nothing, and any other tries to open the file. -/
theorem judgeAndCreateLogFile_held (s : σ) :
    (file.Refused os s ∧ (file.judgeAndCreateLogFile os s).2.1 = file ∧
      handles.held (file.judgeAndCreateLogFile os s).2.2 = handles.held s) ∨
    (¬file.Refused os s ∧ Opened (handles.held s)
      (handles.held (file.judgeAndCreateLogFile os s).2.2)
      (file.judgeAndCreateLogFile os s).2.1.fileHandler) := by
  by_cases empty : file.logFilePath = []
  · exact .inl ⟨.inl empty, by rw [judgeAndCreateLogFile, if_pos empty], by
      rw [judgeAndCreateLogFile, if_pos empty]⟩
  · rw [judgeAndCreateLogFile, if_neg empty]
    -- A file that is not there is made, and one that is there is appended to.
    cases absent : (os.missing file.logFilePath s).1 with
    | true =>
      refine .inr ⟨by simp [Refused, empty, absent], ?_⟩
      have opens := handles.openCreate file.logFilePath (os.missing file.logFilePath s).2
      rw [handles.missing] at opens
      dsimp only
      rw [if_pos absent]
      split
      · exact opens
      · rw [handles.time]
        exact opens
    | false =>
      dsimp only
      rw [if_neg (by rw [absent]; exact Bool.false_ne_true)]
      cases denied : (os.readOnly file.logFilePath (os.missing file.logFilePath s).2).1 with
      | true =>
        refine .inl ⟨.inr ⟨absent, denied⟩, ?_⟩
        rw [if_pos rfl]
        exact ⟨rfl, by rw [handles.readOnly, handles.missing]⟩
      | false =>
        refine .inr ⟨by simp [Refused, empty, absent, denied], ?_⟩
        have opens := handles.openAppend file.logFilePath
          (os.readOnly file.logFilePath (os.missing file.logFilePath s).2).2
        rw [handles.readOnly, handles.missing] at opens
        rw [if_neg Bool.false_ne_true]
        split
        · exact opens
        · rw [handles.fstat]
          exact opens

/-- Testing opens and closes nothing. -/
theorem tested_held (s : σ) : handles.held (file.tested os s).2.2 = handles.held s := by
  cases mode : file.rotateType with
  | not => simp [tested, mode]
  | time => simp [tested, mode, handles.time]
  | size => simp [tested, mode, handles.time, handles.fstat]

/-- Nor does finding the new name. -/
theorem mvFileName_held (nowTime : Int) (s : σ) :
    handles.held (file.mvFileName os nowTime s).2 = handles.held s := by
  rw [mvFileName]
  split
  · rfl
  · dsimp only
    split <;> exact handles.readdir _ _

/-- Nor does removing the oldest file. -/
theorem keepPath_held (rotatePath : Text) (s : σ) :
    (file.keepPath os rotatePath s).1.fileHandler = file.fileHandler ∧
      handles.held (file.keepPath os rotatePath s).2 = handles.held s := by
  rw [keepPath]
  dsimp only
  split
  · refine ⟨rfl, ?_⟩
    split
    · rw [handles.notice, handles.remove]
    · rw [handles.remove]
  · exact ⟨rfl, rfl⟩

/-- Cutting off closes the descriptor of the log file, also when it throws. -/
theorem rotateLogFile_held (nowTime : Int) (s : σ) :
    (file.rotateLogFile os nowTime s).2.1.fileHandler = file.fileHandler ∧
      handles.held (file.rotateLogFile os nowTime s).2.2 =
        if file.fileHandler = -1 then handles.held s
        else (handles.held s).erase file.fileHandler := by
  -- Only closing gives a descriptor back.
  have closed : handles.held (if file.fileHandler = -1 then s else os.close file.fileHandler s)
      = if file.fileHandler = -1 then handles.held s
        else (handles.held s).erase file.fileHandler := by
    split
    · rfl
    · exact handles.close _ _
  rw [rotateLogFile]
  dsimp only
  have named := mvFileName_held handles file nowTime
    (if file.fileHandler = -1 then s else os.close file.fileHandler s)
  split
  · next left =>
    rw [left] at named
    exact ⟨rfl, named.trans closed⟩
  · next name t left =>
    rw [left] at named
    obtain ⟨handler, held⟩ := keepPath_held handles file (file.logDirectoryPath ++ '/' :: name)
      (os.rename file.logFilePath (file.logDirectoryPath ++ '/' :: name) t)
    exact ⟨handler, by rw [held, handles.rename, named, closed]⟩

/-- Writing opens and closes nothing. -/
theorem writeMessage_held (message : Text) (file : LogFile) (s : σ) :
    (file.writeMessage os message s).2.1.fileHandler = file.fileHandler ∧
      handles.held (file.writeMessage os message s).2.2 = handles.held s := by
  rw [writeMessage]
  dsimp only
  split
  · exact ⟨rfl, by rw [handles.notice, handles.write]⟩
  · exact ⟨rfl, handles.write _ _ _⟩

/-- After a call, the descriptors depend on whether it cut the file off, opened it or refused. -/
theorem outMessage_held (message : Text) (s : σ) :
    let next := (file.outMessage os message s).2
    let closed := if file.fileHandler = -1 then handles.held s
      else (handles.held s).erase file.fileHandler
    ((file.tested os s).1 = true ∧
      (next.1.fileHandler = file.fileHandler ∧ handles.held next.2 = closed ∨
        Opened closed (handles.held next.2) next.1.fileHandler)) ∨
    ((file.tested os s).1 = false ∧ file.Refused os (file.tested os s).2.2 ∧
      next.1.fileHandler = file.fileHandler ∧ handles.held next.2 = handles.held s) ∨
    ((file.tested os s).1 = false ∧ ¬file.Refused os (file.tested os s).2.2 ∧
      Opened (handles.held s) (handles.held next.2) next.1.fileHandler) := by
  intro next closed
  -- Writing changes nothing, whether it is reached or not.
  have same : next.1.fileHandler = ((file.rotateIf os (file.tested os s)).andThen
        (judgeAndCreateLogFile os)).2.1.fileHandler ∧
      handles.held next.2 = handles.held ((file.rotateIf os (file.tested os s)).andThen
        (judgeAndCreateLogFile os)).2.2 := by
    simp only [next, outMessage_eq]
    generalize (file.rotateIf os (file.tested os s)).andThen (judgeAndCreateLogFile os) = called
    obtain ⟨_ | thrown, left, t⟩ := called
    · exact writeMessage_held handles message left t
    · exact ⟨rfl, rfl⟩
  rw [same.1, same.2]
  have tested := tested_held handles file s
  cases cut : (file.tested os s).1 with
  | true =>
    obtain ⟨handler, held⟩ := rotateLogFile_held handles file (file.tested os s).2.1
      (file.tested os s).2.2
    rw [tested] at held
    refine .inl ⟨rfl, ?_⟩
    rw [rotateIf, if_pos cut]
    generalize file.rotateLogFile os _ _ = called at handler held
    obtain ⟨_ | thrown, left, t⟩ := called
    · dsimp only at handler held
      rcases judgeAndCreateLogFile_held handles left t with ⟨_, file_, held_⟩ | ⟨_, opened⟩
      · refine .inl ⟨?_, held_.trans held⟩
        rw [LogCalled.andThen, file_, handler]
      · rw [held] at opened
        exact .inr opened
    · exact .inl ⟨handler, held⟩
  | false =>
    rw [rotateIf, if_neg (by rw [cut]; exact Bool.false_ne_true), LogCalled.andThen]
    rcases judgeAndCreateLogFile_held handles file (file.tested os s).2.2 with
      ⟨refused, file_, held_⟩ | ⟨goes, opened⟩
    · exact .inr (.inl ⟨rfl, refused, by rw [file_], held_.trans tested⟩)
    · rw [tested] at opened
      exact .inr (.inr ⟨rfl, goes, opened⟩)

end LogFile

end Handles

section Owning

variable (os : LogOs σ)

/-- A message is given to a log file, and what is thrown is caught. -/
def outStep (message : Text) (state : LogFile × σ) : Option (LogFile × σ) :=
  some (state.1.outMessage os message state.2).2

variable {os} (handles : os.Handles)

/-- At most one descriptor is open, and the destructor would leave none. -/
def OwnsOne (state : LogFile × σ) : Prop :=
  (handles.held state.2).length ≤ 1 ∧ handles.held (state.1.destroy os state.2) = []

/-- No descriptor is open before the call, or it cuts the file off, or it opens none. -/
def Spares (state : LogFile × σ) (_ : Text) : Prop :=
  handles.held state.2 = [] ∨ (state.1.tested os state.2).1 = true ∨
    state.1.Refused os (state.1.tested os state.2).2.2

instance (state : LogFile × σ) (message : Text) : Decidable (Spares handles state message) :=
  inferInstanceAs (Decidable (_ ∨ _ ∨ _))

variable {handles}

/-- The only descriptor that may be open is that of the log file. -/
theorem ownsOne_iff {file : LogFile} {s : σ} : OwnsOne handles (file, s) ↔
    handles.held s = [] ∨ -1 < file.fileHandler ∧ handles.held s = [file.fileHandler] := by
  unfold OwnsOne LogFile.destroy
  dsimp only
  by_cases valid : -1 < file.fileHandler
  · rw [if_pos valid, handles.close]
    constructor
    · rintro ⟨few, none_⟩
      -- The one that is open is the one that the destructor closes.
      match held : handles.held s with
      | [] => exact .inl rfl
      | [handler] =>
        rw [held, List.erase_cons] at none_
        split at none_
        · next same => exact .inr ⟨valid, by rw [eq_of_beq same]⟩
        · cases none_
      | _ :: _ :: _ => simp [held] at few
    · rintro (none_ | ⟨_, one⟩)
      · simp [none_]
      · simp [one]
  · rw [if_neg valid]
    constructor
    · rintro ⟨_, none_⟩
      exact .inl none_
    · rintro (none_ | ⟨isValid, _⟩)
      · simp [none_]
      · exact absurd isValid valid

/-- What is opened when nothing is open is the only descriptor. -/
theorem Opened.ownsOne {file : LogFile} {s : σ}
    (opened : Opened [] (handles.held s) file.fileHandler) : OwnsOne handles (file, s) := by
  rcases opened with ⟨_, held⟩ | ⟨valid, _, held⟩
  · exact ownsOne_iff.mpr (.inl held)
  · exact ownsOne_iff.mpr (.inr ⟨valid, held⟩)

/-- A call that opens no second descriptor keeps the property. -/
theorem OwnsOne.outStep {state : LogFile × σ} {message : Text} (owns : OwnsOne handles state)
    (spares : Spares handles state message) :
    ∃ next, Dnfs.outStep os message state = some next ∧ OwnsOne handles next := by
  obtain ⟨file, s⟩ := state
  refine ⟨_, rfl, ?_⟩
  -- Closing leaves nothing open, as there was nothing else.
  have closed : (if file.fileHandler = -1 then handles.held s
      else (handles.held s).erase file.fileHandler) = [] := by
    rcases ownsOne_iff.mp owns with none_ | ⟨valid, one⟩
    · simp [none_]
    · rw [if_neg (by omega), one, List.erase_cons_head]
  rcases LogFile.outMessage_held handles file message s with
    ⟨_, kept | opened⟩ | ⟨_, _, handler, held⟩ | ⟨cut, goes, opened⟩
  · exact ownsOne_iff.mpr (.inl (kept.2.trans closed))
  · rw [closed] at opened
    exact opened.ownsOne
  · have before := ownsOne_iff.mp owns
    rw [← handler, ← held] at before
    exact ownsOne_iff.mpr before
  · rcases spares with none_ | isCut | refused
    · dsimp only at none_
      rw [none_] at opened
      exact opened.ownsOne
    · exact absurd (isCut.symm.trans cut) (by decide)
    · exact absurd refused goes

/-- Any other call spoils it. -/
theorem OwnsOne.spares {state next : LogFile × σ} {message : Text} (owns : OwnsOne handles state)
    (takes : Dnfs.outStep os message state = some next) (after : OwnsOne handles next) :
    Spares handles state message := by
  obtain ⟨file, s⟩ := state
  cases takes
  rcases LogFile.outMessage_held handles file message s with
    ⟨cut, _⟩ | ⟨_, refused, _⟩ | ⟨_, _, opened⟩
  · exact .inr (.inl cut)
  · exact .inr (.inr refused)
  · refine .inl ?_
    rcases ownsOne_iff.mp owns with none_ | ⟨valid, one⟩
    · exact none_
    -- The old descriptor is still open, and it is not that of the log file any more.
    · exfalso
      rw [one] at opened
      rcases ownsOne_iff.mp after with none_ | ⟨_, only⟩
      · rw [none_] at opened
        rcases opened with ⟨_, same⟩ | ⟨_, _, same⟩ <;> cases same
      · rw [only] at opened
        rcases opened with ⟨failed, same⟩ | ⟨_, _, same⟩
        · rw [(List.cons.inj same).1] at failed
          omega
        · simp at same

/--
A log file never owns more than one descriptor, and gives it back, just if no call opens the file
while it is open.
-/
theorem logFile_ownsOne_iff (handles : os.Handles) (file : LogFile) (s : σ)
    (start : handles.held s = []) (messages : List Text) :
    AtEveryPoint (outStep os) (OwnsOne handles) (file, s) messages ↔
      AtEveryStep (outStep os) (Spares handles) (file, s) messages := by
  -- The property is its own invariant.
  have owns : OwnsOne handles (file, s) := ownsOne_iff.mpr (.inl start)
  refine atEveryPoint_iff (fun _ holds => holds) ?_ ?_ owns
  · exact fun state message before spares => before.outStep spares
  · exact fun state message next before takes after => before.spares takes after

/-- Where every message cuts the file off, there is one descriptor after each of them. -/
theorem logFile_ownsOne_cut :
    AtEveryPoint (outStep LogWorld.plain.os) (OwnsOne (LogDisk.handles .plain))
      ({ rotateType := .size, logDirectoryPath := "/l".toList, fileName := "a_size.log".toList,
         logFilePath := "/l/a_size.log".toList }, .empty) [['a'], ['b'], ['c']] :=
  (logFile_ownsOne_iff (LogDisk.handles .plain) _ .empty rfl _).mpr (by decide)

/-- Without cutting off, two messages leave two descriptors, one of them for good. -/
theorem logFile_ownsOne_fails :
    ∃ state : LogFile × LogDisk,
      [['a'], ['b']].foldlM (fun s message => outStep LogWorld.plain.os message s)
        ({ logDirectoryPath := "/l".toList, fileName := "a.log".toList,
           logFilePath := "/l/a.log".toList }, .empty) = some state ∧
      state.2.fds.keys = [1, 0] ∧ (state.1.destroy LogWorld.plain.os state.2).fds.keys = [0] :=
  ⟨_, rfl, by decide, by decide⟩

end Owning

end Dnfs
