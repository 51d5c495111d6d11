import Dnfs.Log.LogConfigLaws
import Dnfs.Log.LogDiskLaws
import Dnfs.Run.Sequences

/-! When log files are cut off by time. -/

namespace Dnfs

variable {world : LogWorld} {file : LogFile} {disk : LogDisk}

section Cutting

open LogFile

/-- A log file that is to be cut off by time, as the configuration sets it up. -/
structure LogFile.Timed (file : LogFile) : Prop where
  mode : file.rotateType = .time
  limit : file.logLimit = file.when.interval
  path : file.logFilePath = file.logDirectoryPath ++ '/' :: file.fileName
  /-- There is no count without a file. -/
  counts : file.filePathList = [] → file.logFiles = 0

/-- A configuration that cuts off by time makes such a log file, of which nothing is cut off yet. -/
theorem LogFile.timed_of_generateData {σ : Type} {os : LogOs σ} {naming : LogNaming}
    {configStr moduleN : Text} {logL : LogLevel} {s : σ}
    (config : (generateData os naming { moduleName := moduleN } configStr moduleN logL s).1
      = .ok file) (mode : file.rotateType = .time) :
    file.Timed ∧ file.filePathList = [] ∧ file.useFileBuildTime = 0 := by
  obtain ⟨parsed, done, _, rfl⟩ := generateData_ok.mp config
  have isTime : parsed.rotateType = .time := mode
  cases found : find ['@'] configStr with
  | none =>
    rw [setConfig_plain found] at done
    cases done
    cases isTime
  | some argsIndex =>
    rw [setConfig_at found] at done
    split at done
    · cases done
    · -- Of the two ways to cut off, only one is left.
      obtain ⟨count, _, ⟨limit, rfl⟩ | ⟨when_, rfl⟩⟩ := setArgs_ok done
      · cases isTime
      · exact ⟨⟨rfl, rfl, rfl, fun _ => rfl⟩, rfl, rfl⟩

/-- After the file was cut off, there is none under its name, and some path is in the list. -/
theorem LogFile.Timed.rotateLogFile (timed : file.Timed) (world : LogWorld) (nowTime : Int)
    (disk : LogDisk) :
    ∃ list count names fds, file.rotateLogFile world.os nowTime disk =
        (none, { file with filePathList := list, logFiles := count }, { disk with names, fds }) ∧
      list ≠ [] ∧ names.lookup file.logFilePath = none := by
  let rotatePath := file.logDirectoryPath ++ '/' ::
    (file.fileName ++ '.' :: world.format nowTime (timeFormat file.when))
  have named : (file.mvFileName world.os nowTime (file.closed disk)).1 =
      .ok (file.fileName ++ '.' :: world.format nowTime (timeFormat file.when)) := by
    rw [mvFileName, timed.mode]
    rfl
  have differ : file.logFilePath ≠ rotatePath := by
    intro same
    have lengths := congrArg List.length same
    simp only [timed.path, rotatePath, List.length_append, List.length_cons] at lengths
    omega
  obtain ⟨fds, closes⟩ := file.closed_eq disk
  obtain ⟨names, renames⟩ := (file.closed disk).rename_eq file.logFilePath rotatePath
  have gone : names.lookup file.logFilePath = none := by
    have source := (file.closed disk).rename_source differ
    rw [renames] at source
    exact source
  rw [LogFile.rotateLogFile_disk named, renames, closes, keepPath_disk]
  split
  · next many =>
    refine ⟨_, _, _, _, rfl, ?_, lookup_erase_none gone _⟩
    -- A file is removed only if there was one before.
    cases list : file.filePathList with
    | nil =>
      rw [timed.counts list, Int32.lt_iff_toInt_lt, Int32.lt_iff_toInt_lt] at many
      have one : (0 + 1 : Int32).toInt = 1 := rfl
      have zero : (0 : Int32).toInt = 0 := rfl
      omega
    | cons first rest => simp
  · exact ⟨_, _, _, _, rfl, by simp, gone⟩

end Cutting

section Calls

open LogFile

/-- A message is given to a log file at some time. -/
def timedStep (world : LogWorld) (call : Int × Text) (state : LogFile × LogDisk) :
    Option (LogFile × LogDisk) :=
  some (state.1.outMessage world.os call.2 { state.2 with now := call.1 }).2

/-- The path of a log file that is cut off by time is not empty. -/
theorem LogFile.Timed.path_ne (timed : file.Timed) : file.logFilePath ≠ [] := by
  rw [timed.path]
  exact List.append_ne_nil_of_right_ne_nil _ (List.cons_ne_nil _ _)

/-- A call at some time cuts the file off if its time is up, and then delivers the message. -/
theorem LogFile.Timed.outMessage (timed : file.Timed) (message : Text) (disk : LogDisk) :
    file.outMessage world.os message disk =
      ((if file.timeIsUp world.os disk.now then file.rotateLogFile world.os disk.now disk
        else (none, file, disk)).andThen (judgeAndCreateLogFile world.os)).andThen
          (writeMessage world.os message) := by
  have tests : file.tested world.os disk
      = (decide (file.timeIsUp world.os disk.now), disk.now, disk) := by
    rw [tested, timed.mode]
    rfl
  rw [outMessage_eq, tests, rotateIf]
  simp only [decide_eq_true_eq]

/-- A message goes to a new file, if the old one is cut off or there is none. -/
theorem LogFile.Timed.outMessage_new (timed : file.Timed) (disk : LogDisk) (message : Text)
    (new : file.timeIsUp world.os disk.now ∨ disk.names.lookup file.logFilePath = none) :
    ∃ list count names fds offsets handler, file.outMessage world.os message disk =
        (none,
          { file with
            filePathList := list, logFiles := count
            useFileBuildTime := disk.now, fileHandler := handler },
          { disk with inodes := disk.added message, names, fds, offsets }) ∧
      names.lookup file.logFilePath = some disk.inodes.length ∧
      (file.timeIsUp world.os disk.now → list ≠ []) ∧
      (¬file.timeIsUp world.os disk.now → list = file.filePathList ∧ count = file.logFiles) := by
  rw [timed.outMessage]
  -- Either the old file is put away first, or there was none.
  by_cases up : file.timeIsUp world.os disk.now
  · obtain ⟨list, count, names, fds, cuts, some_, gone⟩ := timed.rotateLogFile world disk.now disk
    obtain ⟨handler, fds', offsets, _, delivers⟩ := deliver_missing world
      { file with filePathList := list, logFiles := count } { disk with names, fds } message
      timed.path_ne gone
    rw [if_pos up, cuts, LogCalled.andThen, delivers]
    exact ⟨_, _, _, _, _, _, rfl, AList.lookup_insert _, fun _ => some_,
      fun stays => absurd up stays⟩
  · obtain missing := new.resolve_left up
    obtain ⟨handler, fds, offsets, _, delivers⟩ :=
      deliver_missing world file disk message timed.path_ne missing
    rw [if_neg up, LogCalled.andThen, delivers]
    exact ⟨_, _, _, _, _, _, rfl, AList.lookup_insert _, fun isUp => absurd isUp up,
      fun _ => ⟨rfl, rfl⟩⟩

/-- A message goes to the file that is there, and the log then goes by when that was written. -/
theorem LogFile.Timed.outMessage_same (timed : file.Timed) (disk : LogDisk) (message : Text)
    {n : Nat} {inode : LogInode} (stays : ¬file.timeIsUp world.os disk.now)
    (there : disk.names.lookup file.logFilePath = some n)
    (isFile : disk.inodes[n]? = some inode) :
    ∃ fds offsets handler, file.outMessage world.os message disk =
      (none, { file with useFileBuildTime := inode.ctime, fileHandler := handler },
        { disk with inodes := disk.appended n message, fds, offsets }) := by
  obtain ⟨handler, fds, offsets, _, delivers⟩ := deliver_there world message
    timed.path_ne there isFile
  rw [timed.outMessage, if_neg stays, LogCalled.andThen, delivers]
  exact ⟨_, _, _, rfl⟩

end Calls

section Honouring

/-- The number of calendar days that some times are in. -/
def LogWorld.days (world : LogWorld) (times : List Int) : Nat :=
  (times.map world.midnight).dedup.length

/-- What a file may hold: two days, or what was written within the interval. -/
def LogInode.Honours (world : LogWorld) (when_ : RotateWhen) (inode : LogInode) : Prop :=
  match when_ with
  | .never => True
  | .midnight => world.days inode.times ≤ 2
  | _ => ∀ time ∈ inode.times, time - inode.created ≤ when_.interval.toNat

instance (world : LogWorld) :
    (when_ : RotateWhen) → (inode : LogInode) → Decidable (inode.Honours world when_)
  | .never, _ => inferInstanceAs (Decidable True)
  | .midnight, inode => inferInstanceAs (Decidable (world.days inode.times ≤ 2))
  | .second, inode | .minute, inode | .hour, inode | .day, inode | .week, inode =>
    inferInstanceAs (Decidable (∀ time ∈ inode.times, _ ≤ _))

/-- Nothing is cut off if that is never to be, and no file holds more than it may. -/
def Honours (world : LogWorld) (state : LogFile × LogDisk) : Prop :=
  (state.1.when = .never → state.1.filePathList = []) ∧
    ∀ inode ∈ state.2.inodes, inode.Honours world state.1.when

instance (world : LogWorld) (state : LogFile × LogDisk) : Decidable (Honours world state) :=
  inferInstanceAs (Decidable ((_ → _) ∧ ∀ inode ∈ state.2.inodes, _))

/-- A file with one message holds what it may. -/
theorem LogInode.honours_new (when_ : RotateWhen) (now : Int) (message : Text) :
    LogInode.Honours world when_ ⟨now, now, message, [now]⟩ := by
  unfold LogInode.Honours
  split
  · trivial
  · simp [LogWorld.days]
  · intro time mem
    rw [List.mem_singleton.mp mem, Int.sub_self]
    exact Int.natCast_nonneg _

end Honouring

section Times

/-- A message comes more than the interval after the time the log goes by, or at such a midnight. -/
def Late (world : LogWorld) (when_ : RotateWhen) (taken now : Int) : Prop :=
  taken ≠ 0 ∧ when_.interval.toNat < now - taken ∧ (when_ ≠ .midnight ∨ world.midnight now = now)

instance lateDecidable (world : LogWorld) (when_ : RotateWhen) (taken now : Int) :
    Decidable (Late world when_ taken now) :=
  inferInstanceAs (Decidable (_ ∧ _ ∧ (_ ∨ _)))

/-- A message may join those of some times, the first of which made the file. -/
def Joins (world : LogWorld) (when_ : RotateWhen) (held : List Int) (now : Int) : Prop :=
  match when_ with
  | .never => True
  | .midnight => world.days (held ++ [now]) ≤ 2
  | _ => now - held.headD now ≤ when_.interval.toNat

instance joinsDecidable (world : LogWorld) :
    (when_ : RotateWhen) → (held : List Int) → (now : Int) →
      Decidable (Joins world when_ held now)
  | .never, _, _ => inferInstanceAs (Decidable True)
  | .midnight, held, now => inferInstanceAs (Decidable (world.days (held ++ [now]) ≤ 2))
  | .second, _, _ | .minute, _, _ | .hour, _, _ | .day, _, _ | .week, _, _ =>
    inferInstanceAs (Decidable (_ ≤ _))

/--
The messages come at times at which all files are cut off as they should be.

The log file holds messages of some times, and the log goes by one time. That is 0 in the beginning,
then the time of a message that made the file, and otherwise the time of the message before. A late
message begins a new file, which is never to be without an interval, and another one has to join
those in the file.
-/
def WellTimed (world : LogWorld) (when_ : RotateWhen) : Int → List Int → List Int → Prop
  | _, _, [] => True
  | taken, held, now :: later =>
    if Late world when_ taken now then when_ ≠ .never ∧ WellTimed world when_ now [now] later
    else Joins world when_ held now ∧
      WellTimed world when_ (held.getLastD now) (held ++ [now]) later

instance wellTimedDecidable (world : LogWorld) (when_ : RotateWhen) :
    (taken : Int) → (held times : List Int) → Decidable (WellTimed world when_ taken held times)
  | _, _, [] => isTrue trivial
  | taken, held, now :: later =>
    have := wellTimedDecidable world when_ now [now] later
    have := wellTimedDecidable world when_ (held.getLastD now) (held ++ [now]) later
    inferInstanceAs (Decidable (if Late world when_ taken now then _ ∧ _ else _ ∧ _))

/-- A path has no file, or one that holds messages of some times, made with the first of them. -/
def LogDisk.Holds (disk : LogDisk) (path : Text) : List Int → Prop
  | [] => disk.names.lookup path = none
  | first :: more => ∃ n inode, disk.names.lookup path = some n ∧ disk.inodes[n]? = some inode ∧
      inode.created = first ∧ inode.ctime = more.getLastD first ∧ inode.times = first :: more

/-- The log file holds messages of some times, and the log goes by one time. -/
structure Follows (state : LogFile × LogDisk) (taken : Int) (held : List Int) : Prop where
  timed : state.1.Timed
  build : state.1.useFileBuildTime = taken
  holds : state.2.Holds state.1.logFilePath held

variable {taken : Int} {held : List Int}

/-- The time of a log file is up just if the message is late. -/
theorem Follows.timeIsUp_iff (follows : Follows (file, disk) taken held) (now : Int) :
    file.timeIsUp world.os now ↔ Late world file.when taken now := by
  rw [LogFile.timeIsUp, Late, follows.timed.limit, follows.build]
  rfl

/-- A file that held what it may still does with one more message, just if that may join. -/
theorem LogInode.honours_append {when_ : RotateWhen} {inode : LogInode} {first : Int}
    {more : List Int} (now : Int) (created : inode.created = first)
    (times : inode.times = first :: more)
    (before : inode.Honours world when_) (changed : Int) (data : Text) :
    LogInode.Honours world when_ ⟨inode.created, changed, data, inode.times ++ [now]⟩ ↔
      Joins world when_ (first :: more) now := by
  unfold LogInode.Honours at before ⊢
  unfold Joins
  split
  · exact Iff.rfl
  · rw [times]
  · next never midnight =>
    split at before
    · exact absurd rfl never
    · exact absurd rfl midnight
    · rw [List.forall_mem_append, List.forall_mem_singleton, created]
      exact and_iff_right (created ▸ before)

/-- A new file holds its first message. -/
theorem LogDisk.holds_added (disk : LogDisk) (message : Text) {path : Text}
    {names : AList fun _ : Text => Nat} {fds offsets}
    (named : names.lookup path = some disk.inodes.length) :
    LogDisk.Holds { disk with inodes := disk.added message, names, fds, offsets } path
      [disk.now] :=
  ⟨_, ⟨disk.now, disk.now, message, [disk.now]⟩, named, by simp [LogDisk.added], rfl, rfl, rfl⟩

/-- With a new file, all files hold what they may. -/
theorem LogDisk.honours_added (disk : LogDisk) {when_ : RotateWhen} (message : Text)
    (before : ∀ inode ∈ disk.inodes, inode.Honours world when_) :
    ∀ inode ∈ disk.added message, inode.Honours world when_ :=
  List.forall_mem_append.mpr
    ⟨before, List.forall_mem_singleton.mpr (LogInode.honours_new when_ disk.now message)⟩

/-- The file that a message was appended to. -/
theorem LogDisk.getElem?_appended (disk : LogDisk) (message : Text) {n : Nat} {inode : LogInode}
    (isFile : disk.inodes[n]? = some inode) :
    (disk.appended n message)[n]? = some ⟨inode.created, disk.now, inode.data ++ message,
      inode.times ++ [disk.now]⟩ := by
  rw [LogDisk.appended, List.getElem?_modify_eq, isFile]
  rfl

/-- With a message appended to one of them, all files hold what they may if that one does. -/
theorem LogDisk.honours_appended (disk : LogDisk) {n : Nat} {inode : LogInode}
    {when_ : RotateWhen} (message : Text) (isFile : disk.inodes[n]? = some inode)
    (before : ∀ inode ∈ disk.inodes, inode.Honours world when_) :
    (∀ other ∈ disk.appended n message, other.Honours world when_) ↔
      LogInode.Honours world when_ ⟨inode.created, disk.now, inode.data ++ message,
        inode.times ++ [disk.now]⟩ := by
  constructor
  · exact fun all => all _ (List.mem_of_getElem? (disk.getElem?_appended message isFile))
  · intro longer other mem
    obtain ⟨m, at_⟩ := List.getElem?_of_mem mem
    by_cases same : n = m
    · rw [← same, disk.getElem?_appended message isFile] at at_
      cases at_
      exact longer
    · rw [LogDisk.appended, List.getElem?_modify_ne _ _ same] at at_
      exact before other (List.mem_of_getElem? at_)

/-- A late message makes a new file, and keeps the rule unless that is never to be. -/
theorem Follows.late (follows : Follows (file, disk) taken held) {now : Int} (message : Text)
    (honours : Honours world (file, disk)) (late : Late world file.when taken now) :
    let next := (file.outMessage world.os message { disk with now }).2
    next.1.when = file.when ∧ Follows next now [now] ∧
      (Honours world next ↔ file.when ≠ .never) := by
  have timed := follows.timed
  have up := (follows.timeIsUp_iff now).mpr late
  obtain ⟨list, count, names, fds, offsets, handler, result, named, cut, _⟩ :=
    timed.outMessage_new { disk with now } message (.inl up)
  rw [result]
  refine ⟨rfl, ⟨⟨timed.mode, timed.limit, timed.path, ?_⟩, rfl,
    LogDisk.holds_added { disk with now } message named⟩, ?_⟩
  · exact fun empty => absurd empty (cut up)
  · -- Some path is in the list now.
    refine ⟨fun after isNever => cut up (after.1 isNever), fun ever => ⟨?_, ?_⟩⟩
    · exact fun isNever => absurd isNever ever
    · exact LogDisk.honours_added { disk with now } message honours.2

/-- Another message keeps the rule just if it may join those in the file. -/
theorem Follows.notLate (follows : Follows (file, disk) taken held) {now : Int} (message : Text)
    (honours : Honours world (file, disk)) (early : ¬Late world file.when taken now) :
    let next := (file.outMessage world.os message { disk with now }).2
    next.1.when = file.when ∧ Follows next (held.getLastD now) (held ++ [now]) ∧
      (Honours world next ↔ Joins world file.when held now) := by
  have timed := follows.timed
  have stays := mt (follows.timeIsUp_iff now).mp early
  cases held with
  | nil =>
    -- The first message makes the file.
    obtain ⟨list, count, names, fds, offsets, handler, result, named, _, notCut⟩ :=
      timed.outMessage_new { disk with now } message (.inr follows.holds)
    obtain ⟨rfl, rfl⟩ := notCut stays
    rw [result]
    refine ⟨rfl, ⟨⟨timed.mode, timed.limit, timed.path, timed.counts⟩, rfl,
      LogDisk.holds_added { disk with now } message named⟩, iff_of_true ⟨honours.1, ?_⟩ ?_⟩
    · exact LogDisk.honours_added { disk with now } message honours.2
    · unfold Joins
      split
      · trivial
      · simp [LogWorld.days]
      · simp
  | cons first more =>
    obtain ⟨n, inode, there, isFile, created, changed, times⟩ := follows.holds
    obtain ⟨fds, offsets, handler, result⟩ :=
      timed.outMessage_same { disk with now } message stays there isFile
    rw [result]
    have isLonger := LogDisk.getElem?_appended { disk with now } message isFile
    refine ⟨rfl, ⟨⟨timed.mode, timed.limit, timed.path, timed.counts⟩, ?_, n, _, there, isLonger,
      created, by simp, by simp [times]⟩, ?_⟩
    · -- The log goes by the message before.
      exact changed.trans (List.getLastD_cons ..).symm
    · have all := LogDisk.honours_appended { disk with now } message isFile honours.2
      have joins := LogInode.honours_append now created times
        (honours.2 inode (List.mem_of_getElem? isFile)) now (inode.data ++ message)
      exact ⟨fun after => joins.mp (all.mp after.2),
        fun may => ⟨honours.1, all.mpr (joins.mpr may)⟩⟩

/-- From any state on, the rule is kept at every point just if the messages come in time. -/
theorem Follows.honours_iff {state : LogFile × LogDisk} (follows : Follows state taken held)
    (honours : Honours world state) (calls : List (Int × Text)) :
    AtEveryPoint (timedStep world) (Honours world) state calls ↔
      WellTimed world state.1.when taken held (calls.map Prod.fst) := by
  induction calls generalizing state taken held with
  | nil => exact ⟨fun _ => trivial, fun _ => honours⟩
  | cons call calls ih =>
    obtain ⟨file, disk⟩ := state
    obtain ⟨now, message⟩ := call
    -- The call ends in a state that the later times are judged from.
    have cons : ∀ {rule later : Prop},
        (Honours world (file.outMessage world.os message { disk with now }).2 ↔ rule) →
        (Honours world (file.outMessage world.os message { disk with now }).2 →
          (AtEveryPoint (timedStep world) (Honours world)
            (file.outMessage world.os message { disk with now }).2 calls ↔ later)) →
        (AtEveryPoint (timedStep world) (Honours world) (file, disk) ((now, message) :: calls) ↔
          rule ∧ later) := by
      intro rule later here rest
      constructor
      · rintro ⟨_, _, ⟨⟩, holds⟩
        exact ⟨here.mp holds.first, (rest holds.first).mp holds⟩
      · rintro ⟨may, inTime⟩
        exact ⟨honours, _, rfl, (rest (here.mpr may)).mpr inTime⟩
    rw [List.map_cons, WellTimed]
    split
    · next late =>
      obtain ⟨sameWhen, nextFollows, keeps⟩ := follows.late message honours late
      exact cons keeps fun after => sameWhen ▸ ih nextFollows after
    · next early =>
      obtain ⟨sameWhen, nextFollows, keeps⟩ := follows.notLate message honours early
      exact cons keeps fun after => sameWhen ▸ ih nextFollows after

/-- Files are cut off in time just if the messages come at times at which they are. -/
theorem logFile_honours_iff {σ : Type} (os : LogOs σ) (s : σ) (naming : LogNaming)
    (configStr moduleN : Text) (logL : LogLevel) (file : LogFile)
    (config : (LogFile.generateData os naming { moduleName := moduleN } configStr moduleN logL s).1
      = .ok file) (mode : file.rotateType = .time)
    (world : LogWorld) (disk : LogDisk) (held : List Int)
    (holds : disk.Holds file.logFilePath held)
    (start : ∀ inode ∈ disk.inodes, inode.Honours world file.when) (calls : List (Int × Text)) :
    AtEveryPoint (timedStep world) (Honours world) (file, disk) calls ↔
      WellTimed world file.when 0 held (calls.map Prod.fst) := by
  obtain ⟨timed, fresh, build⟩ := LogFile.timed_of_generateData config mode
  have follows : Follows (file, disk) 0 held := ⟨timed, build, holds⟩
  exact follows.honours_iff ⟨fun _ => fresh, start⟩ calls

/-- Messages within a minute stay in one file, and one more than a minute later begins another. -/
theorem logFile_honours_cut :
    WellTimed .plain .minute 0 [] [1000, 1030, 1100, 1150] ∧
    AtEveryPoint (timedStep .plain) (Honours .plain)
      ((LogFile.generateData LogWorld.plain.os ⟨['a'], .justOne⟩ {} "/l@(time,minute,3)".toList
        "default".toList .nolog .empty).1.toOption.getD {}, .empty)
      [(1000, ['x']), (1030, ['y']), (1100, ['z']), (1150, ['w'])] := by
  have inTime : WellTimed .plain .minute 0 [] [1000, 1030, 1100, 1150] := by decide
  exact ⟨inTime, (logFile_honours_iff LogWorld.plain.os .empty ⟨['a'], .justOne⟩
    "/l@(time,minute,3)".toList "default".toList .nolog _ rfl rfl .plain .empty [] rfl (by decide)
    _).mpr inTime⟩

/-- A message every twenty seconds stays in the same file after a minute. -/
theorem logFile_honours_fails :
    ∃ file state,
      (LogFile.generateData LogWorld.plain.os ⟨['a'], .justOne⟩ {} "/l@(time,minute,3)".toList
        "default".toList .nolog .empty).1 = .ok file ∧
      [(1000, ['v']), (1020, ['w']), (1040, ['x']), (1060, ['y']), (1080, ['z'])].foldlM
        (fun s call => timedStep .plain call s) (file, .empty) = some state ∧
      state.2.inodes = [⟨1000, 1080, "vwxyz".toList, [1000, 1020, 1040, 1060, 1080]⟩] ∧
      ¬Honours .plain state := by
  exact ⟨_, _, rfl, rfl, by decide, by decide⟩

end Times

end Dnfs
