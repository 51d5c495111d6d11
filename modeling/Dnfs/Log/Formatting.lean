import Dnfs.Log.Formatters
import Dnfs.Run.Templates

/-! What a line of the log is made of. -/

namespace Dnfs

section Replacing

/-- What a reference behind a dollar stands for, and its length, as `std::match_results` has it. -/
def reference (matched before after : Text) : Text → Text × Nat
  | [] => (['$'], 0)
  | c :: rest =>
    if c = '$' then (['$'], 1)
    else if c = '&' then (matched, 1)
    else if c = '\x60' then (before, 1)
    else if c = '\x27' then (after, 1)
    else if c.isDigit then
      -- There are no groups, so only the number of the whole match stands for something.
      if rest.head?.any Char.isDigit then
        (if c = '0' ∧ rest.head? = some '0' then matched else [], 2)
      else (if c = '0' then matched else [], 1)
    else (['$'], 0)

/-- Put in what the references of a text stand for, behind some characters of a reference. -/
def expandFrom (matched before after : Text) : Nat → Text → Text
  | _, [] => []
  | skip + 1, _ :: rest => expandFrom matched before after skip rest
  | 0, c :: rest =>
    if c = '$' then
      let (standsFor, length) := reference matched before after rest
      standsFor ++ expandFrom matched before after length rest
    else c :: expandFrom matched before after 0 rest

/-- Replace a word that has no special characters, from one match to the next. -/
def replaceLoop (word fmt : Text) : Nat → Text → Text
  | 0, text => text
  | steps + 1, text =>
    match find word text with
    | none => text
    | some pos =>
      let before := text.take pos
      let after := text.drop (pos + word.length)
      before ++ expandFrom word before after 0 fmt ++ replaceLoop word fmt steps after

/-- `std::regex_replace` for the regular expression of a word. -/
def regexReplace (text word fmt : Text) : Text := replaceLoop word fmt text.length text

end Replacing

section Lines

/-- What a line of the log is made of, from the message, the logger and the system. -/
structure LogRecord where
  programName : Text
  hostname : Text
  logLevel : LogLevel
  filePath : Text
  fileName : Text
  moduleName : Text
  funcName : Text
  lineNo : Int
  /-- The seconds of `record_time`. -/
  seconds : Int
  logInitTime : Int
  now : Int
  /-- `record_time` in the format of the module. -/
  ascTime : Text
  tid : Text
  threadName : Text
  pid : Int
  logMessage : Text

/-- What `ganerate_log_message` puts in for a field. -/
def LogRecord.replacement (record : LogRecord) : LogFormat → Text
  | .pgName => record.programName
  -- The name of the program again, and not that of the host.
  | .hostName => record.programName
  | .levelName => record.logLevel.name
  | .pathName => record.filePath
  | .fileName => record.fileName
  | .mdName => record.moduleName
  | .funcName => record.funcName
  | .lineNo => toText record.lineNo
  | .whenCreated => toText record.seconds
  | .relateCreated => toText (record.logInitTime - record.now)
  | .ascTime => record.ascTime
  | .threadId => record.tid
  | .threadName => record.threadName
  | .processId => toText record.pid
  | .logMessage => record.logMessage

/-- `LogMessage::ganerate_log_message` -/
def ganerateLogMessage (attr : LoggerAttr) (record : LogRecord) : Text :=
  LogFormat.all.foldl (fun formatMessage field =>
    if attr.logFormatterSelect field then
      regexReplace formatMessage field.keyword (record.replacement field)
    else formatMessage) (attr.formatter ++ ['\n'])

/-- What a field is to be replaced by. -/
def LogRecord.value (record : LogRecord) : LogFormat → Text
  | .hostName => record.hostname
  | field => record.replacement field

/-- The keywords of the fields. -/
def logMarkup : Markup Char LogFormat where
  mark := '%'
  body field := field.keyword.tail
  unmarked field := by cases field <;> decide
  apart first second := by
    have all : ∀ first ∈ LogFormat.all, ∀ second ∈ LogFormat.all,
        first.keyword.tail <+: second.keyword.tail → first = second := by decide
    exact all first (by cases first <;> decide) second (by cases second <;> decide)
  fields := LogFormat.all
  complete field := by cases field <;> decide

/-- A text in which all keywords are replaced at once. -/
def substituted (value : LogFormat → Text) (text : Text) : Text :=
  logMarkup.render (fun field => some (value field)) (logMarkup.pieces text)

end Lines

section Plain

/-- Whether what follows a dollar makes it a reference. -/
def refers : Text → Bool
  | [] => false
  | c :: _ => c = '$' || c = '&' || c = '\x60' || c = '\x27' || c.isDigit

/-- A text without references. -/
def isPlain : Text → Bool
  | [] => true
  | c :: rest => !(c = '$' && refers rest) && isPlain rest

variable {matched before after fmt word text rest : Text}

/-- A dollar sign that refers to nothing stands for itself. -/
theorem reference_literal (literal : refers rest = false) :
    reference matched before after rest = (['$'], 0) := by
  cases rest with
  | nil => rfl
  | cons c rest =>
    simp only [refers, Bool.or_eq_false_iff, decide_eq_false_iff_not] at literal
    obtain ⟨⟨⟨⟨dollar, and_⟩, back⟩, quote⟩, digit⟩ := literal
    rw [reference, if_neg dollar, if_neg and_, if_neg back, if_neg quote, if_neg (by simp [digit])]

/-- A text without references stands for itself. -/
theorem expandFrom_plain (plain : isPlain fmt = true) :
    expandFrom matched before after 0 fmt = fmt := by
  induction fmt with
  | nil => rfl
  | cons c rest ih =>
    simp only [isPlain, Bool.and_eq_true, Bool.not_eq_true', Bool.and_eq_false_imp,
      decide_eq_true_eq] at plain
    obtain ⟨literal, plain⟩ := plain
    rw [expandFrom]
    by_cases dollar : c = '$'
    · rw [if_pos dollar, reference_literal (literal dollar)]
      dsimp only
      rw [ih plain, dollar, List.singleton_append]
    · rw [if_neg dollar, ih plain]

/-- Nothing is found where nothing begins. -/
theorem find_skip {front : Text} (nothing : ∀ k < front.length, ¬word <+: (front ++ text).drop k) :
    find word (front ++ text) = (find word text).map (· + front.length) := by
  induction front with
  | nil => simp
  | cons c front ih =>
    have here : ¬word <+: c :: (front ++ text) := nothing 0 (by simp)
    have later := ih fun k within => nothing (k + 1) (by simpa using within)
    rw [List.cons_append, find, if_neg here, later, Option.map_map]
    rfl

/-- What stands in front of the first match stays. -/
theorem replaceLoop_skip {front : Text} {steps : Nat} (plain : isPlain fmt = true)
    (nothing : ∀ k < front.length, ¬word <+: (front ++ text).drop k) :
    replaceLoop word fmt steps (front ++ text) = front ++ replaceLoop word fmt steps text := by
  -- The word is found behind the front, wherever it is found at all.
  cases steps with
  | zero => rfl
  | succ steps =>
    rw [replaceLoop, replaceLoop, find_skip nothing]
    cases find word text with
    | none => rfl
    | some pos =>
      dsimp only [Option.map_some]
      have taken : (front ++ text).take (pos + front.length) = front ++ text.take pos := by
        rw [Nat.add_comm, List.take_length_add_append]
      have dropped : (front ++ text).drop (pos + front.length + word.length)
          = text.drop (pos + word.length) := by
        have shift : pos + front.length + word.length = front.length + (pos + word.length) := by
          omega
        rw [shift, List.drop_length_add_append]
      rw [expandFrom_plain plain, expandFrom_plain plain, taken, dropped]
      simp only [List.append_assoc]

/-- A word at the beginning is replaced. -/
theorem replaceLoop_word {steps : Nat} (plain : isPlain fmt = true) :
    replaceLoop word fmt (steps + 1) (word ++ text) = fmt ++ replaceLoop word fmt steps text := by
  rw [replaceLoop, find_append]
  dsimp only
  rw [expandFrom_plain plain, List.take_zero, Nat.zero_add, List.drop_left, List.nil_append]

end Plain

section Substituting

variable {attr : LoggerAttr} {record : LogRecord} {fmt : Text} {field : LogFormat}

/-- The fields in front of one. -/
def LogFormat.earlier (field : LogFormat) : List LogFormat := LogFormat.all.takeWhile (· ≠ field)

/-- The values of some fields, while the others have none yet. -/
def given (value : LogFormat → Text) (done : List LogFormat) (field : LogFormat) : Option Text :=
  if field ∈ done then some (value field) else none

/-- The pieces of a line. -/
def LoggerAttr.pieces (attr : LoggerAttr) : List (Piece Char LogFormat) :=
  logMarkup.pieces (attr.formatter ++ ['\n'])

/--
What is put in for the fields of a format has no references, and makes no keyword of a field that
comes later.
-/
def LogRecord.Clean (attr : LoggerAttr) (record : LogRecord) : Prop :=
  ∀ field : LogFormat, field.keyword <:+: attr.formatter →
    isPlain (record.replacement field) = true ∧
      logMarkup.Clear (given record.replacement field.earlier) field attr.pieces

/-- The markup of a log has the keywords of its fields. -/
theorem logMarkup_keyword (field : LogFormat) : logMarkup.keyword field = field.keyword := by
  cases field <;> rfl

/-- No keyword is empty. -/
theorem LogFormat.keyword_ne_nil (field : LogFormat) : field.keyword ≠ [] := by
  rw [← logMarkup_keyword]
  exact List.cons_ne_nil _ _

/-- Every field is replaced at some time. -/
theorem LogFormat.mem_all (field : LogFormat) : field ∈ LogFormat.all := logMarkup.complete field

/-- In its turn, a field comes behind those in front of it. -/
theorem LogFormat.earlier_eq {done later : List LogFormat}
    (split_ : LogFormat.all = done ++ field :: later) : field.earlier = done := by
  have distinct : LogFormat.all.Nodup := by decide
  rw [split_] at distinct
  have apart : ∀ other ∈ done, other ≠ field := fun other mem same =>
    (List.nodup_append.mp distinct).2.2 other mem field List.mem_cons_self same
  rw [earlier, split_, List.takeWhile_append_of_pos (by simpa using apart),
    List.takeWhile_cons_of_neg (by simp), List.append_nil]

/-- The next field is given its value. -/
theorem given_snoc (value : LogFormat → Text) (done : List LogFormat) (field : LogFormat) :
    given value (done ++ [field])
      = Function.update (given value done) field (some (value field)) := by
  funext other
  by_cases same : other = field
  · rw [same, Function.update_self, given, if_pos (by simp)]
  · rw [Function.update_of_ne same, given, given]
    simp [same]

/-- A field is in the pieces of a line just if its keyword is in the format. -/
theorem hole_mem_pieces_iff : .hole field ∈ attr.pieces ↔ field.keyword <:+: attr.formatter := by
  rw [LoggerAttr.pieces, Markup.hole_mem_pieces_iff, logMarkup_keyword]
  constructor
  · -- No keyword has the end of the line in it.
    intro inLine
    have inside : '\n' ∉ field.keyword := by cases field <;> decide
    refine (List.infix_concat_iff.mp inLine).resolve_left fun atEnd => ?_
    obtain ⟨before, whole, _⟩ := (List.suffix_concat_iff.mp atEnd).resolve_left field.keyword_ne_nil
    exact inside (by rw [whole]; simp)
  · rintro ⟨before, after, whole⟩
    exact ⟨before, after ++ ['\n'], by rw [← List.append_assoc, whole]⟩

/-- Replacing a keyword gives its field a value. -/
theorem replaceLoop_render {value : LogFormat → Option Text}
    {pieces : List (Piece Char LogFormat)} {steps : Nat} (plain : isPlain fmt = true)
    (notYet : value field = none) (clear : logMarkup.Clear value field pieces)
    (enough : (logMarkup.render value pieces).length ≤ steps) :
    replaceLoop field.keyword fmt steps (logMarkup.render value pieces)
      = logMarkup.render (Function.update value field (some fmt)) pieces := by
  induction pieces generalizing steps with
  | nil =>
    cases steps with
    | zero => rfl
    | succ steps =>
      rw [Markup.render, List.flatMap_nil, replaceLoop, find_nil field.keyword_ne_nil]
      rfl
  | cons piece pieces ih =>
    obtain ⟨nothing, clear⟩ := clear
    rw [Markup.render_cons, List.length_append] at enough
    rw [Markup.render_cons, Markup.render_cons]
    -- Either the piece is the next match, or the search passes over it.
    by_cases here : piece = .hole field
    · have isWord : logMarkup.text value piece = field.keyword := by
        rw [here, Markup.text, notYet, ← logMarkup_keyword]
        rfl
      have replaced : logMarkup.text (Function.update value field (some fmt)) piece = fmt := by
        rw [here, Markup.text, Function.update_self]
        rfl
      have positive := List.length_pos_iff.mpr field.keyword_ne_nil
      rw [isWord] at enough ⊢
      obtain ⟨steps, rfl⟩ : ∃ n, steps = n + 1 := ⟨steps - 1, by omega⟩
      rw [replaceLoop_word plain, ih clear (by omega), replaced]
    · have stays : logMarkup.text (Function.update value field (some fmt)) piece
          = logMarkup.text value piece := by
        cases piece with
        | char c => rfl
        | hole other =>
          have differs : other ≠ field := fun same => here (by rw [same])
          rw [Markup.text, Markup.text, Function.update_of_ne differs]
      have nowhere := nothing here
      rw [logMarkup_keyword] at nowhere
      rw [replaceLoop_skip plain nowhere, ih clear (by omega), stays]

/-- One pass of the loop gives the next field its value. -/
theorem ganerate_step (fits : attr.Fits) (clean : record.Clean attr)
    {done later : List LogFormat} (split_ : LogFormat.all = done ++ field :: later) :
    (if attr.logFormatterSelect field then
        regexReplace (logMarkup.render (given record.replacement done) attr.pieces) field.keyword
          (record.replacement field)
      else logMarkup.render (given record.replacement done) attr.pieces)
      = logMarkup.render (given record.replacement (done ++ [field])) attr.pieces := by
  have distinct : LogFormat.all.Nodup := by decide
  have notYet : given record.replacement done field = none := by
    rw [split_] at distinct
    refine if_neg fun mem => ?_
    exact (List.nodup_append.mp distinct).2.2 field mem field List.mem_cons_self rfl
  split
  · next selected =>
    obtain ⟨plain, clear⟩ := clean field ((fits field).mp selected)
    rw [LogFormat.earlier_eq split_] at clear
    rw [regexReplace, replaceLoop_render plain notYet clear le_rfl, given_snoc]
  · next unselected =>
    refine Markup.render_congr fun other mem => ?_
    have differs : other ≠ field := by
      rintro rfl
      exact unselected ((fits other).mpr (hole_mem_pieces_iff.mp mem))
    rw [given_snoc, Function.update_of_ne differs]

/-- The loop puts in what it has for the fields, all at once. -/
theorem ganerateLogMessage_eq (fits : attr.Fits) (clean : record.Clean attr) :
    ganerateLogMessage attr record
      = substituted record.replacement (attr.formatter ++ ['\n']) := by
  -- The fields done so far are filled in, the others are as written.
  have run : ∀ later done, LogFormat.all = done ++ later →
      later.foldl (fun formatMessage field =>
        if attr.logFormatterSelect field then
          regexReplace formatMessage field.keyword (record.replacement field)
        else formatMessage) (logMarkup.render (given record.replacement done) attr.pieces)
      = logMarkup.render (given record.replacement LogFormat.all) attr.pieces := by
    intro later
    induction later with
    | nil =>
      intro done split_
      rw [List.append_nil] at split_
      rw [List.foldl_nil, ← split_]
    | cons field later ih =>
      intro done split_
      rw [List.foldl_cons, ganerate_step fits clean split_]
      exact ih (done ++ [field]) (by rw [split_, List.append_assoc, List.singleton_append])
  have start : logMarkup.render (given record.replacement []) attr.pieces
      = attr.formatter ++ ['\n'] := logMarkup.render_pieces _
  have whole := run LogFormat.all [] rfl
  rw [start] at whole
  rw [ganerateLogMessage, whole, substituted]
  exact Markup.render_congr fun field _ => if_pos field.mem_all

/--
Nothing is in the way of values without references, if each per cent sign of the format begins a
keyword and only the message has one in it.
-/
theorem LogRecord.clean_of_unmarked (literal : .char '%' ∉ attr.pieces)
    (plain : ∀ field : LogFormat, field.keyword <:+: attr.formatter →
      isPlain (record.replacement field) = true)
    (unmarked : ∀ field : LogFormat, field.keyword <:+: attr.formatter → field ≠ .logMessage →
      '%' ∉ record.replacement field) : record.Clean attr := by
  intro field used
  refine ⟨plain field used, Markup.clear_of_unmarked literal fun other mem text there => ?_⟩
  -- The message is the last field, so it has no value before.
  have front : other ∈ field.earlier := by
    by_contra notMem
    rw [given, if_neg notMem] at there
    cases there
  have notMessage : other ≠ .logMessage := by
    rintro rfl
    cases field <;> exact absurd front (by decide)
  rw [given, if_pos front] at there
  cases there
  exact unmarked other (hole_mem_pieces_iff.mp mem) notMessage

/--
A line with nothing in the way is the format with all keywords replaced at once, just if the host
name is not in it or is that of the program.
-/
theorem ganerateLogMessage_eq_iff (attr : LoggerAttr) (record : LogRecord) (fits : attr.Fits)
    (clean : record.Clean attr) :
    ganerateLogMessage attr record = substituted record.value (attr.formatter ++ ['\n']) ↔
      (LogFormat.hostName.keyword <:+: attr.formatter → record.hostname = record.programName) := by
  -- The host is the one field that is filled in with something else.
  have others : ∀ field, field ≠ .hostName → record.replacement field = record.value field := by
    intro field differs
    cases field with
    | hostName => exact absurd rfl differs
    | _ => rfl
  rw [ganerateLogMessage_eq fits clean]
  constructor
  · intro same used
    have inPieces := hole_mem_pieces_iff.mpr used
    have values := Markup.eq_of_render_eq
      (fun field differs => congrArg some (others field differs)) inPieces same
    exact Eq.symm values
  · intro named
    refine Markup.render_congr fun field mem => ?_
    by_cases host : field = .hostName
    · subst host
      exact congrArg some (named (hole_mem_pieces_iff.mp mem)).symm
    · rw [others field host]

/-- A record with a message. -/
def LogRecord.ofMessage (logMessage : Text) : LogRecord where
  programName := "dnfs".toList
  hostname := "node".toList
  logLevel := .lInfo
  filePath := "/src/main.cpp".toList
  fileName := "main.cpp".toList
  moduleName := "nfs".toList
  funcName := "main".toList
  lineNo := 7
  seconds := 0
  logInitTime := 0
  now := 0
  ascTime := []
  tid := "1".toList
  threadName := "%(message)".toList
  pid := 1
  logMessage := logMessage

/-- The attributes that a format makes. -/
def LoggerAttr.ofFormat (formatter : Text) : LoggerAttr :=
  (LoggerAttr.initLogFormatter { formatter := formatter }).2

/-- The selection that a format makes fits it. -/
theorem LoggerAttr.ofFormat_fits {formatter : Text} (has : HasField formatter) :
    (LoggerAttr.ofFormat formatter).Fits := by
  obtain ⟨select, taken, fits⟩ := LoggerAttr.initLogFormatter_taken { formatter := formatter } has
  rw [ofFormat, taken]
  exact fits

/-- A dollar sign that refers to nothing comes out as it is. -/
theorem ganerateLogMessage_eq_level :
    ganerateLogMessage (.ofFormat "%(levelname): %(message)".toList) (.ofMessage "50%($)".toList)
      = substituted (LogRecord.ofMessage "50%($)".toList).value
        ("%(levelname): %(message)".toList ++ ['\n']) := by
  refine (ganerateLogMessage_eq_iff _ _ (LoggerAttr.ofFormat_fits (by decide)) ?_).mpr
    fun used => absurd used (by decide)
  refine LogRecord.clean_of_unmarked (by decide) (fun field used => ?_) fun field used _ => ?_
  · cases field with
    | levelName => decide
    | logMessage => decide
    | _ => exact absurd used (by decide)
  · cases field with
    | levelName => decide
    | logMessage => contradiction
    | _ => exact absurd used (by decide)

/--
The name of the program stands for that of the host, references in a message are followed, and
what was put in is looked at again.
-/
theorem ganerateLogMessage_eq_fails :
    (∀ formatter ∈ ["%(hostname)".toList, "%(message)".toList, "%(threadName)%(message)".toList],
      (LoggerAttr.ofFormat formatter).Fits) ∧
    (ganerateLogMessage (.ofFormat "%(hostname)".toList) (.ofMessage [])
      = "dnfs\n".toList ∧
      substituted (LogRecord.ofMessage []).value "%(hostname)\n".toList = "node\n".toList) ∧
    (ganerateLogMessage (.ofFormat "%(message)".toList) (.ofMessage "$$5".toList)
      = "$5\n".toList ∧
      substituted (LogRecord.ofMessage "$$5".toList).value "%(message)\n".toList
        = "$$5\n".toList) ∧
    (ganerateLogMessage (.ofFormat "%(threadName)%(message)".toList) (.ofMessage "a".toList)
      = "aa\n".toList ∧
      substituted (LogRecord.ofMessage "a".toList).value "%(threadName)%(message)\n".toList
        = "%(message)a\n".toList) := by
  refine ⟨fun formatter mem => LoggerAttr.ofFormat_fits ?_, by decide⟩
  revert formatter
  decide

end Substituting

end Dnfs
