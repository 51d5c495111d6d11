import Dnfs.Log.Strings

/-! The number that the next cut-off log file gets, which is found by searching the file names. -/

namespace Dnfs

/-- Why the logger throws its own exception, with what it puts into the text. -/
inductive LogReason where
  /-- There have to be three parameters behind the directory. -/
  | threeParameters (args : Text)
  | savedLogs (arg : Text)
  | sizeNumber (arg : Text)
  /-- Files must be cut off below 4 GB. -/
  | sizeTooLarge (size : UInt32)
  | sizeUnit (arg : Text)
  | timeUnit (arg : Text)
  | sizeOrTime (arg : Text)
  | directoryName (dir : Text)
  | directoryPermission (dir : Text)
  | noPath (moduleName level : Text)
  | createFailed (path moduleName level : Text)
  | filePermission (path level moduleName : Text)
  | openFailed (path level moduleName : Text)
  /-- The same file was to be cut off in two ways. -/
  | cuttingConflict (moduleName path : Text)
  | moduleMissing (moduleName : Text)
  deriving DecidableEq, Repr

/-- What comes out of a function that throws. -/
inductive Thrown where
  | logException (reason : LogReason)
  | utilException (path : Text)
  | std (exception : StdException)
  | filesystemError
  | regexError
  deriving DecidableEq, Repr

section Searching

/-- Characters that are operators of a regular expression, apart from the dot. -/
def isOperator (c : Char) : Bool :=
  c ∈ ['^', '$', '\\', '*', '+', '?', '(', ')', '[', ']', '\x7b', '\x7d', '|']

/-- Whether a character of a pattern matches one, where a dot matches any within a line. -/
def accepts (p c : Char) : Bool := if p = '.' then c ≠ '\n' && c ≠ '\r' else p = c

/-- What is left of a text whose beginning matches the characters of a pattern. -/
def matchChars : Text → Text → Option Text
  | [], text => some text
  | _ :: _, [] => none
  | p :: ps, c :: rest => if accepts p c then matchChars ps rest else none

/-- A match of a name, any character and a number at the beginning, and what is left behind it. -/
def matchHere (name text : Text) : Option (Text × Text) :=
  match matchChars (name ++ ['.']) text with
  | none => none
  | some rest =>
    let digits := rest.takeWhile Char.isDigit
    if digits = [] then none
    else some (text.take (name.length + 1 + digits.length), rest.dropWhile Char.isDigit)

/-- `std::regex_search` for a name that has no operators, followed by `.\d+`. -/
def searchNumber (name : Text) : Text → Option (Text × Text)
  | [] => none
  | c :: rest =>
    match matchHere name (c :: rest) with
    | some found => some found
    | none => searchNumber name rest

end Searching

section Numbers

/-- The value of a digit in a base up to 36. -/
def digitValue (c : Char) : Option Nat :=
  if c.isDigit then some (c.toNat - 48)
  else if c.isLower then some (c.toNat - 87)
  else if c.isUpper then some (c.toNat - 55)
  else none

/-- Whether a character is a digit in a base. -/
def isDigitOf (base : Nat) (c : Char) : Bool := (digitValue c).any (· < base)

/-- The base that a number announces, and its digits. -/
def takeBase : Text → Nat × Text
  | '0' :: x :: d :: rest =>
    if (x = 'x' || x = 'X') && isDigitOf 16 d then (16, d :: rest) else (8, '0' :: x :: d :: rest)
  | '0' :: rest => (8, '0' :: rest)
  | text => (10, text)

/-- `strtol` with the base left open, which stays within 64 bits. -/
def strtol (text : Text) : Int :=
  let (negative, rest) := takeSign (text.dropWhile isSpace)
  let (base, digits) := takeBase rest
  let value := (digits.takeWhile (isDigitOf base)).foldl
    (fun value c => base * value + (digitValue c).getD 0) 0
  if negative then max (-(value : Int)) (-2 ^ 63) else min (value : Int) (2 ^ 63 - 1)

/-- A number in decimal digits. -/
def natText (n : Nat) : Text :=
  if n = 0 then ['0'] else (Nat.digits 10 n).reverse.map fun d => Char.ofNat (48 + d)

/-- `std::to_string` -/
def toText (n : Int) : Text := if n < 0 then '-' :: natText n.natAbs else natText n.natAbs

/-- The successor of a long integer. -/
def nextLong (n : Int) : Int := Int.bmod (n + 1) (2 ^ 64)

end Numbers

/-- The number behind a name, as it is cut out of a match. -/
def readNumber (name found : Text) : Int :=
  strtol ((splitStr found (name ++ ['.'])).headD [])

/-- The greatest number behind a name in a text, from some number on. -/
def greatestNumber (name : Text) : Nat → Int → Text → Int
  | 0, fileNumber, _ => fileNumber
  | steps + 1, fileNumber, text =>
    match searchNumber name text with
    | none => fileNumber
    | some (found, rest) =>
      let nowNumber := readNumber name found
      greatestNumber name steps (if nowNumber > fileNumber then nowNumber else fileNumber) rest

/-- `LogFile::get_dir_file`, which joins the names of all regular files. -/
def getDirFile (files : Option (List Text)) : Text := (files.getD []).flatMap (':' :: ·)

/--
`LogFile::get_file_number`.

The name becomes a part of a regular expression as it is. What that means for a name with operators
is left open here.
-/
def getFileNumber (operators : Text → Text → Except Thrown Text) (files : Option (List Text))
    (name : Text) : Except Thrown Text :=
  let fileStr := getDirFile files
  if fileStr = [] then .ok ['1']
  else if name.any isOperator then operators name fileStr
  else .ok (toText (nextLong (greatestNumber name fileStr.length 0 fileStr)))

end Dnfs
