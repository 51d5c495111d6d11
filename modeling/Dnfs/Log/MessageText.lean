import Dnfs.Log.Strings

/-! How much of a formatted text is kept in the buffer of a message. -/

namespace Dnfs

section Buffers

/-- Memory that was allocated, with what was written from its beginning on. -/
structure MessageBuffer where
  size : Nat
  cells : Text
  deriving DecidableEq, Repr

/-- The size of the first buffer, `INIT_MESSAGE_BUFFER`. -/
def initMessageBuffer : Nat := 1024

/-- The size of the largest buffer, `MAX_BUFFER`. -/
def maxBuffer : Nat := 65536

/-- Which memory can be allocated, and what it holds where nothing was written. -/
structure Allocator where
  succeeds : Nat → Bool
  fresh : Nat → Char

namespace MessageBuffer

/-- `calloc` -/
def calloc (size : Nat) : MessageBuffer := ⟨size, List.replicate size '\x00'⟩

/-- `realloc`, which keeps the beginning of what was written. -/
def realloc (alloc : Allocator) (size : Nat) (buffer : MessageBuffer) : MessageBuffer :=
  ⟨size, buffer.cells.take size
    ++ (List.range (size - buffer.cells.length)).map alloc.fresh⟩

/-- `vsnprintf` for a format and arguments that make some text. -/
def vsnprintf (text : Text) (limit : Nat) (buffer : MessageBuffer) : Nat × MessageBuffer :=
  let written := if limit = 0 then [] else text.take (limit - 1) ++ ['\x00']
  (text.length, { buffer with cells := written ++ buffer.cells.drop written.length })

/-- The string at the beginning of a buffer. -/
def cString (buffer : MessageBuffer) : Text := buffer.cells.takeWhile (· ≠ '\x00')

end MessageBuffer

open MessageBuffer in
/-- The buffer that the constructor of `LogMessage` keeps. -/
def formatMessage (alloc : Allocator) (text : Text) : MessageBuffer :=
  let (messageLen, buffer) := (calloc initMessageBuffer).vsnprintf text initMessageBuffer
  if initMessageBuffer ≤ messageLen then
    -- The end of the text is not counted in, here and in the limit of the second pass.
    let size := if messageLen < maxBuffer then messageLen else maxBuffer
    if alloc.succeeds size then ((buffer.realloc alloc size).vsnprintf text size).2
    else buffer
  else buffer

end Buffers

section Keeping

open MessageBuffer

variable (alloc : Allocator)

/-- The text is kept up to the limit, and ends within the memory that was allocated. -/
structure KeepsText (text : Text) (buffer : MessageBuffer) : Prop where
  whole : text.length < maxBuffer → buffer.cString = text
  cut : maxBuffer ≤ text.length → buffer.cString = text.take (maxBuffer - 1)
  /-- Nothing was written behind the end. -/
  within : buffer.cells.length = buffer.size
  ended : '\x00' ∈ buffer.cells

variable {text : Text} {limit : Nat}

/-- The buffer has the size it is given. -/
theorem length_realloc (size : Nat) (buffer : MessageBuffer) :
    (buffer.realloc alloc size).cells.length = size := by
  simp only [realloc, List.length_append, List.length_take, List.length_map, List.length_range]
  omega

/-- What is written within the limit and the memory is a string of the text. -/
theorem vsnprintf_spec (buffer : MessageBuffer) (noNul : '\x00' ∉ text) (positive : 0 < limit)
    (fits : limit ≤ buffer.cells.length) :
    (vsnprintf text limit buffer).2.cString = text.take (limit - 1) ∧
      (vsnprintf text limit buffer).2.cells.length = buffer.cells.length ∧
      '\x00' ∈ (vsnprintf text limit buffer).2.cells := by
  rw [vsnprintf, if_neg (by omega)]
  refine ⟨?_, ?_, by simp⟩
  · -- The zero stops the string, and there is none in the text.
    have clean : ∀ c ∈ text.take (limit - 1), decide (c ≠ '\x00') = true := by
      intro c mem
      rw [decide_eq_true_eq]
      rintro rfl
      exact noNul (List.mem_of_mem_take mem)
    rw [cString]
    dsimp only
    rw [List.append_assoc, List.takeWhile_append_of_pos clean, List.singleton_append,
      List.takeWhile_cons_of_neg (by simp), List.append_nil]
  · simp only [List.length_append, List.length_drop, List.length_take, List.length_singleton]
    omega

/-- How many characters are kept of a text. -/
def keptLength (length : Nat) : Nat :=
  if length < initMessageBuffer then initMessageBuffer - 1
  else if alloc.succeeds (min length maxBuffer) then min length maxBuffer - 1
  else initMessageBuffer - 1

/-- Whatever is kept is a string within the memory that was allocated. -/
theorem formatMessage_spec (noNul : '\x00' ∉ text) :
    (formatMessage alloc text).cString = text.take (keptLength alloc text.length) ∧
      (formatMessage alloc text).cells.length = (formatMessage alloc text).size ∧
      '\x00' ∈ (formatMessage alloc text).cells := by
  have positive : 0 < initMessageBuffer := by decide
  obtain ⟨string, length, ended⟩ := vsnprintf_spec (calloc initMessageBuffer) noNul
    positive (by rw [calloc, List.length_replicate])
  rw [calloc, List.length_replicate] at length
  have size : (if text.length < maxBuffer then text.length else maxBuffer)
      = min text.length maxBuffer := by
    split <;> omega
  rw [formatMessage, keptLength]
  dsimp only
  rw [show (vsnprintf text initMessageBuffer (calloc initMessageBuffer)).1 = text.length from rfl,
    size]
  by_cases short : text.length < initMessageBuffer
  · rw [if_neg (by omega), if_pos short]
    exact ⟨string, length, ended⟩
  · rw [if_pos (by omega), if_neg short]
    split
    · -- The second pass writes as much as there is memory for.
      have fits := length_realloc alloc (min text.length maxBuffer)
        (vsnprintf text initMessageBuffer (calloc initMessageBuffer)).2
      obtain ⟨string', length', ended'⟩ := vsnprintf_spec _ noNul
        (by have large : 0 < maxBuffer := by decide
            omega) fits.ge
      exact ⟨string', length'.trans fits, ended'⟩
    · exact ⟨string, length, ended⟩

/--
The text is kept just if it fits into the first buffer, or if it is over the limit and there is
memory for the largest buffer.
-/
theorem formatMessage_keepsText_iff (alloc : Allocator) (text : Text) (noNul : '\x00' ∉ text) :
    KeepsText text (formatMessage alloc text) ↔
      text.length < initMessageBuffer ∨
        maxBuffer ≤ text.length ∧ alloc.succeeds maxBuffer = true := by
  obtain ⟨string, within, ended⟩ := formatMessage_spec alloc noNul
  have order : initMessageBuffer = 1024 ∧ maxBuffer = 65536 := ⟨rfl, rfl⟩
  -- In both cases the text is kept as far as one character in front of the limit.
  have kept : KeepsText text (formatMessage alloc text) ↔
      text.take (keptLength alloc text.length) = text.take (maxBuffer - 1) := by
    rw [← string]
    constructor
    · intro keeps
      by_cases small : text.length < maxBuffer
      · rw [keeps.whole small, List.take_of_length_le (by omega)]
      · exact keeps.cut (by omega)
    · intro same
      refine ⟨fun small => ?_, fun _ => same, within, ended⟩
      rw [same, List.take_of_length_le (by omega)]
  rw [kept, List.take_eq_take_iff, keptLength]
  by_cases short : text.length < initMessageBuffer
  · rw [if_pos short]
    exact iff_of_true (by omega) (.inl short)
  · rw [if_neg short, or_iff_right short]
    by_cases long : maxBuffer ≤ text.length
    · rw [Nat.min_eq_right long]
      cases alloc.succeeds maxBuffer with
      | true => exact iff_of_true rfl ⟨long, rfl⟩
      | false => exact iff_of_false (by simp only [Bool.false_eq_true, if_false]; omega) nofun
    · -- One character of the text is missing, or more if there was no memory.
      refine iff_of_false ?_ fun both => long both.1
      split <;> omega

/-- A text that fits into the first buffer. -/
theorem formatMessage_keepsText_short :
    KeepsText "ready".toList (formatMessage ⟨fun _ => true, fun _ => '?'⟩ "ready".toList) :=
  (formatMessage_keepsText_iff _ _ (by decide)).mpr (.inl (by decide))

/-- Of a text as long as the first buffer, the last character is lost. -/
theorem formatMessage_keepsText_fails :
    (formatMessage ⟨fun _ => true, fun _ => '?'⟩ (List.replicate 1024 'x')).cString
        = List.replicate 1023 'x' ∧
      ¬KeepsText (List.replicate 1024 'x')
        (formatMessage ⟨fun _ => true, fun _ => '?'⟩ (List.replicate 1024 'x')) := by
  have noNul : '\x00' ∉ List.replicate 1024 'x' := by
    rw [List.mem_replicate]
    decide
  obtain ⟨string, _, _⟩ := formatMessage_spec ⟨fun _ => true, fun _ => '?'⟩ noNul
  rw [List.length_replicate, List.take_replicate] at string
  have kept : (formatMessage ⟨fun _ => true, fun _ => '?'⟩ (List.replicate 1024 'x')).cString
      = List.replicate 1023 'x' := string
  refine ⟨kept, fun keeps => ?_⟩
  have whole := keeps.whole (by rw [List.length_replicate]; decide)
  have lengths := congrArg List.length (kept.symm.trans whole)
  rw [List.length_replicate, List.length_replicate] at lengths
  omega

end Keeping

end Dnfs
