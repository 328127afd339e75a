import LaneKernels.Pattern.Scan
import LaneKernels.Text.Letter

/-!
Escape sequences: a backslash and what belongs to it.

Signs stand for themselves, some letters for control characters, and others for a class, a place in the
text, a code point in hexadecimal digits, or a property. Digits would refer back to a group, which no
pattern can. What an escape sequence stands for is a `Tree` without parts.
-/

namespace LaneKernels.Pattern

open Parsing

/-! ### Hexadecimal digits -/

/-- Whether a character is a hexadecimal digit. -/
def isHexDigit (c : Char) : Bool :=
  ('0' ≤ c && c ≤ '9') || ('a' ≤ c && c ≤ 'f') || ('A' ≤ c && c ≤ 'F')

/-- The value of a hexadecimal digit. -/
def hexValue (c : Char) : Nat :=
  if '0' ≤ c && c ≤ '9' then c.toNat - 0x30
  else if 'a' ≤ c && c ≤ 'f' then c.toNat - 0x61 + 10
  else c.toNat - 0x41 + 10

/-- The number that hexadecimal digits stand for. -/
def hexNumber (digits : List Char) : Nat :=
  digits.foldl (fun value c => 16 * value + hexValue c) 0

/-- The character of a code point. -/
def scalar? (code : Nat) : Option Char :=
  if h : code.isValidChar then some (Char.ofNatAux code h) else none

/-- The character that hexadecimal digits stand for. -/
def hexScalar (digits : List Char) (span : Span) : Parsing Char :=
  match scalar? (hexNumber digits) with
  | some c => pure c
  | none => fail .hexInvalid span

/-- Reads so many hexadecimal digits; the first one is next. -/
def hexDigits : Nat → Parsing (List Char)
  | 0 => return []
  | count + 1 => do
    match ← current? with
    | none => fail .escapeUnfinished (← spanHere)
    | some c =>
      if isHexDigit c then
        let _ ← bumpSpace
        return c :: (← hexDigits count)
      else fail .hexDigitInvalid (← spanNext)

/-- Reads the code point of a fixed number of digits. -/
def fixedHex (start : Position) (count : Nat) : Parsing Literal := do
  let first ← here
  let digits ← hexDigits count
  let c ← hexScalar digits (← since first)
  return ⟨← since start, c, count = 2⟩

/-- Reads the code point of the digits between braces. -/
def bracedHex (start : Position) : Parsing Literal := do
  let brace ← here
  let first := (← spanNext).stop
  let _ ← bumpSpace
  let digits ← gather isHexDigit
  match ← current? with
  | none => fail .escapeUnfinished (← since brace)
  | some '\x7d' =>
    let stop ← here
    let _ ← bumpSpace
    if digits.isEmpty then
      fail .hexEmpty (← since brace)
    let c ← hexScalar digits ⟨first, stop⟩
    return ⟨← since start, c, false⟩
  | some _ => fail .hexDigitInvalid (← spanNext)

/-- Reads a code point in hexadecimal digits; the letter, which says how many there are, is next. -/
def hexEscape (start : Position) (count : Nat) : Parsing Literal := do
  let more ← bumpSpace
  if !more then
    fail .escapeUnfinished (← spanHere)
  if (← current?) = some '\x7b' then bracedHex start
  else fixedHex start count

/-! ### Properties and places -/

/-- Reads the name of a property; the letter before it is next. -/
def propertyEscape (start : Position) : Parsing Tree := do
  let more ← bumpSpace
  if !more then
    fail .escapeUnfinished (← spanHere)
  match ← current? with
  | some '\x7b' =>
    let _ ← bumpSpace
    let name ← gather (· ≠ '\x7d')
    if !(← hasMore) then
      fail .escapeUnfinished (← spanHere)
    let _ ← bump
    return .property (← since start) (String.ofList name)
  | some '\\' => fail .propertyInvalid (← spanNext)
  | next =>
    let _ ← bumpSpace
    return .property (← since start) (String.ofList next.toList)

/-- Whether a character can stand in the name of a word boundary. -/
def isEdgeChar (c : Char) : Bool :=
  c.isAlpha || c = '-'

/-- The word boundary of a name. -/
def edgeNamed? : String → Option WordEdge
  | "start" => some .start
  | "end" => some .stop
  | "start-half" => some .startHalf
  | "end-half" => some .stopHalf
  | _ => none

/-- Reads the name of a word boundary between braces, if there is one; otherwise nothing is read. -/
def edgeName? (start : Position) : Parsing (Option WordEdge) := do
  if (← current?) ≠ some '\x7b' then return none
  let before ← get
  let more ← bumpSpace
  if !more then
    fail .boundaryUnfinished (← since start)
  let first ← here
  let name ← gather isEdgeChar
  if name.isEmpty then
    set before
    return none
  if (← current?) ≠ some '\x7d' then
    fail .boundaryUnclosed (← since before.position)
  let stop ← here
  let _ ← bump
  match edgeNamed? (String.ofList name) with
  | some edge => return some edge
  | none => fail .boundaryUnknown ⟨first, stop⟩

/-! ### Letters and signs -/

/-- The control character that a letter stands for. -/
def controlOf? : Char → Option Char
  | 'a' => some '\x07'
  | 'f' => some '\x0c'
  | 't' => some '\t'
  | 'n' => some '\n'
  | 'r' => some '\r'
  | 'v' => some '\x0b'
  | _ => none

/-- The class that a letter stands for; a capital letter stands for its complement. -/
def shorthandOf? : Char → Option (Shorthand × Bool)
  | 'd' => some (.digit, false)
  | 'D' => some (.digit, true)
  | 's' => some (.space, false)
  | 'S' => some (.space, true)
  | 'w' => some (.word, false)
  | 'W' => some (.word, true)
  | _ => none

/-- The number of hexadecimal digits behind a letter. -/
def hexCountOf? : Char → Option Nat
  | 'x' => some 2
  | 'u' => some 4
  | 'U' => some 8
  | _ => none

/-- The place in a text that a letter or a sign stands for. -/
def assertionOf? : Char → Option Assertion
  | 'A' => some .textStart
  | 'z' => some .textEnd
  | 'b' => some (.word .boundary)
  | 'B' => some (.word .noBoundary)
  | '<' => some (.word .start)
  | '>' => some (.word .stop)
  | _ => none

/-- Whether a character behind a backslash stands for itself: a seven-bit one with no other meaning. -/
def isPlainEscape (c : Char) : Bool :=
  c.toNat < 0x80 && !c.isAlphanum && c ≠ '<' && c ≠ '>'

/-- Reads what a character behind a backslash stands for, with nothing behind it. -/
def simpleEscape (start : Position) (c : Char) : Parsing Tree := do
  let _ ← bump
  let span ← since start
  match assertionOf? c with
  | some (.word .boundary) =>
    match ← edgeName? start with
    | some edge => return .assertion (← since start) (.word edge)
    | none => return .assertion span (.word .boundary)
  | some assertion => return .assertion span assertion
  | none =>
    if isPlainEscape c then return .literal ⟨span, c, false⟩
    match controlOf? c with
    | some control => return .literal ⟨span, control, false⟩
    | none => fail .escapeUnknown span

/-- Reads an escape sequence; the backslash is next. -/
def escape : Parsing Tree := do
  let start ← here
  let _ ← bump
  match ← current? with
  | none => fail .escapeUnfinished (← since start)
  | some c =>
    if c.isDigit then
      fail .backReference ⟨start, (← spanNext).stop⟩
    if c = 'p' || c = 'P' then
      return ← propertyEscape start
    if let some count := hexCountOf? c then
      return .literal (← hexEscape start count)
    if let some (kind, negated) := shorthandOf? c then
      let _ ← bump
      return .shorthand (← since start) kind negated
    simpleEscape start c

end LaneKernels.Pattern
