/-!
Text for a stream that is no terminal: `plain` drops control sequences and control characters and keeps
all else, white space included.

* A `Sequence` is the part of a control sequence that was read so far, and `Sequence.next` goes on by one
  character. Some sequences show the line breaks and tabs inside them (`Sequence.showsSpace`).
* Such a line break or tab suspends its sequence: what follows is plain text up to the next control
  character, where the sequence goes on, unless a character beyond the seven-bit ones ended it before
  (`Reading`).
-/

namespace LaneKernels.Text

/-- Whether a character is white space of seven bits. -/
def isSpace (c : Char) : Bool :=
  c = ' ' || c = '\t' || c = '\n' || c = '\x0c' || c = '\r'

/-- Whether a character is a control character of seven bits. -/
def isControl (c : Char) : Bool :=
  c.toNat < 0x20 || c.toNat = 0x7F

/-- Whether a character has seven bits. -/
def isSevenBit (c : Char) : Bool :=
  c.toNat < 0x80

/-- Whether a character of plain text is kept. -/
def isShown (c : Char) : Bool :=
  !isControl c || isSpace c

/-- The character that starts a control sequence. -/
def escapeChar : Char :=
  '\x1b'

/-- Whether a character cancels a control sequence. -/
def cancels (c : Char) : Bool :=
  c = '\x18' || c = '\x1a'

/-- What was read of a control sequence. -/
inductive Sequence where
  /-- The escape character. -/
  | escape
  /-- The escape character and signs. -/
  | signs
  /-- The opening of a sequence with parameters. -/
  | parameters
  /-- The opening of a command for the operating system. -/
  | command
  /-- The opening of a device control string. -/
  | device
  /-- A device control string with parameters. -/
  | deviceParameters
  /-- A device control string with signs. -/
  | deviceSigns
  /-- A string that lasts until it is terminated. -/
  | string
  deriving DecidableEq, Repr

namespace Sequence

/-- Whether line breaks and tabs inside the sequence are shown. -/
def showsSpace : Sequence → Bool
  | escape | signs | parameters => true
  | _ => false

/-- The sequence that the character behind an escape character opens; any other is complete with it. -/
def opened (c : Char) : Option Sequence :=
  if c = '[' then some parameters
  else if c = ']' then some command
  else if c = 'P' then some device
  else if c = 'X' || c = '^' || c = '_' then some string
  else if c.toNat < 0x30 then some signs
  else none

/-- The sequence behind a printable character of seven bits; none when it is complete. -/
def nextPrintable (sequence : Sequence) (c : Char) : Option Sequence :=
  match sequence with
  | escape => opened c
  | signs => if c.toNat < 0x30 then some signs else none
  | parameters => if c.toNat < 0x40 then some parameters else none
  | command => some command
  | device =>
    if c.toNat < 0x30 then some deviceSigns
    else if c.toNat < 0x40 then some deviceParameters
    else some string
  | deviceParameters =>
    if c.toNat < 0x30 then some deviceSigns
    else if c.toNat < 0x3C then some deviceParameters
    else some string
  | deviceSigns => if c.toNat < 0x30 then some deviceSigns else some string
  | string => some string

/-- Whether a character beyond seven bits terminates a string: one of its bytes is the terminator. -/
def terminates (c : Char) : Bool :=
  (String.utf8EncodeChar c).contains 0x9C

/-- The sequence behind a character; none when it is complete. -/
def next (sequence : Sequence) (c : Char) : Option Sequence :=
  if c = escapeChar then some escape
  else if cancels c then none
  else if sequence = command && c = '\x07' then none
  else if isControl c then some sequence
  else if isSevenBit c then sequence.nextPrintable c
  else if sequence = string && terminates c then none
  else some sequence

end Sequence

/-- How a text is read at some place. -/
inductive Reading where
  /-- As plain text. -/
  | ground
  /-- As part of a control sequence. -/
  | inside (sequence : Sequence)
  /-- As plain text that interrupts a control sequence. -/
  | suspended (sequence : Sequence)
  deriving DecidableEq, Repr

namespace Reading

/-- The reading behind a character of a sequence. -/
def ofSequence? : Option Sequence → Reading
  | some sequence => inside sequence
  | none => ground

/-- The reading behind a character, and whether the character is kept. -/
def next (reading : Reading) (c : Char) : Reading × Bool :=
  match reading with
  | ground => if c = escapeChar then (inside .escape, false) else (ground, isShown c)
  | inside sequence =>
    if isControl c && isSpace c && sequence.showsSpace then (suspended sequence, true)
    else (ofSequence? (sequence.next c), false)
  | suspended sequence =>
    if isShown c then (if isSevenBit c then suspended sequence else ground, true)
    else (ofSequence? (sequence.next c), false)

end Reading

/-- The characters of a text that are kept, read in some way. -/
def plainFrom : Reading → List Char → List Char
  | _, [] => []
  | reading, c :: rest =>
    match reading.next c with
    | (reading, true) => c :: plainFrom reading rest
    | (reading, false) => plainFrom reading rest

/-- The text without control sequences and control characters. -/
def plain (text : String) : String :=
  String.ofList (plainFrom .ground text.toList)

end LaneKernels.Text
