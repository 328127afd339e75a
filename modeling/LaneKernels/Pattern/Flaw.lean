import LaneKernels.Pattern.Span
import LaneKernels.Text.Pieces

/-!
What is wrong with the text of a pattern, and how it is shown.

* A `Flaw` is the kind of trouble, with its text (`Flaw.message`).
* A `Finding` is a flaw at its span, sometimes with an earlier span that it conflicts with.
  `Finding.render` copies the pattern with carets under the spans (`caretLine`). A pattern of several lines
  is framed and has line numbers, and a span of several lines is described in words.
-/

namespace LaneKernels.Pattern

/-- The kinds of trouble with a pattern. -/
inductive Flaw where
  | classEscapeInvalid
  | classRangeInvalid
  | classRangeLiteral
  | classUnclosed
  | decimalInvalid
  | hexEmpty
  | hexInvalid
  | hexDigitInvalid
  | escapeUnfinished
  | escapeUnknown
  | flagNegationDangling
  | flagRepeated
  | flagNegationRepeated
  | flagUnfinished
  | flagUnknown
  | groupNameRepeated
  | groupNameEmpty
  | groupNameInvalid
  | groupNameUnfinished
  | groupUnclosed
  | groupUnopened
  | nestedTooDeep (limit : Nat)
  | countRangeInvalid
  | countEmpty
  | countUnclosed
  | repetitionMissing
  | boundaryUnclosed
  | boundaryUnknown
  | boundaryUnfinished
  | propertyInvalid
  | backReference
  | lookAround
  | unicodeNotAllowed
  | invalidBytes
  | propertyNotFound
  | propertyValueNotFound
  | shorthandUnavailable
  | caseUnavailable
  deriving DecidableEq, Repr

/-- The text of a flaw. -/
def Flaw.message : Flaw → String
  | classEscapeInvalid => "invalid escape sequence found in character class"
  | classRangeInvalid => "invalid character class range, the start must be <= the end"
  | classRangeLiteral => "invalid range boundary, must be a literal"
  | classUnclosed => "unclosed character class"
  | decimalInvalid => "decimal literal invalid"
  | hexEmpty => "hexadecimal literal empty"
  | hexInvalid => "hexadecimal literal is not a Unicode scalar value"
  | hexDigitInvalid => "invalid hexadecimal digit"
  | escapeUnfinished => "incomplete escape sequence, reached end of pattern prematurely"
  | escapeUnknown => "unrecognized escape sequence"
  | flagNegationDangling => "dangling flag negation operator"
  | flagRepeated => "duplicate flag"
  | flagNegationRepeated => "flag negation operator repeated"
  | flagUnfinished => "expected flag but got end of regex"
  | flagUnknown => "unrecognized flag"
  | groupNameRepeated => "duplicate capture group name"
  | groupNameEmpty => "empty capture group name"
  | groupNameInvalid => "invalid capture group character"
  | groupNameUnfinished => "unclosed capture group name"
  | groupUnclosed => "unclosed group"
  | groupUnopened => "unopened group"
  | nestedTooDeep limit => s!"exceed the maximum number of nested parentheses/brackets ({limit})"
  | countRangeInvalid => "invalid repetition count range, the start must be <= the end"
  | countEmpty => "repetition quantifier expects a valid decimal"
  | countUnclosed => "unclosed counted repetition"
  | repetitionMissing => "repetition operator missing expression"
  | boundaryUnclosed =>
    "special word boundary assertion is either unclosed or contains an invalid character"
  | boundaryUnknown =>
    "unrecognized special word boundary assertion, valid choices are: start, end, start-half or end-half"
  | boundaryUnfinished =>
    "found either the beginning of a special word boundary or a bounded repetition on a \\b with an opening brace, but no closing brace"
  | propertyInvalid => "invalid Unicode character class"
  | backReference => "backreferences are not supported"
  | lookAround => "look-around, including look-ahead and look-behind, is not supported"
  | unicodeNotAllowed => "Unicode not allowed here"
  | invalidBytes => "pattern can match invalid UTF-8"
  | propertyNotFound => "Unicode property not found"
  | propertyValueNotFound => "Unicode property value not found"
  | shorthandUnavailable =>
    "Unicode-aware Perl class not found (make sure the unicode-perl feature is enabled)"
  | caseUnavailable =>
    "Unicode-aware case insensitivity matching is not available (make sure the unicode-case feature is enabled)"

/-- A flaw in its place. -/
structure Finding where
  flaw : Flaw
  span : Span
  /-- An earlier place that the flaw conflicts with. -/
  other : Option Span
  deriving DecidableEq, Repr

namespace Finding

/-- The spans of a finding, the earlier one first. -/
def spans (finding : Finding) : List Span :=
  match finding.other with
  | none => [finding.span]
  | some other =>
    if other.isBefore finding.span then [other, finding.span] else [finding.span, other]

/-- Some copies of a character. -/
def copies (count : Nat) (c : Char) : String :=
  String.ofList (List.replicate count c)

/-- Carets under spans of one line, from a column on. -/
def carets : Nat → List Span → String
  | _, [] => ""
  | column, span :: rest =>
    let width := max 1 (span.stop.column - span.start.column)
    let gap := span.start.column - column
    copies gap ' ' ++ copies width '^' ++ carets (column + gap + width) rest

/-- The line with carets for a line of the pattern, if a span lies in it. -/
def caretLine (margin line : Nat) (spans : List Span) : List String :=
  match spans.filter fun span => span.isOneLine && span.start.line = line with
  | [] => []
  | here => [copies margin ' ' ++ carets 1 here]

/-- A number with blanks before it. -/
def padded (width number : Nat) : String :=
  let digits := toString number
  copies (width - digits.length) ' ' ++ digits

/-- The lines of a pattern, each behind a margin and with carets under its spans. -/
def notated (numberWidth : Nat) (spans : List Span) (lines : List String) : List String :=
  lines.zipIdx.flatMap fun (line, index) =>
    if numberWidth = 0 then (copies 4 ' ' ++ line) :: caretLine 4 (index + 1) spans
    else s!"{padded numberWidth (index + 1)}: {line}" :: caretLine (numberWidth + 2) (index + 1) spans

/-- What is said about a span of several lines. -/
def spanInWords (span : Span) : String :=
  s!"on line {span.start.line} (column {span.start.column}) through line {span.stop.line} (column {span.stop.column - 1})"

/-- How wide the line numbers of a pattern are; a single line has none. -/
def numberWidth (pattern : String) (lines : List String) : Nat :=
  let count := lines.length + if pattern.endsWith "\n" then 1 else 0
  if count ≤ 1 then 0 else (toString count).length

/-- Shows a finding in its pattern. -/
def render (finding : Finding) (pattern : String) : String :=
  let lines := (Text.lines pattern.toList).map String.ofList
  let body := notated (numberWidth pattern lines) finding.spans lines
  let framed :=
    if pattern.toList.contains '\n' then
      let frame := copies 79 '~'
      [frame] ++ body ++ [frame] ++ (finding.spans.filter (!·.isOneLine)).map spanInWords
    else body
  "\n".intercalate (["regex parse error:"] ++ framed ++ [s!"error: {finding.flaw.message}"])

end Finding

end LaneKernels.Pattern
