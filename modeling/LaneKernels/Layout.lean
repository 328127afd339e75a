import LaneKernels.Fault
import LaneKernels.Region

/-!
Laying out indented lines of source text.

* A `Line` is a text or a region marker at a level; it is written with four blanks per level before it,
  and an empty text with none.
* A `Buffer` holds the lines written so far and the level of the next one.
* A `Step` writes to a buffer; `indent` and `block` hold the steps of a body one level deeper.
* `Step.run` runs a step. Leaving the outermost level is a crash, which abandons the steps that follow
  and leaves the buffer as it is.
-/

namespace LaneKernels.Layout

/-- A line, with the level at which it is written. -/
inductive Line where
  | text (level : Nat) (content : String)
  | marker (level : Nat) (marker : Region.Marker)
  deriving DecidableEq, Repr

/-- The blanks before a line at a level. -/
def margin (level : Nat) : String :=
  String.ofList (List.replicate (4 * level) ' ')

/-- The line as it is written; an empty text has no margin. -/
def Line.written : Line → String
  | text level content => if content.isEmpty then content else margin level ++ content
  | marker level m => margin level ++ m.text

/-- Lines, and the level at which the next line is written. -/
structure Buffer where
  level : Nat
  lines : Array Line
  deriving Repr

namespace Buffer

/-- The buffer without lines, at the outermost level. -/
def empty : Buffer :=
  ⟨0, #[]⟩

/-- The buffer with one line of text more. -/
def add (buffer : Buffer) (text : String) : Buffer :=
  { buffer with lines := buffer.lines.push (.text buffer.level text) }

/-- The buffer with one region marker more. -/
def mark (buffer : Buffer) (marker : Region.Marker) : Buffer :=
  { buffer with lines := buffer.lines.push (.marker buffer.level marker) }

/-- The lines as they are written. -/
def writtenLines (buffer : Buffer) : List String :=
  buffer.lines.toList.map Line.written

/-- The written lines, each ended by a line feed; a buffer without lines is one empty line. -/
def text (buffer : Buffer) : String :=
  "\n".intercalate buffer.writtenLines ++ "\n"

@[simp] theorem level_add (buffer : Buffer) (text : String) :
    (buffer.add text).level = buffer.level := rfl

@[simp] theorem level_mark (buffer : Buffer) (marker : Region.Marker) :
    (buffer.mark marker).level = buffer.level := rfl

@[simp] theorem toList_lines_add (buffer : Buffer) (text : String) :
    (buffer.add text).lines.toList = buffer.lines.toList ++ [.text buffer.level text] := by
  simp [add]

@[simp] theorem toList_lines_mark (buffer : Buffer) (marker : Region.Marker) :
    (buffer.mark marker).lines.toList = buffer.lines.toList ++ [.marker buffer.level marker] := by
  simp [mark]

end Buffer

/-- Writing to a buffer, which may crash on the way. -/
abbrev Writing := EStateM Crash Buffer

/-- Writes one line at the level of the buffer. -/
def writeLine (text : String) : Writing Unit :=
  modify (·.add text)

/-- Goes one level deeper. -/
def enter : Writing Unit :=
  modify fun buffer => { buffer with level := buffer.level + 1 }

/-- Goes back one level. -/
def leave : Writing Unit := do
  match (← get).level with
  | 0 => throw .indentUnderflow
  | level + 1 => modify fun buffer => { buffer with level }

/-- A line comment. -/
def commentLine (text : String) : String :=
  s!"// {text}"

/-- A documentation line for one line of prose. -/
def docLine (prose : List Char) : String :=
  if prose.isEmpty then "///" else s!"/// {String.ofList prose}"

/-- The documentation lines of a text, one for each of its lines. -/
def docLines (text : String) : List String :=
  (Text.lines text.toList).map docLine

/-- The line that opens a block. -/
def blockHead (head : String) : String :=
  s!"{head} \x7b"

/-- What can be done to a buffer. -/
inductive Step where
  /-- Goes one level deeper. -/
  | push
  /-- Goes back one level. -/
  | pop
  | line (text : String)
  | blank
  | comment (text : String)
  | doc (text : String)
  /-- The body one level deeper. -/
  | indent (body : List Step)
  /-- A line that opens a brace, the body one level deeper, and a line that closes it. -/
  | block (head tail : String) (body : List Step)

mutual

/-- Runs a step. -/
def Step.run : Step → Writing Unit
  | .push => enter
  | .pop => leave
  | .line text => writeLine text
  | .blank => writeLine ""
  | .comment text => writeLine (commentLine text)
  | .doc text => (docLines text).forM writeLine
  | .indent body => do
    enter
    runAll body
    leave
  | .block head tail body => do
    writeLine (blockHead head)
    enter
    runAll body
    leave
    writeLine tail

/-- Runs steps one after the other. -/
def runAll : List Step → Writing Unit
  | [] => pure ()
  | step :: rest => do
    step.run
    runAll rest

end

end LaneKernels.Layout
