import LaneKernels.CommandLine
import LaneKernels.Log.Filter
import LaneKernels.Text.Lossy
import LaneKernels.Text.Plain

/-!
The interface that the program is built with.

* `Request.read` reads the arguments: help, version, a run, or a mistake. The first argument decides, and
  a run has none.
* `logFilter` reads the log setting: the records that it selects are printed, and a warning for each part of
  it that is ignored.
-/

namespace LaneKernels.CommandLine

/-! ### Arguments -/

/-- What the arguments ask for. -/
inductive Request where
  | help
  | version
  | generate
  deriving DecidableEq, Repr

/-- Why the arguments are not understood. -/
inductive Mistake where
  | unexpectedArgument (text : String)
  | unexpectedValue (value flag : String)
  deriving DecidableEq, Repr

/-- A text in the colour of what is wrong, with which any control sequence in it ends. -/
def coloured (text : String) : String :=
  s!"\x1b[33m{text}\x1b[0m"

/-- The text of a mistake, with what to do about it. -/
def Mistake.message (mistake : Mistake) : String :=
  let trouble :=
    match mistake with
    | unexpectedArgument text => s!"unexpected argument '{coloured text}' found"
    | unexpectedValue value flag =>
      s!"unexpected value '{coloured value}' for '{flag}' found; no more were expected"
  s!"error: {trouble}\n\nUsage: lanewise-gen\n\nFor more information, try '--help'.\n"

/-- The answer to a request for help. -/
def helpText : String :=
  "Generate lanewise elementwise kernels\n\nUsage: lanewise-gen\n\nOptions:\n  -h, --help     Print help\n  -V, --version  Print version\n"

/-- The answer to a request for the version. -/
def versionText : String :=
  "lanewise-gen 0.1.0\n"

namespace Request

/-- Reads a long option: a name, and a value behind an equals sign. -/
def ofLong (option : List Char) : Except Mistake Request :=
  let name := String.ofList (option.takeWhile (· ≠ '='))
  let request? :=
    match name with
    | "help" => some help
    | "version" => some version
    | _ => none
  match request?, option.dropWhile (· ≠ '=') with
  | some request, [] => .ok request
  | some _, _ :: value => .error (.unexpectedValue (String.ofList value) s!"--{name}")
  | none, _ => .error (.unexpectedArgument s!"--{name}")

/-- Reads a short option; what stands behind it in the same argument does not count. -/
def ofShort (option : Char) : Except Mistake Request :=
  match option with
  | 'h' => .ok help
  | 'V' => .ok version
  | other => .error (.unexpectedArgument s!"-{other}")

/-- Reads one argument. A dash with bytes behind it that begin no character is shown as a whole. -/
def ofArgument (argument : ByteArray) : Except Mistake Request :=
  let text := Text.lossy argument
  match text.toList with
  | '-' :: '-' :: option => ofLong option
  | '-' :: _ :: _ =>
    match argument.utf8DecodeChar? 1 with
    | some option => ofShort option
    | none => .error (.unexpectedArgument text)
  | _ => .error (.unexpectedArgument text)

/-- Reads the arguments; behind a double dash nothing is an option. -/
def read : List ByteArray → Except Mistake Request
  | [] => .ok generate
  | argument :: rest =>
    if String.fromUTF8? argument = some "--" then
      match rest with
      | [] => .ok generate
      | next :: _ => .error (.unexpectedArgument (Text.lossy next))
    else ofArgument argument

/-- The answer to a request; a run has none. -/
def answer? : Request → Option Answer
  | help => some ⟨0, helpText, ""⟩
  | version => some ⟨0, versionText, ""⟩
  | generate => none

end Request

/-- The answer to a mistake. -/
def Mistake.answer (mistake : Mistake) : Answer :=
  ⟨2, "", Text.plain mistake.message⟩

/-! ### The log -/

/-- The text of a warning about the log setting. -/
def warningText (warning : String) : String :=
  s!"warning: {warning}, ignoring it\n"

/-- The log filter of a setting; without a setting that is a text everything up to `info` is selected. -/
def logFilter (setting : Option ByteArray) : Log.Filter × List String :=
  Log.Filter.parse ((setting.bind String.fromUTF8?).getD "info")

/-- Prints the records that the filter of a setting selects, after its warnings. -/
def Printer.standard (setting : Option ByteArray) : Printer where
  greeting := String.join ((logFilter setting).2.map warningText)
  printed record := if (logFilter setting).1.admits record then Text.plain record.render else ""

/-! ### Both -/

/-- The interface that the program is built with. -/
def Interface.standard : Interface where
  answer? arguments :=
    match Request.read arguments with
    | .ok request => request.answer?
    | .error mistake => some mistake.answer
  printer := .standard

end LaneKernels.CommandLine
