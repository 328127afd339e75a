import LaneKernels.Log.Record
import LaneKernels.Pattern
import LaneKernels.Text.Blank
import LaneKernels.Text.Pieces

/-!
The setting that selects log records.

* A setting is a list of directives between commas, then a slash and a pattern that messages must match.
  A directive is a level for all targets, a target for all levels, or a target, an equals sign and a
  level. Levels are read in any case, and `off` selects nothing.
* `Filter.parse` reads a setting and warns of the directives that it skips. A later directive for a target
  replaces an earlier one, and without directives only errors are selected.
* `Filter.admits` decides a record by the directive with the longest target that its own target starts
  with.
-/

namespace LaneKernels.Log

/-- The least grave level that is selected; `off` is none. -/
abbrev Threshold := Option Level

/-- A threshold for the targets that start with a text. -/
structure Directive where
  /-- The start of a target; none for all targets. -/
  target : Option String
  threshold : Threshold
  deriving DecidableEq, Repr

/-- What is selected. -/
structure Filter where
  directives : List Directive
  /-- The pattern that messages must match. -/
  pattern : Option Pattern
  deriving DecidableEq, Repr

/-- Reads a threshold by its name, in any case. -/
def Threshold.named? (name : String) : Option Threshold :=
  if name.toUpper = "OFF" then some none
  else (Level.all.find? (·.name = name.toUpper)).map some

namespace Filter

/-- The threshold that selects every record. -/
def everything : Threshold :=
  some .trace

/-- Reads one directive, or says why it is skipped. -/
def directive (text : String) : Except String Directive :=
  match (Text.pieces '=' text.toList).map String.ofList with
  | [only] =>
    match Threshold.named? only with
    | some threshold => .ok ⟨none, threshold⟩
    | none => .ok ⟨some only, everything⟩
  | [target, level] =>
    let level := String.ofList (Text.trim level.toList)
    if level.isEmpty then .ok ⟨some target, everything⟩
    else
      match Threshold.named? level with
      | some threshold => .ok ⟨some target, threshold⟩
      | none => .error s!"invalid logging spec '{level}'"
  | _ => .error s!"invalid logging spec '{text}'"

/-- Puts a directive in the place of the one for the same target, or behind all. -/
def insert (directives : List Directive) (new : Directive) : List Directive :=
  if directives.any (·.target = new.target) then
    directives.map fun old => if old.target = new.target then new else old
  else directives ++ [new]

/-- Reads the directives between commas, with the warnings for those that are skipped. -/
def directivesOf (text : List Char) : List Directive × List String :=
  let parts := ((Text.pieces ',' text).map Text.trim).filter (!·.isEmpty)
  parts.foldl (fun (directives, warnings) part =>
    match directive (String.ofList part) with
    | .ok new => (insert directives new, warnings)
    | .error warning => (directives, warnings ++ [warning])) ([], [])

/-- Reads a pattern; one that is rejected is skipped with a warning. -/
def patternOf (text : String) : Option Pattern × List String :=
  match Pattern.compile text with
  | .ok pattern => (some pattern, [])
  | .error rejection => (none, [s!"invalid regex filter - {rejection.message text}"])

/-- Reads a setting, with the warnings for what is skipped. -/
def parse (setting : String) : Filter × List String :=
  match Text.pieces '/' setting.toList with
  | [directives] =>
    let (directives, warnings) := directivesOf directives
    (⟨directives, none⟩, warnings)
  | [directives, pattern] =>
    let (directives, warnings) := directivesOf directives
    let (pattern, patternWarnings) := patternOf (String.ofList pattern)
    (⟨directives, pattern⟩, warnings ++ patternWarnings)
  | _ => (⟨[], none⟩, [s!"invalid logging spec '{setting}' (too many '/'s)"])

/-- The length of a directive's target. -/
def reach (directive : Directive) : Nat :=
  (directive.target.map (·.utf8ByteSize)).getD 0

/-- Whether a directive is for a target. -/
def applies (directive : Directive) (target : String) : Bool :=
  directive.target.all fun start => start.toList.isPrefixOf target.toList

/-- The threshold for a target: of the directives for it, that of the last with the longest target. -/
def thresholdFor (filter : Filter) (target : String) : Threshold :=
  if filter.directives.isEmpty then some .error
  else
    let best := (filter.directives.filter (applies · target)).foldl
      (fun (best : Option Directive) d =>
        if best.all (reach · ≤ reach d) then some d else best) none
    best.bind (·.threshold)

/-- Whether a record is selected. -/
def admits (filter : Filter) (record : Record) : Bool :=
  (filter.thresholdFor record.target).any record.isUpTo &&
    filter.pattern.all (·.isIn record.message)

end Filter

/-- The text of a record: level and target in brackets, and the message with its further lines indented. -/
def Record.render (record : Record) : String :=
  let level := record.level.name
  let padding := String.ofList (List.replicate (5 - level.length) ' ')
  let message := "\n    ".intercalate
    ((Text.pieces '\n' record.message.toList).map String.ofList)
  s!"[{level}{padding} {record.target}] {message}\n"

end LaneKernels.Log
