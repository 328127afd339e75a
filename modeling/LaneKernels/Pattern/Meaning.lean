import LaneKernels.Pattern.Basic
import LaneKernels.Pattern.Flaw

/-!
The meaning of a pattern as it is written.

* A `Mode` is how characters and signs are read at some point of a pattern. Flags change it up to the end of
  the group around them.
* In Unicode mode a character is a code point; there are no tables for case, shorthands and properties, so
  that these are flaws. Otherwise a class has seven-bit characters alone, and what would match other bytes is
  a flaw.
* `ClassTree.set` is the set of a class and `Tree.meaning` the pattern of a tree. Both report the first flaw
  from the left.
-/

namespace LaneKernels.Pattern

/-- How characters and signs are read. -/
structure Mode where
  ignoreCase : Bool
  multiLine : Bool
  dotAll : Bool
  carriageReturn : Bool
  unicode : Bool
  deriving DecidableEq, Repr

namespace Mode

/-- The mode at the start of a pattern. -/
def start : Mode :=
  ⟨false, false, false, false, true⟩

/-- The mode behind some settings. -/
def after (mode : Mode) (settings : Settings) : Mode where
  ignoreCase := (settings.state? .ignoreCase).getD mode.ignoreCase
  multiLine := (settings.state? .multiLine).getD mode.multiLine
  dotAll := (settings.state? .dotAll).getD mode.dotAll
  carriageReturn := (settings.state? .carriageReturn).getD mode.carriageReturn
  unicode := (settings.state? .unicode).getD mode.unicode

end Mode

/-- A value, or what is wrong with a pattern. -/
abbrev Meant := Except Finding

/-- Reports a flaw. -/
def flawAt {α : Type} (flaw : Flaw) (span : Span) : Meant α :=
  .error ⟨flaw, span, none⟩

/-! ### Classes -/

/-- A set closed under change of case, if the mode asks for that. -/
def Mode.fold (mode : Mode) (span : Span) (set : CharSet) : Meant CharSet :=
  if !mode.ignoreCase then .ok set
  else if !mode.unicode then .ok set.withOtherCase
  else if set.isEmpty then .ok set
  else flawAt .caseUnavailable span

/-- A set closed under change of case, and its complement if it is negated. -/
def Mode.finish (mode : Mode) (span : Span) (negated : Bool) (set : CharSet) : Meant CharSet := do
  let folded ← mode.fold span set
  if !negated then return folded
  if mode.unicode then return folded.complement
  flawAt .invalidBytes span

/-- A character of a class. -/
def Mode.classChar (mode : Mode) (literal : Literal) : Meant Char :=
  if mode.unicode || literal.char.toNat < 0x80 then .ok literal.char
  else if literal.isByte then flawAt .invalidBytes literal.span
  else flawAt .unicodeNotAllowed literal.span

/-- The set of a shorthand. -/
def Mode.shorthand (mode : Mode) (span : Span) (kind : Shorthand) (negated : Bool) : Meant CharSet :=
  if mode.unicode then flawAt .shorthandUnavailable span
  else if negated then flawAt .invalidBytes span
  else .ok kind.set

/-- The name of a property in small letters, without blanks, dashes, underscores and a leading `is`. -/
def plainName (name : String) : String :=
  let stripped :=
    match name.toList with
    | i :: s :: rest => if i.toLower = 'i' && s.toLower = 's' then rest else name.toList
    | short => short
  String.ofList ((stripped.filter fun c =>
    c.toNat < 0x80 && c ≠ ' ' && c ≠ '_' && c ≠ '-').map Char.toLower)

/-- The categories whose names are no names of properties. -/
def categoryNames : List String :=
  ["cf", "sc", "lc"]

/-- The flaw of asking for a property. -/
def Mode.property {α : Type} (mode : Mode) (span : Span) (name : String) : Meant α :=
  if !mode.unicode then flawAt .unicodeNotAllowed span
  else if categoryNames.contains (plainName name) then flawAt .propertyValueNotFound span
  else flawAt .propertyNotFound span

mutual

/-- The characters of a class. -/
def ClassTree.set (mode : Mode) : ClassTree → Meant CharSet
  | .empty _ => .ok .empty
  | .literal l => do return CharSet.single (← mode.classChar l)
  | .range _ first last => do
    return CharSet.between (← mode.classChar first) (← mode.classChar last)
  | .named span kind negated => mode.finish span negated kind.set
  | .shorthand span kind negated => mode.shorthand span kind negated
  | .property span name => mode.property span name
  | .bracketed span negated body => do mode.finish span negated (← ClassTree.set mode body)
  | .union _ items => ClassTree.setOfAll mode items
  | .operation _ op lhs rhs => do
    let left ← ClassTree.set mode lhs
    let right ← ClassTree.set mode rhs
    let right ← mode.fold rhs.span right
    let left ← mode.fold lhs.span left
    return CharSet.apply op left right

/-- The characters of some classes together. -/
def ClassTree.setOfAll (mode : Mode) : List ClassTree → Meant CharSet
  | [] => .ok .empty
  | item :: rest => do
    let first ← ClassTree.set mode item
    return first.union (← ClassTree.setOfAll mode rest)

end

/-! ### Signs -/

/-- The line feed. -/
def lineFeed : CharSet :=
  .single '\n'

/-- The characters that a dot matches. -/
def Mode.dotSet (mode : Mode) : CharSet :=
  if mode.dotAll then CharSet.empty.complement
  else if mode.carriageReturn then (lineFeed.union (.single '\r')).complement
  else lineFeed.complement

/-- The pattern of a character. -/
def Mode.literal (mode : Mode) (literal : Literal) : Meant Pattern :=
  if mode.unicode then
    if mode.ignoreCase then flawAt .caseUnavailable literal.span
    else .ok (.chars (.single literal.char))
  else if literal.isByte && 0x80 ≤ literal.char.toNat then flawAt .invalidBytes literal.span
  else if mode.ignoreCase then .ok (.chars (CharSet.single literal.char).withOtherCase)
  else .ok (.chars (.single literal.char))

/-- The condition of a sign for a place. -/
def Mode.look (mode : Mode) : Assertion → Look
  | .lineStart => if mode.multiLine then .lineStart mode.carriageReturn else .textStart
  | .lineEnd => if mode.multiLine then .lineEnd mode.carriageReturn else .textEnd
  | .textStart => .textStart
  | .textEnd => .textEnd
  | .word edge => .word mode.unicode edge

/-! ### Patterns -/

/-- Finding the meaning of a part, in the mode behind the parts before it. -/
abbrev Meaning := StateT Mode Meant

mutual

/-- What a tree matches. -/
def Tree.meaning : Tree → Meaning Pattern
  | .empty => pure .empty
  | .flags _ settings => do
    modify (·.after settings)
    return .empty
  | .literal l => do (← get).literal l
  | .dot span => do
    if !(← get).unicode then throw ⟨.invalidBytes, span, none⟩
    return .chars (← get).dotSet
  | .assertion _ place => do return .look ((← get).look place)
  | .shorthand span kind negated => do return .chars (← (← get).shorthand span kind negated)
  | .property span name => do (← get).property span name
  | .bracketed span negated body => do
    let mode ← get
    return .chars (← mode.finish span negated (← body.set mode))
  | .repetition _ count body => do return .times count (← Tree.meaning body)
  | .group _ settings captures body => do
    let before ← get
    set (before.after settings)
    let pattern ← Tree.meaning body
    set before
    return if captures then .captured pattern else pattern
  | .alternation _ branches => do return .anyOf (← Tree.meanings branches)
  | .sequence _ items => do return .inOrder (← Tree.meanings items)

/-- What some trees match, one after the other. -/
def Tree.meanings : List Tree → Meaning (List Pattern)
  | [] => return []
  | tree :: rest => do
    let first ← Tree.meaning tree
    return first :: (← Tree.meanings rest)

end

end LaneKernels.Pattern
