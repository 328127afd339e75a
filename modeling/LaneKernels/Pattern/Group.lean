import LaneKernels.Pattern.Scan
import LaneKernels.Text.Letter

/-!
What an opening parenthesis begins.

* A group may have a name, which no other group has, or flags of its own (`GroupHead.group`); flags without
  a group are for what follows (`GroupHead.settings`).
* Flags behind a dash are switched off. Each flag stands at most once, and so does the dash, which is not the
  last sign.
-/

namespace LaneKernels.Pattern

open Parsing

/-- What was read of some flags: a sign that negates, or a flag. -/
abbrev FlagMark := Option Flag

/-- The settings that flags and a negation between them stand for. -/
def settingsOf (marks : List (Span × FlagMark)) : Settings :=
  let enabled := marks.takeWhile (·.2.isSome)
  let disabled := marks.dropWhile (·.2.isSome)
  enabled.filterMap (fun (_, mark) => mark.map (·, true)) ++
    disabled.filterMap fun (_, mark) => mark.map (·, false)

/-- Reads the flag or the negation that is next. -/
def flagMark (c : Char) : Parsing FlagMark := do
  if c = '-' then return none
  match Flag.ofLetter? c with
  | some flag => return some flag
  | none => fail .flagUnknown (← spanNext)

/-- Reads flags up to a colon or a closing parenthesis, behind those that were read before. -/
def flagsFrom : Nat → List (Span × FlagMark) → Parsing (List (Span × FlagMark))
  | 0, marks => return marks
  | fuel + 1, marks => do
    match ← current? with
    | none => fail .flagUnfinished (← spanHere)
    | some c =>
      if c = ':' || c = ')' then
        match marks.getLast? with
        | some (span, none) => fail .flagNegationDangling span
        | _ => return marks
      else
        let mark ← flagMark c
        let span ← spanNext
        if let some (earlier, _) := marks.find? (·.2 = mark) then
          let flaw := if mark.isSome then Flaw.flagRepeated else Flaw.flagNegationRepeated
          failAgainst flaw span earlier
        let _ ← bump
        flagsFrom fuel (marks ++ [(span, mark)])

/-- Whether a character can start the name of a group. -/
def startsGroupName (c : Char) : Bool :=
  c = '_' || Text.isLetter c

/-- Whether a character can stand in the name of a group. -/
def isGroupNameChar (c : Char) : Bool :=
  c = '_' || c = '.' || c = '[' || c = ']' || Text.isLetter c || Text.isNumeric c

/-- Reads the name of a group, up to the sign behind it. -/
def groupName : Parsing Unit := do
  let start ← here
  if (← current?).any fun c => c ≠ '>' && !startsGroupName c then
    fail .groupNameInvalid (← spanNext)
  let name ← bumpWhile isGroupNameChar
  let span ← since start
  match ← current? with
  | none => fail .groupNameUnfinished (← spanHere)
  | some '>' =>
    let _ ← bump
    if name.isEmpty then
      fail .groupNameEmpty (Span.point start)
    let names := (← get).names
    if let some earlier := names.lookup (String.ofList name) then
      failAgainst .groupNameRepeated span earlier
    modify fun scan => { scan with names := (String.ofList name, span) :: names }
  | some _ => fail .groupNameInvalid (← spanNext)

/-- What an opening parenthesis begins. -/
inductive GroupHead where
  /-- Flags for what follows. -/
  | settings (span : Span) (settings : Settings)
  | group (opening : Span) (settings : Settings) (captures : Bool)

/-- Reads flags, and what they are for. -/
def flagsHead (opening sign : Span) : Parsing GroupHead := do
  let fuel := (← get).rest.length + 1
  let marks ← flagsFrom fuel []
  let isSetting := (← current?) = some ')'
  let _ ← bump
  if !isSetting then return .group opening (settingsOf marks) false
  if marks.isEmpty then
    fail .repetitionMissing sign
  return .settings ⟨opening.start, ← here⟩ (settingsOf marks)

/-- Goes over the sign of a look around the place, if one is next. -/
def bumpOverLook : Parsing Bool := do
  if ← bumpOver "?=" then return true
  if ← bumpOver "?!" then return true
  if ← bumpOver "?<=" then return true
  bumpOver "?<!"

/-- Goes over the sign of a name, if one is next. -/
def bumpOverNameSign : Parsing Bool := do
  if ← bumpOver "?P<" then return true
  bumpOver "?<"

/-- Reads what an opening parenthesis begins; the parenthesis is next. -/
def groupHead : Parsing GroupHead := do
  let opening ← spanNext
  let _ ← bump
  skipSpace
  if ← bumpOverLook then
    fail .lookAround (← since opening.start)
  let sign ← spanHere
  if ← bumpOverNameSign then
    groupName
    return .group opening [] true
  if ← bumpOver "?" then
    if !(← hasMore) then
      fail .groupUnclosed opening
    return ← flagsHead opening sign
  return .group opening [] true

end LaneKernels.Pattern
