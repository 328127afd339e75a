import LaneKernels.Fault
import LaneKernels.Text.Blank
import LaneKernels.Text.Pieces
import LaneKernels.TierSet

/-!
The text that selects tiers.

* `parse` reads a selection: nothing or `all` is every tier, `none` is no tier, and anything else is a
  list of names between commas. Blanks around the text and around a name do not count, and neither do
  empty names; the first name that no tier has is reported.
* `ofEnvironment` reads the selection from the value of an environment variable. A variable that is
  unset, or whose bytes are no text, selects every tier.
-/

namespace LaneKernels.TierSet

/-- The names in a list of tiers: its pieces between commas, without blanks and empty pieces. -/
def listedNames (text : List Char) : List String :=
  ((Text.pieces ',' text).map Text.trim).filter (!·.isEmpty) |>.map String.ofList

/-- The set with a named tier put in, or the report that no tier has the name. -/
def insertNamed (set : TierSet) (name : String) : Except Fault TierSet :=
  match Tier.named? name with
  | some tier => .ok (set.insert tier)
  | none => .error (.unknownTier name)

/-- Reads a selection of tiers. -/
def parse (text : String) : Except Fault TierSet :=
  match String.ofList (Text.trim text.toList) with
  | "" | "all" => .ok full
  | "none" => .ok empty
  | _ => (listedNames text.toList).foldlM insertNamed empty

/-- The selection in an environment variable, given as its bytes if it is set. -/
def ofEnvironment (value : Option ByteArray) : Except Fault TierSet :=
  match value.bind String.fromUTF8? with
  | some text => parse text
  | none => .ok full

end LaneKernels.TierSet
