import LaneKernels.Text.Pieces

/-!
Regions of a generated text: the lines between a marker that opens a region and the next marker.

* A `Marker` opens a region by name or closes the one opened last, and has a line of its own.
* `section?` reads the lines of a named region up to the next marker, whether that one opens a region
  inside or closes this one.
-/

namespace LaneKernels.Region

/-- What opens or closes a region. -/
inductive Marker where
  | opening (name : String)
  | closing
  deriving DecidableEq, Repr

/-- The line of a marker. -/
def Marker.text : Marker → String
  | opening name => s!"// region: {name}"
  | closing => "// endregion:"

/-- Whether a line opens or closes a region. -/
def isMarkerLine (line : String) : Bool :=
  line.startsWith "// region:" || line.startsWith "// endregion:"

/-- The lines of a text between its line feeds. -/
def textLines (text : String) : List String :=
  (Text.pieces '\n' text.toList).map String.ofList

/-- The lines from a place in a text up to the next marker. -/
def upToMarker (lines : List String) : List String :=
  lines.takeWhile (!isMarkerLine ·)

/-- The first lines of a named region; the empty name stands for the start of the text. -/
def section? (name : String) (text : String) : Option (List String) :=
  let lines := textLines text
  if name.isEmpty then some (upToMarker lines)
  else
    match lines.dropWhile (· ≠ (Marker.opening name).text) with
    | [] => none
    | _ :: rest => some (upToMarker rest)

end LaneKernels.Region
