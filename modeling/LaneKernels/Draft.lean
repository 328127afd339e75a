import LaneKernels.Bundle
import LaneKernels.Layout

/-!
Three buffers written in lock-step.

* A header, and the markers that open and close a region, go to all three buffers; any other step goes to
  one of them.
* A region is its opening marker, its body and its closing marker. A body that ends early leaves the
  region open on all three.
-/

namespace LaneKernels

/-- The buffers of the three texts. -/
abbrev Draft := Bundle Layout.Buffer

namespace Draft

/-- The buffers before anything is written. -/
def empty : Draft :=
  .ofFn fun _ => .empty

/-- The finished texts. -/
def texts (draft : Draft) : Bundle String :=
  draft.map (·.text)

/-- Writing to the buffers, which may end early. -/
abbrev Writing := EStateM Stop Draft

/-- Adds a line of its own to each buffer. -/
def writeLines (lines : Bundle String) : Writing Unit :=
  modify fun draft => .ofFn fun artifact => (draft.get artifact).add (lines.get artifact)

/-- Adds one line to all buffers. -/
def writeAll (line : String) : Writing Unit :=
  modify (·.map (·.add line))

/-- Adds a region marker to all buffers. -/
def markAll (marker : Region.Marker) : Writing Unit :=
  modify (·.map (·.mark marker))

/-- The first line of every generated text. -/
def notice : String :=
  "// @generated by lanewise-gen 0.1.0. Do not edit."

/-- Writes the header with what each text is about. -/
def writeHeader (about : Bundle String) : Writing Unit := do
  writeAll notice
  writeLines (about.map Layout.commentLine)
  writeAll ""

/-- Opens a region on all buffers. -/
def openRegion (name : String) : Writing Unit :=
  markAll (.opening name)

/-- Closes the region opened last on all buffers. -/
def closeRegion : Writing Unit := do
  markAll .closing
  writeAll ""

/-- Writes steps to one buffer. -/
def write (artifact : Artifact) (steps : List Layout.Step) : Writing Unit := fun draft =>
  match Layout.runAll steps (draft.get artifact) with
  | .ok _ buffer => .ok () (draft.set artifact buffer)
  | .error crash buffer => .error (.crash crash) (draft.set artifact buffer)

/-- What can be done to the three buffers. -/
inductive Step where
  | header (about : Bundle String)
  | openRegion (name : String)
  | closeRegion
  /-- The body between an opening and a closing marker. -/
  | region (name : String) (body : List Step)
  /-- Ends the run with a defect. -/
  | fail (fault : Fault)
  | write (artifact : Artifact) (steps : List Layout.Step)

mutual

/-- Runs a step. -/
def Step.run : Step → Writing Unit
  | .header about => writeHeader about
  | .openRegion name => Draft.openRegion name
  | .closeRegion => Draft.closeRegion
  | .region name body => do
    Draft.openRegion name
    runAll body
    Draft.closeRegion
  | .fail fault => throw (.fault fault)
  | .write artifact steps => Draft.write artifact steps

/-- Runs steps one after the other. -/
def runAll : List Step → Writing Unit
  | [] => pure ()
  | step :: rest => do
    step.run
    runAll rest

end

end Draft

end LaneKernels
