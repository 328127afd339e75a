import LaneKernels.BindingTable.Shipped
import LaneKernels.Plan
import LaneKernels.Source.Arrays
import LaneKernels.Source.Kernels
import LaneKernels.Source.Traits
import LaneKernels.Draft

/-!
Generating the three texts from a recipe.

* `librarySteps` writes a plan: a header and the prelude, then a region for each operation that holds a
  region for each type.
* `Recipe.generate` checks the table against the matrix before anything else, plans, writes, and logs what
  it made. The answer has the texts, or why there are none, and the log either way.
-/

namespace LaneKernels

namespace Source

/-- What the header says about each text. -/
def about : Bundle String :=
  ⟨"Elementwise kernels: scalar defaults, tier variants and resolved backends.",
    "Per-operation traits, their impls and convenience macros.",
    "Fixed-size array backends."⟩

/-- The name of the region of a cell. -/
def cellRegion (op : ArithOp) (type : ElementType) : String :=
  s!"{op.name}/{type.shortName}"

/-- The region of a cell on the three texts. -/
def cellStep (cell : Cell) : Draft.Step :=
  .region (cellRegion cell.op cell.type)
    [.write .kernels ((cellItems cell).flatMap Item.steps),
      .write .traits (implSteps cell.op cell.type),
      .write .arrays (arraySteps cell.op cell.type)]

/-- The region of an operation on the three texts. -/
def chapterStep (chapter : Chapter) : Draft.Step :=
  .region chapter.op.name
    (.write .traits (traitSteps chapter.op ++ macroSteps chapter.op) :: chapter.cells.map cellStep)

/-- The three texts of a plan. -/
def librarySteps (chapters : List Chapter) : List Draft.Step :=
  [.header about, .write .kernels prelude] ++ chapters.map chapterStep

/-- Writes the three texts of a plan. -/
def write (chapters : List Chapter) : Except Stop (Bundle String) :=
  match Draft.runAll (librarySteps chapters) .empty with
  | .ok _ draft => .ok draft.texts
  | .error stop _ => .error stop

end Source

/-- The cells of a plan, in the order of the text. -/
def plannedCells (chapters : List Chapter) : List Cell :=
  chapters.flatMap (·.cells)

/-- The accelerated kernels of a plan, in the order of the text. -/
def plannedRoutines (chapters : List Chapter) : List Routine :=
  (plannedCells chapters).flatMap (·.routines)

/-- What the log says about a plan that was written. -/
def summary (chapters : List Chapter) (tiers : TierSet) : String :=
  let cells := (plannedCells chapters).length
  let routines := (plannedRoutines chapters).length
  s!"generated {cells} routines with {routines} accelerated variants (tiers: {tiers.display})"

namespace Recipe

/-- Checks, plans and writes. -/
def generateLogged (recipe : Recipe) : Planning (Bundle String) := do
  Planning.ofExcept (recipe.table.check recipe.capabilities)
  let chapters ← recipe.plan
  match Source.write chapters with
  | .error stop => throw stop
  | .ok texts =>
    Planning.log .info (summary chapters recipe.tiers)
    return texts

/-- The three texts, or why there are none, with the log. -/
def generate (recipe : Recipe) : Except Stop (Bundle String) × Array Log.Record :=
  match recipe.generateLogged #[] with
  | .ok texts log => (.ok texts, log)
  | .error stop log => (.error stop, log)

/-- The recipe with the shipped matrix and table. -/
def shipped (tiers : TierSet) : Recipe :=
  ⟨.shipped, .shipped, tiers⟩

end Recipe

end LaneKernels
