import LaneKernels.Fault

/-!
The capability matrix: which tier has vector instructions for which operation on which type.

* A matrix answers for every cell (`supports`); two matrices with the same answers are equal (`ext`),
  and equality is decided cell by cell.
* `ofRows` builds it from rows, one per tier and operation. A `Sheet` takes them one after the other, so a
  later row for the same pair replaces an earlier one (`Sheet.answers_ofRows`). A pair without a row is a
  defect, so no cell is filled in by default.
* `tiersFor` and `cells` list what is supported, in declaration order.
-/

namespace LaneKernels

/-- A total table of yes and no over tiers, operations and types. -/
@[ext] structure Capabilities where
  /-- Whether a tier has vector instructions for an operation on a type. -/
  supports : Tier → ArithOp → ElementType → Bool

namespace Capabilities

instance : DecidableEq Capabilities := fun s t =>
  decidable_of_iff
    (∀ tier ∈ Tier.all, ∀ op ∈ ArithOp.all, ∀ type ∈ ElementType.all,
      s.supports tier op type = t.supports tier op type)
    ⟨fun h => Capabilities.ext <| funext fun tier => funext fun op => funext fun type =>
        h tier (Tier.mem_all tier) op (ArithOp.mem_all op) type (ElementType.mem_all type),
      fun h tier _ op _ type _ => by rw [h]⟩

/-- The answers for one tier and one operation, over all types. -/
structure Row where
  tier : Tier
  op : ArithOp
  /-- The answer for each type. -/
  supports : ElementType → Bool

namespace Row

/-- Whether the row is for a tier and an operation. -/
def isFor (row : Row) (tier : Tier) (op : ArithOp) : Bool :=
  row.tier = tier && row.op = op

/-- The row whose answers are listed in the order of the types; a missing answer is no. -/
def ofFlags (tier : Tier) (op : ArithOp) (flags : List Bool) : Row :=
  ⟨tier, op, fun type => flags.getD type.index false⟩

/-- The row with one answer changed. -/
def set (row : Row) (type : ElementType) (answer : Bool) : Row :=
  { row with supports := fun t => if t = type then answer else row.supports t }

end Row

/-- The last row for a tier and an operation. -/
def lastRow? (rows : List Row) (tier : Tier) (op : ArithOp) : Option Row :=
  rows.reverse.find? (·.isFor tier op)

/-- The matrix with the answers of the last row for each pair, and no where there is none. -/
def ofLastRows (rows : List Row) : Capabilities :=
  ⟨fun tier op type => (lastRow? rows tier op).any (·.supports type)⟩

/-- Every tier with every operation, in declaration order. -/
def pairs : List (Tier × ArithOp) :=
  Tier.all.flatMap fun tier => ArithOp.all.map fun op => (tier, op)

/-- A matrix that rows are entered in, one after the other. -/
structure Sheet where
  /-- The answers so far, no where nothing was entered. -/
  answers : Tier → ArithOp → ElementType → Bool
  /-- Whether a row was entered for a tier and an operation. -/
  seen : Tier → ArithOp → Bool

namespace Sheet

/-- The sheet before anything is entered. -/
def blank : Sheet :=
  ⟨fun _ _ _ => false, fun _ _ => false⟩

/-- Enters a row, in the place of what was entered for its pair before. -/
def enter (sheet : Sheet) (row : Row) : Sheet where
  answers tier op := if row.isFor tier op then row.supports else sheet.answers tier op
  seen tier op := row.isFor tier op || sheet.seen tier op

/-- Enters rows one after the other. -/
def ofRows (rows : List Row) : Sheet :=
  rows.foldl enter blank

/-- The first pair that no row was entered for. -/
def missingPair? (sheet : Sheet) : Option (Tier × ArithOp) :=
  pairs.find? fun (tier, op) => !sheet.seen tier op

theorem seen_foldl_enter (rows : List Row) (sheet : Sheet) (tier : Tier) (op : ArithOp) :
    (rows.foldl enter sheet).seen tier op = (rows.any (·.isFor tier op) || sheet.seen tier op) := by
  induction rows generalizing sheet with
  | nil => rfl
  | cons row rest ih =>
    rw [List.foldl_cons, ih, enter, List.any_cons, Bool.or_left_comm, Bool.or_assoc]

theorem answers_foldl_enter (rows : List Row) (sheet : Sheet) (tier : Tier) (op : ArithOp) :
    (rows.foldl enter sheet).answers tier op =
      ((lastRow? rows tier op).map Row.supports).getD (sheet.answers tier op) := by
  induction rows generalizing sheet with
  | nil => rfl
  | cons row rest ih =>
    rw [List.foldl_cons, ih, enter, lastRow?, lastRow?, List.reverse_cons, List.find?_append]
    cases rest.reverse.find? (·.isFor tier op) with
    | some later => rfl
    | none => cases h : row.isFor tier op <;> simp [h]

/-- A pair has a row if one of the rows is for it. -/
theorem seen_ofRows (rows : List Row) (tier : Tier) (op : ArithOp) :
    (ofRows rows).seen tier op = rows.any (·.isFor tier op) := by
  rw [ofRows, seen_foldl_enter, blank, Bool.or_false]

/-- The answers for a pair are those of its last row. -/
theorem answers_ofRows (rows : List Row) : (ofRows rows).answers = (ofLastRows rows).supports := by
  funext tier op type
  rw [ofRows, answers_foldl_enter]
  show _ = (lastRow? rows tier op).any (·.supports type)
  cases lastRow? rows tier op <;> rfl

end Sheet

/-- Builds the matrix from rows that cover every tier and operation. -/
def ofRows (rows : List Row) : Except Fault Capabilities :=
  let sheet := Sheet.ofRows rows
  match sheet.missingPair? with
  | some (tier, op) => .error (.missingRow tier op)
  | none => .ok ⟨sheet.answers⟩

/-- The matrix in which nothing is accelerated. -/
def none : Capabilities :=
  ⟨fun _ _ _ => false⟩

/-- The tiers that accelerate an operation on a type, narrowest first. -/
def tiersFor (caps : Capabilities) (op : ArithOp) (type : ElementType) : List Tier :=
  Tier.all.filter fun tier => caps.supports tier op type

@[simp] theorem mem_tiersFor {caps : Capabilities} {op : ArithOp} {type : ElementType} {tier : Tier} :
    tier ∈ caps.tiersFor op type ↔ caps.supports tier op type = true := by
  simp [tiersFor]

/-- One place in the matrix. -/
structure Cell where
  tier : Tier
  op : ArithOp
  type : ElementType
  deriving DecidableEq, Repr

/-- Every place in the matrix, by tier, then operation, then type. -/
def allCells : List Cell :=
  Tier.all.flatMap fun tier => ArithOp.all.flatMap fun op => ElementType.all.map fun type =>
    ⟨tier, op, type⟩

@[simp] theorem mem_allCells (cell : Cell) : cell ∈ allCells := by
  obtain ⟨tier, op, type⟩ := cell
  simp [allCells]

/-- The supported places, by tier, then operation, then type. -/
def cells (caps : Capabilities) : List Cell :=
  allCells.filter fun cell => caps.supports cell.tier cell.op cell.type

@[simp] theorem mem_cells {caps : Capabilities} {cell : Cell} :
    cell ∈ caps.cells ↔ caps.supports cell.tier cell.op cell.type = true := by
  simp [cells]

end Capabilities

end LaneKernels
