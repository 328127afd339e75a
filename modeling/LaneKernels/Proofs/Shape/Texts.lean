import Mathlib.Tactic
import LaneKernels.Proofs.Generation.AllOrNothing
import LaneKernels.Proofs.Shape.Statements

/-!
The generated texts are well shaped.

* The lines of a text go from nothing open to nothing open, region by region (`spans_libraryLines`).
* `generate_well_shaped`: the texts that are generated from a table without brackets and white space
  (`BindingTable.Unbroken`) are well shaped, as those of the shipped table are.
-/

namespace LaneKernels

open Text (Nested openedBy)
open Layout (Step Line linesAt)

namespace Source

/-- Tidy steps at the margin leave nothing open. -/
lemma spans_tidy {steps : List Step} (h : Tidy steps) :
    Spans [] ((linesAt steps 0).map Line.written) [] :=
  h.spans 0

lemma spans_flatMap {α : Type} {lines : α → List Line} {xs : List α}
    (h : ∀ x ∈ xs, Spans [] ((lines x).map Line.written) []) :
    Spans [] ((xs.flatMap lines).map Line.written) [] := by
  rw [List.map_flatMap]
  induction xs with
  | nil => rfl
  | cons x xs ih =>
      rw [List.forall_mem_cons] at h
      exact h.1.append (ih h.2)

lemma spans_region {name : String} (hname : Nested name.toList) {body : List Line}
    (h : Spans [] (body.map Line.written) []) :
    Spans [] ((Inventory.regionLines name body).map Line.written) [] := by
  have hopening : Nested (Region.Marker.opening name).text.toList := by
    rw [show (Region.Marker.opening name).text = "// region: " ++ name from rfl, String.toList_append]
    exact .append (by decide) hname
  rw [Inventory.regionLines, List.map_cons, List.map_append, List.map_cons, List.map_singleton]
  exact (spans_marker hopening).append (h.append ((spans_marker (by decide)).append (spans_empty [])))

/-- A comment that is given by its characters. -/
lemma isStatement_comment {chars : List Char} (hstart : isStart ('/' :: '/' :: ' ' :: chars) = true)
    (hnested : openedBy [] chars = some []) :
    IsStatement (Layout.commentLine (String.ofList chars)) where
  starts := ⟨_, hstart, .comment ⟨[], by rw [String.toList_ofList, List.append_nil]⟩⟩
  nested := by
    rw [show Layout.commentLine (String.ofList chars) = "// " ++ String.ofList chars from rfl,
      String.toList_append]
    exact .append (by decide) ((String.toList_ofList (l := chars)).symm ▸ Text.nested_iff.mpr hnested)

/-- The header is made of comments. -/
lemma spans_header (artifact : Artifact) :
    Spans [] (((Draft.Step.header about).linesOf artifact).map Line.written) [] := by
  have habout : IsStatement (Layout.commentLine (about.get artifact)) := by
    cases artifact <;> exact isStatement_comment rfl rfl
  have hnotice : IsStatement Draft.notice := .ofChars _ rfl rfl
  exact (spans_statement hnotice 0).append ((spans_statement habout 0).append (spans_empty []))

lemma spans_openingLines (artifact : Artifact) :
    Spans [] ((Inventory.openingLines artifact).map Line.written) [] := by
  rw [Inventory.openingLines, List.map_append]
  refine (spans_header artifact).append ?_
  split
  · exact spans_tidy tidy_prelude
  · rfl

lemma spans_chapterLines (op : ArithOp) (artifact : Artifact) :
    Spans [] ((Inventory.chapterLines op artifact).map Line.written) [] := by
  rw [Inventory.chapterLines]
  split
  · exact spans_tidy ((tidy_traitSteps op).append (tidy_macroSteps op))
  · rfl

lemma spans_cellLines {cell : Cell} (h : ∀ routine ∈ cell.routines, routine.Unbroken)
    (artifact : Artifact) : Spans [] ((Inventory.cellLines cell artifact).map Line.written) [] := by
  cases artifact with
  | kernels =>
      refine spans_tidy (.flatMap fun item hitem => tidy_steps fun routine hroutine => h routine ?_)
      simpa [hroutine, cellItems] using hitem
  | traits => exact spans_tidy (tidy_implSteps cell.op cell.type)
  | arrays => exact spans_tidy (tidy_arraySteps cell.op cell.type)

/-- The lines of a plan leave nothing open, if the texts of its kernels are unbroken. -/
lemma spans_libraryLines {chapters : List Chapter}
    (h : ∀ routine ∈ plannedRoutines chapters, routine.Unbroken) (artifact : Artifact) :
    Spans [] ((libraryLines chapters artifact).map Line.written) [] := by
  rw [Inventory.libraryLines_eq, List.map_append]
  refine (spans_openingLines artifact).append <|
    spans_flatMap fun chapter hchapter => spans_region chapter.op.isName_name.nested ?_
  rw [List.map_append]
  refine (spans_chapterLines chapter.op artifact).append <|
    spans_flatMap fun cell hcell => spans_region ?_ <|
      spans_cellLines (fun routine hroutine => h routine ?_) artifact
  · have hname : Nested (cell.op.name ++ "/" ++ cell.type.shortName).toList := by
      rw [String.toList_append, String.toList_append]
      exact (cell.op.isName_name.nested.append (by decide)).append cell.type.isName_shortName.nested
    exact hname
  · have hplanned : cell ∈ plannedCells chapters := List.mem_flatMap.mpr ⟨chapter, hchapter, hcell⟩
    exact List.mem_flatMap.mpr ⟨cell, hplanned, hroutine⟩

/-- The texts of a plan are well shaped, if the texts of its kernels are unbroken. -/
lemma wellShaped_libraryTexts {chapters : List Chapter}
    (h : ∀ routine ∈ plannedRoutines chapters, routine.Unbroken) (artifact : Artifact) :
    WellShaped ((libraryTexts chapters).get artifact) := by
  have hlines := textLines_libraryTexts (fun routine hroutine => (h routine hroutine).mono Unbroken.oneLine) artifact
  rw [get_libraryTexts] at hlines ⊢
  refine wellShaped_text ?_ hlines (spans_libraryLines h artifact)
  rw [Layout.Buffer.writtenLines, ne_eq, List.map_eq_nil_iff]
  exact libraryLines_ne_nil chapters artifact

end Source

/-- No path and no register type of the table has a bracket or white space in it. -/
abbrev BindingTable.Unbroken (table : BindingTable) : Prop :=
  table.TextsHave LaneKernels.Unbroken

/-- The shipped table has neither brackets nor white space in it. -/
lemma BindingTable.unbroken_shipped : BindingTable.shipped.Unbroken where
  binding h := (isPath_shipped.1 h).unbroken
  register h := (isPath_shipped.2 h).unbroken

namespace Recipe

lemma unbroken_chapters {recipe : Recipe} (h : recipe.table.Unbroken) :
    ∀ routine ∈ plannedRoutines recipe.chapters, routine.Unbroken :=
  h.chapters fun _ hc => absurd hc List.not_mem_nil

/-- Whatever the matrix and the tiers are, the brackets of each generated text are nested, each of its
lines has a margin of four blanks for each brace that is open before it, without the one that it begins
by closing, and its markers stand where no bracket is open; provided that no path and no register type
of the table has a bracket or white space in it. -/
theorem generate_well_shaped {recipe : Recipe} {texts : Bundle String} {log : Array Log.Record}
    (htable : recipe.table.Unbroken) (h : recipe.generate = (.ok texts, log)) (artifact : Artifact) :
    WellShaped (texts.get artifact) := by
  have htexts := generate_of_check (check_of_generate h)
  rw [h, Prod.mk.injEq, Except.ok.injEq] at htexts
  rw [htexts.1]
  exact Source.wellShaped_libraryTexts (unbroken_chapters htable) artifact

/-- The texts that are generated from the shipped table are well shaped. -/
theorem generate_well_shaped_shipped : ∃ texts log, (shipped .full).generate = (.ok texts, log) ∧
    BindingTable.shipped.Unbroken ∧ ∀ artifact, WellShaped (texts.get artifact) :=
  ⟨_, _, generate_of_check BindingTable.check_shipped, BindingTable.unbroken_shipped,
    @generate_well_shaped (shipped .full) _ _ BindingTable.unbroken_shipped
      (generate_of_check BindingTable.check_shipped)⟩

end Recipe

end LaneKernels
