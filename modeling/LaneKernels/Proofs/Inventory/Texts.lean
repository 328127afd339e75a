import Mathlib.Tactic
import LaneKernels.Proofs.Inventory.Items

/-!
What the kernel text and the array text hold.

* The prelude defines the tiers and nothing else (`reads_prelude`).
* A region holds what its body holds, and its own name (`reads_region`).
* `survey_kernels` and `survey_arrays` go through a whole text: what it defines, cell by cell, and
  the regions in which it does.
-/

namespace LaneKernels

open Layout (Line linesAt blockHead)
open Inventory Source

/-- A comment begins like its text behind two slashes and a blank. -/
lemma Heads.comment {chars : List Char} {text : String} (h : Heads chars text) :
    Heads ('/' :: '/' :: ' ' :: chars) (Layout.commentLine text) := by
  obtain ⟨rest, hrest⟩ := h
  refine ⟨rest, ?_⟩
  rw [show Layout.commentLine text = "// " ++ text from rfl, String.toList_append, hrest]
  rfl

namespace Inventory

/-! ### The prelude -/

/-- An import that depends on a build symbol, with an attribute. -/
lemma reads_import {guard symbol decoration content : String} {c d : Char} (hguard : Heads ['#'] guard)
    (hsymbol : read guard.toList = .guard symbol) (hc : c ≠ 'c')
    (hdecoration : Heads ['#', '[', c] decoration)
    (hd : d ≠ ' ') (h : Heads [d] content) (hread : read content.toList = .code) :
    Reads [.text 0 guard, .text 0 decoration, .text 0 content] [] [] := by
  intro survey hsettled
  rw [List.map_cons, List.map_cons, List.map_singleton, Survey.take_cons, Survey.take_cons,
    Survey.take_cons, step_margin (by decide) hguard, hsymbol, step_attribute hc hdecoration,
    step_margin hd h, hread, hsettled.eq]
  simp only [Survey.top, Survey.add, Survey.take, List.foldl_nil, List.append_nil]

/-- A line at the margin that begins with some characters, which show that it is code. -/
lemma quiet_code {content : String} {c : Char} {start : List Char} (hc : c ≠ ' ')
    (h : Heads (c :: start) content) (hread : ∀ rest, read (c :: (start ++ rest)) = .code) :
    Quiet (.text 0 content) := by
  obtain ⟨rest, hrest⟩ := h
  refine quiet_margin hc ⟨start ++ rest, hrest⟩ (.inr ?_)
  rw [hrest]
  exact hread rest

lemma reads_imports : Reads (linesAt imports 0) [] [] := by
  have harch : ∀ arch : String, Reads [.text 0 s!"#[cfg(target_arch = \"{arch}\")]",
      .text 0 "#[allow(unused_imports)]", .text 0 s!"use core::arch::{arch}::*;"] [] [] := by
    intro arch
    have hguard : Heads "#[cfg(".toList s!"#[cfg(target_arch = \"{arch}\")]" :=
      ((Heads.ofChars "#[cfg(".toList _).append _).append _
    have huse : Heads ['u', 's', 'e'] s!"use core::arch::{arch}::*;" :=
      ((Heads.ofChars ['u', 's', 'e'] _).append _).append _
    obtain ⟨symbol, hsymbol⟩ := hguard
    obtain ⟨path, hpath⟩ := huse
    have hguarded : read s!"#[cfg(target_arch = \"{arch}\")]".toList =
        .guard (String.ofList (symbol.takeWhile (· ≠ ')'))) := by
      rw [hsymbol]
      rfl
    have hcode : read s!"use core::arch::{arch}::*;".toList = .code := by
      rw [hpath]
      rfl
    exact reads_import (((Heads.ofChars ['#'] _).append _).append _) hguarded (by decide)
      (.ofChars ['#', '[', 'a'] _) (by decide) (((Heads.ofChars ['u'] _).append _).append _) hcode
  have husing : ∀ line ∈ [Line.text 0 "use std::sync::OnceLock;", .text 0 "",
      .text 0 "#[allow(unused_imports)]",
      .text 0 "use crate::dispatch::\x7bis_aligned, resolve, Kernel, Variant\x7d;", .text 0 ""],
      Quiet line := by
    simp only [List.forall_mem_cons]
    refine ⟨quiet_code (by decide) (.ofChars ['u', 's', 'e'] _) fun _ => rfl, quiet_empty 0,
      quiet_attribute (by decide) (.ofChars ['#', '[', 'a'] _),
      quiet_code (by decide) (.ofChars ['u', 's', 'e'] _) fun _ => rfl, quiet_empty 0, ?_⟩
    exact fun _ hline => absurd hline List.not_mem_nil
  exact ((harch "x86").append (harch "x86_64")).append_quiet husing

lemma quiet_docLines (text : String) : ∀ line ∈ (Layout.docLines text).map (Line.text 0),
    Quiet line := by
  rw [List.forall_mem_map]
  exact fun content hcontent => quiet_doc (heads_docLines hcontent)

lemma reads_tierEnum : Reads (linesAt tierEnum 0) [⟨[], "Tier", []⟩] [] := by
  have hread : read (blockHead "pub enum Tier").toList = .definition "Tier" :=
    read_definition (fun _ => rfl) (.ofChars _ rfl) (by decide) (heads_parts "pub enum " "Tier" [' '] _)
  have hfirst : Heads ['p'] (blockHead "pub enum Tier") := .append (.ofChars ['p'] _) _
  have hbody : ∀ step ∈ Tier.all.map fun tier => Layout.Step.line s!"{tier.enumName},",
      IsQuiet step := by
    rw [List.forall_mem_map]
    intro tier _
    cases tier <;> exact ((Tame.ofChars rfl).append _).quiet
  have hblock := Reads.spacedBlock [] (reads_definition (by decide) hfirst hread) hbody
  have hderive : Quiet (.text 0 "#[derive(Debug, Clone, Copy, PartialEq, Eq, Hash)]") :=
    quiet_attribute (by decide) (.ofChars ['#', '[', 'd'] _)
  exact (reads_of_quiet (quiet_docLines _)).append (.cons_quiet hderive hblock)

/-- A block at the margin that defines nothing, like an implementation. -/
lemma reads_plainBlock {head : String} {body : List Layout.Step}
    (hhead : Quiet (.text 0 (blockHead head))) (hbody : ∀ step ∈ body, IsQuiet step) :
    Reads (linesAt [.block head "\x7d" body, .blank] 0) [] [] :=
  .spacedBlock [] (reads_of_quiet (List.forall_mem_singleton.mpr hhead)) hbody

lemma isQuiet_constMethod {signature : String} {body : List Layout.Step} :
    IsQuiet (constMethod signature body) :=
  ⟨(Tame.ofChars rfl).append _, .ofChars rfl⟩

lemma reads_tierMethods : Reads (linesAt tierMethods 0) [] [] := by
  have hlist : Quiet (.text 1 tierList) :=
    Tame.quiet (((((Tame.ofChars rfl).append _).append _).append _).append _)
  refine reads_plainBlock (quiet_code (by decide) (.append (.ofChars ['i'] _) _) fun _ => rfl) ?_
  simp only [List.forall_mem_cons]
  refine ⟨hlist, trivial, isQuiet_constMethod, trivial, isQuiet_constMethod, trivial, trivial,
    isQuiet_constMethod, trivial, trivial, isQuiet_constMethod, trivial, trivial, ?_, ?_, ?_⟩
  · exact quiet_innerAttribute (by decide) (.ofChars ['#', '[', 'a'] _)
  · exact ⟨.ofChars rfl, .ofChars rfl⟩
  · exact fun _ hstep => absurd hstep List.not_mem_nil

lemma reads_tierDisplay : Reads (linesAt tierDisplay 0) [] [] := by
  refine reads_plainBlock (quiet_code (by decide) (.append (.ofChars ['i'] _) _) fun _ => rfl) ?_
  rw [List.forall_mem_singleton]
  exact ⟨.ofChars rfl, .ofChars rfl⟩

/-- The prelude defines the enumeration of tiers. -/
lemma reads_prelude : Reads (linesAt prelude 0) [⟨[], "Tier", []⟩] [] := by
  rw [prelude, Layout.linesAt_append, Layout.linesAt_append, Layout.linesAt_append]
  exact ((reads_imports.append reads_tierEnum).append reads_tierMethods).append reads_tierDisplay

/-! ### Regions -/

/-- A region holds what its body holds. -/
lemma reads_region (name : String) {body : List Line} {definitions : List Definition}
    {regions : List String} (h : Reads body definitions regions) :
    Reads (.marker 0 (.opening name) :: (body ++ [.marker 0 .closing, .text 0 ""])) definitions
      (name :: regions) := by
  have hclose : ∀ line ∈ [Line.marker 0 .closing, .text 0 ""], Quiet line := by
    simp only [List.forall_mem_cons]
    exact ⟨quiet_closing, quiet_empty 0, fun _ hline => absurd hline List.not_mem_nil⟩
  exact (reads_opening name).append (h.append_quiet hclose)

/-! ### Whole texts -/

/-- The lines of a region. -/
def regionLines (name : String) (body : List Line) : List Line :=
  .marker 0 (.opening name) :: (body ++ [.marker 0 .closing, .text 0 ""])

/-- The lines before the first region. -/
def openingLines (artifact : Artifact) : List Line :=
  (Draft.Step.header about).linesOf artifact ++ if artifact = .kernels then linesAt prelude 0 else []

/-- The lines of an operation outside of its cells. -/
def chapterLines (op : ArithOp) (artifact : Artifact) : List Line :=
  if artifact = .traits then linesAt (traitSteps op ++ macroSteps op) 0 else []

/-- The lines of a cell. -/
def cellLines (cell : Cell) : Artifact → List Line
  | .kernels => linesAt ((cellItems cell).flatMap Item.steps) 0
  | .traits => linesAt (implSteps cell.op cell.type) 0
  | .arrays => linesAt (arraySteps cell.op cell.type) 0

lemma linesOf_cellStep (cell : Cell) (artifact : Artifact) :
    (cellStep cell).linesOf artifact =
      regionLines (cellRegion cell.op cell.type) (cellLines cell artifact) := by
  cases artifact <;>
    simp only [cellStep, regionLines, cellLines, Draft.Step.linesOf, Draft.linesOf, if_true, if_false,
      reduceCtorEq, List.append_nil, List.nil_append]

lemma linesOf_chapterStep (chapter : Chapter) (artifact : Artifact) :
    (chapterStep chapter).linesOf artifact =
      regionLines chapter.op.name (chapterLines chapter.op artifact ++ chapter.cells.flatMap fun cell =>
        regionLines (cellRegion cell.op cell.type) (cellLines cell artifact)) := by
  simp only [chapterStep, regionLines, chapterLines, Draft.Step.linesOf, Draft.linesOf,
    Draft.linesOf_map, linesOf_cellStep]

/-- A text is its opening and the regions of its operations, in which those of its cells stand. -/
lemma libraryLines_eq (chapters : List Chapter) (artifact : Artifact) :
    libraryLines chapters artifact = openingLines artifact ++ chapters.flatMap fun chapter =>
      regionLines chapter.op.name (chapterLines chapter.op artifact ++ chapter.cells.flatMap fun cell =>
        regionLines (cellRegion cell.op cell.type) (cellLines cell artifact)) := by
  rw [libraryLines, librarySteps, Draft.linesOf_append, Draft.linesOf_map]
  simp only [linesOf_chapterStep, Draft.linesOf, Draft.Step.linesOf, openingLines, List.append_nil]

/-- The names of the regions of a plan, in the order of the text. -/
def regionNames (chapters : List Chapter) : List String :=
  chapters.flatMap fun chapter =>
    chapter.op.name :: chapter.cells.map fun cell => cellRegion cell.op cell.type

/-- A text holds what its opening and its cells hold. -/
lemma survey_libraryTexts {chapters : List Chapter} (artifact : Artifact) {first : List Definition}
    {definitions : Cell → List Definition}
    (hlines : ∀ routine ∈ plannedRoutines chapters, routine.OneLine)
    (hopening : Reads (openingLines artifact) first []) (hchapter : ∀ op, chapterLines op artifact = [])
    (hcell : ∀ cell, Reads (cellLines cell artifact) (definitions cell) []) :
    survey ((libraryTexts chapters).get artifact) =
      ⟨first ++ (plannedCells chapters).flatMap definitions, regionNames chapters, [], []⟩ := by
  have hregions : Reads (libraryLines chapters artifact)
      (first ++ (plannedCells chapters).flatMap definitions) (regionNames chapters) := by
    rw [libraryLines_eq, plannedCells, List.flatMap_assoc]
    refine hopening.append (reads_flatMap fun chapter _ => reads_region _ ?_)
    rw [hchapter, List.nil_append, List.map_eq_flatMap]
    exact reads_flatMap fun cell _ => reads_region _ (hcell cell)
  rw [survey, textLines_libraryTexts hlines, Survey.take_append, hregions _ ⟨rfl, rfl⟩,
    Survey.take_cons]
  rfl

/-- The header is made of comments. -/
lemma reads_header (artifact : Artifact) :
    Reads ((Draft.Step.header about).linesOf artifact) [] [] := by
  have habout : Quiet (.text 0 (Layout.commentLine (about.get artifact))) := by
    cases artifact with
    | kernels => exact quiet_comment (c := 'E') (by decide) (.comment (.ofChars ['E'] _))
    | traits => exact quiet_comment (c := 'P') (by decide) (.comment (.ofChars ['P'] _))
    | arrays => exact quiet_comment (c := 'F') (by decide) (.comment (.ofChars ['F'] _))
  have hnotice : Quiet (.text 0 Draft.notice) :=
    quiet_comment (by decide) (.ofChars ['/', '/', ' ', '@'] _)
  refine reads_of_quiet ?_
  simp only [Draft.Step.linesOf, List.forall_mem_cons]
  exact ⟨hnotice, habout, quiet_empty 0, fun _ hline => absurd hline List.not_mem_nil⟩

/-- The kernel text opens with the tiers. -/
lemma reads_opening_kernels : Reads (openingLines .kernels) [⟨[], "Tier", []⟩] [] :=
  (reads_header .kernels).append reads_prelude

lemma reads_opening_arrays : Reads (openingLines .arrays) [] [] :=
  (reads_header .arrays).append reads_nil

/-- The definitions of a cell are those of its items. -/
lemma reads_cell_kernels (cell : Cell) :
    Reads (cellLines cell .kernels) ((cellItems cell).map Item.definition) [] := by
  have hitems := reads_flatMap fun (item : Item) (_ : item ∈ cellItems cell) => reads_steps item
  rw [← List.map_eq_flatMap, List.flatMap_eq_nil_iff.mpr fun _ _ => rfl] at hitems
  rw [cellLines, Layout.linesAt_flatMap]
  exact hitems

/-- A cell has one function for arrays. -/
lemma reads_cell_arrays (cell : Cell) :
    Reads (cellLines cell .arrays) [⟨[], arrayName cell.op cell.type, []⟩] [] := by
  obtain ⟨op, type, -⟩ := cell
  rw [cellLines]
  refine .documented ?_ ?_
  · exact ((((Heads.ofChars ['/', '/', '/'] _).append _).append _).append _).append _
  rw [linesAt, linesAt, List.append_nil]
  refine .block [] (reads_function (isName_arrayName op type) (c := '<') (by decide) ?_) ?_
  · exact (((((((heads_parts "pub fn " (arrayName op type) ['<'] _).append _).append _).append
      _).append _).append _).append _).append _
  · simp only [List.forall_mem_cons]
    refine ⟨quiet_text rfl, Tame.quiet ?_, fun _ hstep => absurd hstep List.not_mem_nil⟩
    exact ((Tame.ofChars rfl).append _).append _

section

variable {chapters : List Chapter}
  (hlines : ∀ routine ∈ plannedRoutines chapters, routine.OneLine)

include hlines

/-- The kernel text defines the tiers and the items of its cells. -/
lemma survey_kernels : survey ((libraryTexts chapters).get .kernels) =
    ⟨⟨[], "Tier", []⟩ :: (plannedCells chapters).flatMap fun cell =>
        (cellItems cell).map Item.definition,
      regionNames chapters, [], []⟩ :=
  survey_libraryTexts _ hlines reads_opening_kernels (fun _ => rfl) reads_cell_kernels

/-- The array text defines one function for each cell. -/
lemma survey_arrays : survey ((libraryTexts chapters).get .arrays) =
    ⟨(plannedCells chapters).map fun cell => ⟨[], arrayName cell.op cell.type, []⟩,
      regionNames chapters, [], []⟩ := by
  rw [List.map_eq_flatMap]
  exact survey_libraryTexts _ hlines reads_opening_arrays (fun _ => rfl) reads_cell_arrays

end

end Inventory

end LaneKernels
