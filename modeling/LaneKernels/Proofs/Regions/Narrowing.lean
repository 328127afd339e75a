import Mathlib.Tactic
import LaneKernels.Proofs.Generation.AllOrNothing
import LaneKernels.Proofs.Inventory.Definitions
import LaneKernels.Proofs.Regions.Locality

/-!
Selecting fewer tiers.

* A `Stretch` is a part of the kernel text that is there for one tier of one cell, or always. The kernel
  text of a recipe is made of its stretches (`textLines_stretches`).
* A cell that is selected owns two of them, its definition and its entry in the list of variants
  (`filter_owner`), and a cell that is not selected owns none.
* `generate_narrowed`: with fewer tiers selected, the text is made of the same stretches without those
  of the tiers that are not selected any more. Nothing else in it changes.
-/

namespace LaneKernels

open Layout (Line linesAt)
open Inventory (regionLines openingLines cellLines heads_guardLine)
open Source

/-- The lines of a text that a written line becomes. A line feed in it makes more than one of it. -/
def Layout.Line.textLines (line : Line) : List String :=
  Region.textLines line.written

/-- A part of the kernel text. -/
structure Stretch where
  /-- The tier, operation and type that it is there for, if it is not there always. -/
  owner : Option Capabilities.Cell
  lines : List String

namespace Stretch

/-- The stretch of some written lines. -/
def ofLines (owner : Option Capabilities.Cell) (lines : List Line) : Stretch :=
  ⟨owner, lines.flatMap Line.textLines⟩

/-- Whether the stretch is there when some tiers are selected. -/
def isFor (tiers : TierSet) (stretch : Stretch) : Bool :=
  stretch.owner.all fun cell => tiers.contains cell.tier

end Stretch

namespace Source

/-- The definition of the kernel that a table describes for a cell. -/
def definitionStretch (table : BindingTable) (cell : Capabilities.Cell) : Stretch :=
  .ofLines (some cell) (linesAt (routineSteps (table.routine cell.op cell.type cell.tier)) 0)

/-- The entry of a cell in the list of variants. -/
def entryStretch (cell : Capabilities.Cell) : Stretch :=
  .ofLines (some cell) (linesAt (variantEntry cell.op cell.type cell.tier) 1)

/-- The lines of the list of variants before its entries. -/
def variantsOpening (op : ArithOp) (type : ElementType) : List Line :=
  (linesAt (variantsSteps op type []) 0).take 4

/-- The lines of the list of variants behind its entries. -/
def variantsClosing (op : ArithOp) (type : ElementType) : List Line :=
  (linesAt (variantsSteps op type []) 0).drop 4

lemma linesAt_variantsSteps (op : ArithOp) (type : ElementType) (tiers : List Tier) :
    linesAt (variantsSteps op type tiers) 0 = variantsOpening op type ++
      (tiers.flatMap (fun tier => linesAt (variantEntry op type tier) 1) ++
        variantsClosing op type) := by
  simp only [variantsOpening, variantsClosing, variantsSteps, linesAt, Layout.Step.linesAt,
    Layout.linesAt_append, Layout.linesAt_flatMap, List.cons_append, List.nil_append,
    List.take_succ_cons, List.drop_succ_cons, List.append_assoc, List.flatMap_nil]
  rfl

end Source

namespace Recipe

variable {recipe : Recipe}

/-- The recipe with other tiers selected. -/
def select (recipe : Recipe) (tiers : TierSet) : Recipe :=
  { recipe with tiers }

/-- The stretches of a cell, from the marker that opens its region to the one that closes it. -/
def cellStretches (recipe : Recipe) (op : ArithOp) (type : ElementType) : List Stretch :=
  let cells := (recipe.acceleratedTiers op type).map fun tier => Capabilities.Cell.mk tier op type
  [.ofLines none (.marker 0 (.opening (cellRegion op type)) :: linesAt (defaultSteps op type) 0)] ++
    cells.map (definitionStretch recipe.table) ++
    [.ofLines none (variantsOpening op type)] ++ cells.map entryStretch ++
    [.ofLines none (variantsClosing op type ++ linesAt (dispatcherSteps op type) 0 ++
      [.marker 0 .closing, .text 0 ""])]

/-- The stretches of the kernel text. -/
def stretches (recipe : Recipe) : List Stretch :=
  .ofLines none (openingLines .kernels) :: ArithOp.all.flatMap fun op =>
    .ofLines none [.marker 0 (.opening op.name)] ::
      (ElementType.emitted.flatMap (recipe.cellStretches op) ++
        [.ofLines none [.marker 0 .closing, .text 0 ""]])

/-- The lines of a cell are those of its scalar kernel, its accelerated kernels, their list and the
kernel that picks. -/
lemma cellLines_kernels (recipe : Recipe) (op : ArithOp) (type : ElementType) :
    cellLines (recipe.cell op type) .kernels =
      linesAt (defaultSteps op type) 0 ++
      ((recipe.acceleratedTiers op type).flatMap fun tier =>
        linesAt (routineSteps (recipe.table.routine op type tier)) 0) ++
      linesAt (variantsSteps op type (recipe.acceleratedTiers op type)) 0 ++
      linesAt (dispatcherSteps op type) 0 := by
  have htiers : (recipe.cell op type).routines.map (·.tier) = recipe.acceleratedTiers op type := by
    rw [cell, List.map_map]
    exact List.map_id _
  rw [cellLines, cellItems, htiers, cell]
  simp [Layout.linesAt_append, Layout.linesAt_flatMap, List.flatMap_map, Item.steps]

lemma lines_cellStretches (recipe : Recipe) (op : ArithOp) (type : ElementType) :
    (recipe.cellStretches op type).flatMap Stretch.lines =
      (regionLines (cellRegion op type) (cellLines (recipe.cell op type) .kernels)).flatMap
        Line.textLines := by
  rw [cellLines_kernels, linesAt_variantsSteps]
  simp only [cellStretches, regionLines, Stretch.ofLines, definitionStretch, entryStretch,
    List.flatMap_append, List.flatMap_cons, List.flatMap_nil, List.flatMap_map, List.flatMap_assoc,
    List.append_assoc, List.append_nil, List.cons_append, List.nil_append]

/-- The kernel text is made of its stretches. -/
lemma textLines_stretches (recipe : Recipe) :
    Region.textLines ((libraryTexts recipe.chapters).get .kernels) =
      recipe.stretches.flatMap Stretch.lines ++ [""] := by
  rw [get_libraryTexts, Layout.textLines_text_eq_flatMap, Layout.Buffer.writtenLines, List.flatMap_map]
  · show (libraryLines recipe.chapters .kernels).flatMap Line.textLines ++ [""] = _
    rw [libraryLines_chapters]
    simp only [stretches, List.flatMap_append, List.flatMap_cons, List.flatMap_nil, List.flatMap_assoc,
      regionLines, Stretch.ofLines, List.append_assoc, List.append_nil, lines_cellStretches]
    rfl
  · rw [Layout.Buffer.writtenLines, ne_eq, List.map_eq_nil_iff]
    exact libraryLines_ne_nil _ _

/-! ### Fewer tiers -/

variable {fewer : TierSet} {cell : Capabilities.Cell}

@[simp] lemma isFor_always (tiers : TierSet) (lines : List Line) :
    (Stretch.ofLines none lines).isFor tiers = true := rfl

lemma acceleratedTiers_select
    (h : ∀ tier, fewer.contains tier = true → recipe.tiers.contains tier = true)
    (op : ArithOp) (type : ElementType) :
    (recipe.select fewer).acceleratedTiers op type =
      (recipe.acceleratedTiers op type).filter fewer.contains := by
  rw [acceleratedTiers, acceleratedTiers, List.filter_filter]
  refine List.filter_congr fun tier _ => ?_
  rw [select, Bool.eq_iff_iff, Bool.and_eq_true]
  exact ⟨fun hfewer => ⟨hfewer, h tier hfewer⟩, fun hboth => hboth.1⟩

/-- The stretches for fewer tiers are those that are for one of these tiers or for all. -/
lemma stretches_select (h : ∀ tier, fewer.contains tier = true → recipe.tiers.contains tier = true) :
    (recipe.select fewer).stretches = recipe.stretches.filter (Stretch.isFor fewer) := by
  have hcells : ∀ op, (recipe.select fewer).cellStretches op =
      fun type => (recipe.cellStretches op type).filter (Stretch.isFor fewer) := by
    intro op
    funext type
    simp only [cellStretches, acceleratedTiers_select h, List.filter_append, List.filter_cons,
      List.filter_nil, List.filter_map, isFor_always, if_true]
    rfl
  simp only [stretches, List.filter_cons, isFor_always, if_true, List.filter_flatMap,
    List.filter_append, List.filter_nil, hcells]

/-! ### What a cell owns -/

/-- Of the lists that are put together, only that of one member is not empty. -/
lemma flatMap_eq_of_nodup {α β : Type} {f : α → List β} {x : α} {xs : List α} (hnodup : xs.Nodup)
    (hx : x ∈ xs) (hother : ∀ y ∈ xs, y ≠ x → f y = []) : xs.flatMap f = f x := by
  induction xs with
  | nil => exact absurd hx List.not_mem_nil
  | cons y ys ih =>
      rw [List.nodup_cons] at hnodup
      rw [List.forall_mem_cons] at hother
      rw [List.flatMap_cons]
      obtain rfl | hmem := List.mem_cons.mp hx
      · have hrest : ys.flatMap f = [] := List.flatMap_eq_nil_iff.mpr fun y hy =>
          hother.2 y hy fun heq => hnodup.1 (heq ▸ hy)
        rw [hrest, List.append_nil]
      · have hne : y ≠ x := fun heq => hnodup.1 (heq ▸ hmem)
        rw [hother.1 hne, List.nil_append, ih hnodup.2 hmem hother.2]

/-- Of stretches that are there for one cell each, those of a given cell. -/
lemma filter_map_owner {stretch : Capabilities.Cell → Stretch} {cells : List Capabilities.Cell}
    (howner : ∀ c, (stretch c).owner = some c) (hnodup : cells.Nodup) (cell : Capabilities.Cell) :
    (cells.map stretch).filter (·.owner = some cell) =
      if cell ∈ cells then [stretch cell] else [] := by
  have hsame : (fun s : Stretch => decide (s.owner = some cell)) ∘ stretch = fun c => c == cell := by
    funext c
    rw [Bool.eq_iff_iff]
    simp [howner]
  rw [List.filter_map, hsame, List.filter_beq]
  split
  · next hmem =>
      rw [List.count_eq_one_of_mem hnodup hmem]
      rfl
  · next hmem =>
      rw [List.count_eq_zero_of_not_mem hmem]
      rfl

lemma filter_cellStretches (recipe : Recipe) (op : ArithOp) (type : ElementType)
    (cell : Capabilities.Cell) :
    (recipe.cellStretches op type).filter (·.owner = some cell) =
      if cell.op = op ∧ cell.type = type ∧ cell.tier ∈ recipe.acceleratedTiers op type then
        [definitionStretch recipe.table cell, entryStretch cell] else [] := by
  have hmem : cell ∈ (recipe.acceleratedTiers op type).map (Capabilities.Cell.mk · op type) ↔
      cell.op = op ∧ cell.type = type ∧ cell.tier ∈ recipe.acceleratedTiers op type := by
    obtain ⟨tier, cellOp, cellType⟩ := cell
    simp only [List.mem_map, Capabilities.Cell.mk.injEq]
    constructor
    · rintro ⟨_, htier, rfl, rfl, rfl⟩
      exact ⟨rfl, rfl, htier⟩
    · rintro ⟨rfl, rfl, htier⟩
      exact ⟨tier, htier, rfl, rfl, rfl⟩
  have hnodup : ((recipe.acceleratedTiers op type).map (Capabilities.Cell.mk · op type)).Nodup :=
    (nodup_acceleratedTiers recipe op type).map fun _ _ h => (Capabilities.Cell.mk.inj h).1
  have hnone : ∀ lines, [Stretch.ofLines none lines].filter (·.owner = some cell) = [] := fun _ => rfl
  have hdefinition : ∀ c, (definitionStretch recipe.table c).owner = some c := fun c => rfl
  have hdefinitions := filter_map_owner hdefinition hnodup cell
  have hentries := filter_map_owner (fun c => rfl : ∀ c, (entryStretch c).owner = _) hnodup cell
  simp only [cellStretches, List.filter_append, hnone, hdefinitions, hentries, hmem]
  split <;> rfl

/-- A selected cell owns its definition and its entry, and any other cell owns nothing. -/
lemma filter_owner (recipe : Recipe) (cell : Capabilities.Cell) :
    recipe.stretches.filter (·.owner = some cell) =
      if cell.type.reserved = false ∧ cell.tier ∈ recipe.acceleratedTiers cell.op cell.type then
        [definitionStretch recipe.table cell, entryStretch cell] else [] := by
  have hsplit : recipe.stretches.filter (·.owner = some cell) = ArithOp.all.flatMap fun op =>
      ElementType.emitted.flatMap fun type =>
        (recipe.cellStretches op type).filter (·.owner = some cell) := by
    have hnone : ∀ lines, ¬(Stretch.ofLines none lines).owner = some cell := fun _ h => by cases h
    simp [stretches, List.filter_flatMap, hnone]
  have hops : ArithOp.all.Nodup := by decide
  have htypes : ElementType.emitted.Nodup := by decide
  rw [hsplit, flatMap_eq_of_nodup hops cell.op.mem_all fun op _ hop => ?_]
  · by_cases hreserved : cell.type.reserved = false
    · have htype : cell.type ∈ ElementType.emitted := ElementType.mem_emitted.mpr hreserved
      rw [flatMap_eq_of_nodup htypes htype fun type _ hne => ?_, filter_cellStretches]
      · simp only [hreserved, true_and]
      · rw [filter_cellStretches, if_neg fun h => hne h.2.1.symm]
    · rw [if_neg fun h => hreserved h.1, List.flatMap_eq_nil_iff]
      intro type htype
      rw [filter_cellStretches, if_neg]
      rintro ⟨-, rfl, -⟩
      exact hreserved (ElementType.mem_emitted.mp htype)
  · refine List.flatMap_eq_nil_iff.mpr fun type _ => ?_
    rw [filter_cellStretches, if_neg fun h => hop h.1.symm]

/-- The line with which the definition of an accelerated kernel begins. -/
def definitionDoc (cell : Capabilities.Cell) : String :=
  s!"/// `{cell.op.name}` over `{cell.type.shortName}`, {cell.tier.lanes cell.type} lanes per step on the {cell.tier.name} tier."

lemma oneLine_definitionDoc (cell : Capabilities.Cell) : OneLine (definitionDoc cell) := by
  simp only [definitionDoc, oneLine_append, toString, oneLine_repr, ArithOp.oneLine_name,
    ElementType.oneLine_shortName, Tier.oneLine_name, and_true]
  and_intros <;> exact .ofChars _ rfl

/-- A definition goes from its documentation to the blank line behind it. -/
lemma lines_definitionStretch (h : recipe.table.Covers cell.tier cell.op cell.type) :
    ∃ body, (definitionStretch recipe.table cell).lines = definitionDoc cell :: (body ++ [""]) := by
  have hshape : ∀ (first second third last : Layout.Step) (steps : List Layout.Step),
      [first, second] ++ steps ++ [third, last] =
        first :: (second :: (steps ++ [third]) ++ [last]) := by
    simp
  obtain ⟨rest, hrest⟩ : ∃ rest, routineSteps (recipe.table.routine cell.op cell.type cell.tier) =
      .line (definitionDoc cell) :: (rest ++ [.blank]) := by
    rw [routineSteps, h.stride_routine]
    exact ⟨_, hshape _ _ _ _ _⟩
  have hdoc : (Line.text 0 (definitionDoc cell)).textLines = [definitionDoc cell] := by
    rw [Line.textLines, Region.written_margin, Layout.textLines_of_oneLine (oneLine_definitionDoc cell)]
  refine ⟨(linesAt rest 0).flatMap Line.textLines, ?_⟩
  rw [definitionStretch, Stretch.ofLines, hrest, linesAt, Layout.Step.linesAt, List.singleton_append,
    List.flatMap_cons, hdoc, Layout.linesAt_append, List.flatMap_append]
  rfl

/-- The line that puts an accelerated kernel into the list of variants. -/
def entryLine (cell : Capabilities.Cell) : String :=
  s!"variants.push(Variant::new({tierPath cell.tier}, {routineName cell.op cell.type cell.tier}));"

lemma written_of_heads {c : Char} {chars : List Char} {content : String} (level : ℕ)
    (h : Heads (c :: chars) content) :
    (Line.text level content).written = Layout.margin level ++ content := by
  obtain ⟨rest, hrest⟩ := h
  rw [Line.written, if_neg]
  rw [String.isEmpty_iff]
  rintro rfl
  cases hrest

/-- An entry is two lines. -/
lemma lines_entryStretch (cell : Capabilities.Cell) :
    (entryStretch cell).lines = ["    " ++ guardLine cell.tier, "    " ++ entryLine cell] := by
  have hlines : linesAt (variantEntry cell.op cell.type cell.tier) 1 =
      [.text 1 (guardLine cell.tier), .text 1 (entryLine cell)] := rfl
  have hone : ∀ line ∈ linesAt (variantEntry cell.op cell.type cell.tier) 1,
      line.textLines = [line.written] := fun line hline =>
    Layout.textLines_of_oneLine (Line.oneLine_written
      (Layout.oneLine_linesAt _ _ (areOneLine_variantEntry cell.op cell.type cell.tier) line hline))
  have hmargin : Layout.margin 1 = "    " := by decide
  have hentry : Heads ['v'] (entryLine cell) :=
    ((((Heads.ofChars ['v'] _).append _).append _).append _).append _
  rw [entryStretch, Stretch.ofLines, List.flatMap_congr hone, hlines, List.flatMap_cons,
    List.flatMap_singleton, written_of_heads 1 (heads_guardLine cell.tier), written_of_heads 1 hentry, hmargin]
  rfl

/-- Selecting fewer tiers only deletes lines. Of each operation on each type that is not reserved, and
of each supported tier that is selected no more, the definition of the kernel is deleted, from its
documentation to the blank line behind it, and the two lines of its entry in the list of variants. All
other lines are kept, in their order and unchanged. -/
theorem generate_narrowed (h : recipe.table.check recipe.capabilities = .ok ())
    (hfewer : ∀ tier, fewer.contains tier = true → recipe.tiers.contains tier = true) :
    ∃ texts texts' log log', ∃ stretches : List Stretch, recipe.generate = (.ok texts, log) ∧
      (recipe.select fewer).generate = (.ok texts', log') ∧
      Region.textLines texts.kernels = stretches.flatMap Stretch.lines ++ [""] ∧
      Region.textLines texts'.kernels =
        (stretches.filter (Stretch.isFor fewer)).flatMap Stretch.lines ++ [""] ∧
      ∀ cell : Capabilities.Cell,
        (¬(cell.type.reserved = false ∧
            recipe.capabilities.supports cell.tier cell.op cell.type = true ∧
            recipe.tiers.contains cell.tier = true) →
          stretches.filter (·.owner = some cell) = []) ∧
        (cell.type.reserved = false → recipe.capabilities.supports cell.tier cell.op cell.type = true →
          recipe.tiers.contains cell.tier = true →
          ∃ body, stretches.filter (·.owner = some cell) =
              [definitionStretch recipe.table cell, entryStretch cell] ∧
            (definitionStretch recipe.table cell).lines = definitionDoc cell :: (body ++ [""]) ∧
            (entryStretch cell).lines = ["    " ++ guardLine cell.tier, "    " ++ entryLine cell]) := by
  refine ⟨_, _, _, _, recipe.stretches, generate_of_check h, generate_of_check h,
    textLines_stretches recipe, ?_, fun cell => ⟨fun hcell => ?_, fun htype hsupported hselected => ?_⟩⟩
  · rw [← stretches_select hfewer]
    exact textLines_stretches _
  · rw [filter_owner, if_neg]
    rwa [mem_acceleratedTiers]
  · obtain ⟨body, hbody⟩ := lines_definitionStretch
      (BindingTable.check_eq_ok_iff.mp h cell.tier cell.op cell.type hsupported)
    refine ⟨body, ?_, hbody, lines_entryStretch cell⟩
    rw [filter_owner, if_pos]
    exact ⟨htype, mem_acceleratedTiers.mpr ⟨hsupported, hselected⟩⟩

/-- With two of the shipped tiers, the sum of 32 bits on another tier is deleted. -/
theorem generate_narrowed_shipped :
    ∃ texts texts' log log', ∃ stretches : List Stretch, ∃ body,
      (shipped .full).generate = (.ok texts, log) ∧
      ((shipped .full).select (.ofList [.sse, .avx])).generate = (.ok texts', log') ∧
      Region.textLines texts.kernels = stretches.flatMap Stretch.lines ++ [""] ∧
      Region.textLines texts'.kernels =
        (stretches.filter (Stretch.isFor (.ofList [.sse, .avx]))).flatMap Stretch.lines ++ [""] ∧
      stretches.filter (·.owner = some ⟨.avx2, .add, .int32⟩) =
        [⟨some ⟨.avx2, .add, .int32⟩,
            "/// `add` over `i32`, 8 lanes per step on the avx2 tier." :: (body ++ [""])⟩,
          ⟨some ⟨.avx2, .add, .int32⟩, ["    #[cfg(lanewise_avx2)]",
            "    variants.push(Variant::new(Tier::Avx2, add_i32_avx2));"]⟩] := by
  obtain ⟨texts, texts', log, log', stretches, hfull, htwo, htext, htext', hcells⟩ :=
    @generate_narrowed (shipped .full) (.ofList [.sse, .avx]) BindingTable.check_shipped fun _ _ => rfl
  obtain ⟨body, howned, hdefinition, hentry⟩ := (hcells ⟨.avx2, .add, .int32⟩).2 rfl (by decide) rfl
  refine ⟨texts, texts', log, log', stretches, body, hfull, htwo, htext, htext', ?_⟩
  have hdoc : definitionDoc ⟨.avx2, .add, .int32⟩ =
      "/// `add` over `i32`, 8 lanes per step on the avx2 tier." := by decide +kernel
  have hlines : ["    " ++ guardLine .avx2, "    " ++ entryLine ⟨.avx2, .add, .int32⟩] =
      ["    #[cfg(lanewise_avx2)]", "    variants.push(Variant::new(Tier::Avx2, add_i32_avx2));"] := by
    decide +kernel
  rw [howned, ← hdoc, ← hlines, ← hdefinition, ← hentry]
  rfl

end Recipe

end LaneKernels
