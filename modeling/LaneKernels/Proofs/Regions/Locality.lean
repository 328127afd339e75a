import Mathlib.Tactic
import LaneKernels.Proofs.Generation.Agreement
import LaneKernels.Proofs.Generation.AllOrNothing
import LaneKernels.Proofs.Regions.Bodies

/-!
What the regions of the generated texts depend on.

* All texts have the same markers (`markersIn_libraryLines`), and no line beside them looks like one
  (`evident_libraryLines`).
* Only the kernel text depends on the recipe (`libraryLines_eq_of_ne`), and of it only the bodies of the
  regions of cells (`outside_kernels`).
* The body of such a region is made of the kernels of its cell (`section?_kernels`).
* `generate_local`: two recipes that select the same tiers for an operation on a type, with tables that
  agree for these tiers, generate the same lines for it, whatever else they have.
-/

namespace LaneKernels

open Layout (Line linesAt blockHead)
open Inventory Source Region

namespace Source

/-! ### What stands in regions and around them is no marker -/

lemma startsBare_text {c : Char} {rest : List Char} (hc : c ≠ '/') :
    StartsBare (.line (String.ofList (c :: rest))) :=
  .of_first hc (.ofChars [c] rest)

/-- A block that begins with a signature. -/
lemma startsBare_kernel (name : String) (type : ElementType) (body : List Layout.Step) :
    StartsBare (.block (signature name type) "\x7d" body) :=
  ⟨.of_first (by decide) (heads_signature name type), .of_first (by decide) (.ofChars ['\x7d'] _)⟩

lemma startsBare_defaultSteps (op : ArithOp) (type : ElementType) :
    ∀ step ∈ defaultSteps op type, StartsBare step := by
  simp only [defaultSteps, List.forall_mem_cons]
  refine ⟨.of_doc ?_, .of_doc (.ofChars _ _), .of_doc (.ofChars _ _), .of_doc (.ofChars _ _),
    .of_doc (.ofChars _ _), startsBare_kernel _ _ _, trivial, fun _ hstep => absurd hstep List.not_mem_nil⟩
  exact ((((Heads.ofChars ['/', '/', '/'] _).append _).append _).append _).append _

lemma startsBare_dispatcherSteps (op : ArithOp) (type : ElementType) :
    ∀ step ∈ dispatcherSteps op type, StartsBare step := by
  simp only [dispatcherSteps, List.forall_mem_cons]
  refine ⟨.of_doc ?_, .of_doc (.ofChars _ _), .of_doc (.ofChars _ _), .of_doc (.ofChars _ _),
    .of_doc ?_, startsBare_kernel _ _ _, trivial, fun _ hstep => absurd hstep List.not_mem_nil⟩
  · exact ((((Heads.ofChars ['/', '/', '/'] _).append _).append _).append _).append _
  · exact ((Heads.ofChars ['/', '/', '/'] _).append _).append _

lemma startsBare_variantsSteps (op : ArithOp) (type : ElementType) (tiers : List Tier) :
    ∀ step ∈ variantsSteps op type tiers, StartsBare step := by
  simp only [variantsSteps, List.forall_mem_cons]
  refine ⟨.of_doc ?_, .of_first (by decide) (.ofChars ['#'] _), ⟨?_, ?_⟩, trivial,
    fun _ hstep => absurd hstep List.not_mem_nil⟩
  · exact ((((Heads.ofChars ['/', '/', '/'] _).append _).append _).append _).append _
  · exact .of_first (by decide) ((((((Heads.ofChars ['p'] _).append _).append _).append _).append
      _).append _)
  · exact .of_first (by decide) (.ofChars ['\x7d'] _)

lemma startsBare_routineSteps (routine : Routine) :
    ∀ step ∈ routineSteps routine, StartsBare step := by
  have hfeature : ∀ step ∈ (routine.tier.targetFeature?.map fun feature =>
      Layout.Step.line s!"#[target_feature(enable = \"{feature}\")]").toList, StartsBare step := by
    intro step hstep
    obtain ⟨feature, -, rfl⟩ := Option.map_eq_some_iff.mp (Option.mem_toList.mp hstep)
    exact .of_first (by decide) (((Heads.ofChars ['#'] _).append _).append _)
  simp only [routineSteps, List.forall_mem_append, List.forall_mem_cons]
  refine ⟨⟨⟨.of_doc ?_, .of_first (by decide) (heads_guardLine routine.tier), ?_⟩, hfeature⟩,
    startsBare_kernel _ _ _, trivial, ?_⟩
  · exact ((((((((Heads.ofChars ['/', '/', '/'] _).append _).append _).append _).append _).append
      _).append _).append _).append _
  · exact fun _ hstep => absurd hstep List.not_mem_nil
  · exact fun _ hstep => absurd hstep List.not_mem_nil

lemma startsBare_steps (item : Item) : ∀ step ∈ item.steps, StartsBare step := by
  cases item with
  | default op type => exact startsBare_defaultSteps op type
  | routine routine => exact startsBare_routineSteps routine
  | variants op type tiers => exact startsBare_variantsSteps op type tiers
  | dispatcher op type => exact startsBare_dispatcherSteps op type

/-- A block that begins like code. -/
lemma startsBare_braced {c : Char} {head : String} (hc : c ≠ '/') (h : Heads [c] head)
    (body : List Layout.Step) : StartsBare (.block head "\x7d" body) :=
  ⟨.of_first hc (h.append _), .of_first (by decide) (.ofChars ['\x7d'] _)⟩

lemma startsBare_implSteps (op : ArithOp) (type : ElementType) :
    ∀ step ∈ implSteps op type, StartsBare step := by
  rw [implSteps, List.forall_mem_singleton]
  exact startsBare_braced (c := 'i') (by decide) ((((Heads.ofChars ['i'] _).append _).append _).append _) _

lemma startsBare_arraySteps (op : ArithOp) (type : ElementType) :
    ∀ step ∈ arraySteps op type, StartsBare step := by
  simp only [arraySteps, List.forall_mem_cons]
  refine ⟨.of_doc ?_, startsBare_braced (c := 'p') (by decide) ?_ _,
    fun _ hstep => absurd hstep List.not_mem_nil⟩
  · exact ((((Heads.ofChars ['/', '/', '/'] _).append _).append _).append _).append _
  · exact ((((((((Heads.ofChars ['p'] _).append _).append _).append _).append _).append _).append
      _).append _).append _

/-- The body of the region of a cell has no marker in it. -/
lemma bare_cellLines (cell : Cell) (artifact : Artifact) :
    ∀ line ∈ cellLines cell artifact, Bare line.written := by
  cases artifact with
  | kernels =>
      refine bare_linesAt ?_
      rw [List.forall_mem_flatMap]
      exact fun item _ => startsBare_steps item
  | traits => exact bare_linesAt (startsBare_implSteps cell.op cell.type)
  | arrays => exact bare_linesAt (startsBare_arraySteps cell.op cell.type)

lemma startsBare_traitSteps (op : ArithOp) : ∀ step ∈ traitSteps op, StartsBare step := by
  simp only [traitSteps, List.forall_mem_cons]
  refine ⟨.of_doc ?_, .of_doc (.ofChars _ _), .of_doc (.ofChars _ _),
    startsBare_braced (c := 'p') (by decide) ?_ _, trivial, fun _ hstep => absurd hstep List.not_mem_nil⟩
  · exact ((((Heads.ofChars ['/', '/', '/'] _).append _).append _).append _).append _
  · exact ((Heads.ofChars ['p'] _).append _).append _

lemma startsBare_macroSteps (op : ArithOp) : ∀ step ∈ macroSteps op, StartsBare step := by
  simp only [macroSteps, List.forall_mem_cons]
  refine ⟨.of_doc ?_, startsBare_text (by decide), startsBare_braced (c := 'm') (by decide) ?_ _, trivial,
    fun _ hstep => absurd hstep List.not_mem_nil⟩
  · exact ((((Heads.ofChars ['/', '/', '/'] _).append _).append _).append _).append _
  · exact (Heads.ofChars ['m'] _).append _

lemma bare_chapterLines (op : ArithOp) (artifact : Artifact) :
    ∀ line ∈ chapterLines op artifact, Bare line.written := by
  rw [chapterLines]
  split
  · refine bare_linesAt ?_
    rw [List.forall_mem_append]
    exact ⟨startsBare_traitSteps op, startsBare_macroSteps op⟩
  · exact fun line hline => absurd hline List.not_mem_nil

lemma startsBare_imports : ∀ step ∈ imports, StartsBare step := by
  have harch : ∀ arch : String, StartsBare (.line s!"#[cfg(target_arch = \"{arch}\")]") ∧
      StartsBare (.line s!"use core::arch::{arch}::*;") := fun arch =>
    ⟨.of_first (by decide) (((Heads.ofChars ['#'] _).append _).append _),
      .of_first (by decide) (((Heads.ofChars ['u'] _).append _).append _)⟩
  have hallow : StartsBare (.line "#[allow(unused_imports)]") := startsBare_text (by decide)
  simp only [imports, List.forall_mem_append, List.forall_mem_flatMap, List.forall_mem_cons]
  refine ⟨⟨⟨(harch _).1, hallow, (harch _).2, ?_⟩, ⟨(harch _).1, hallow, (harch _).2, ?_⟩, ?_⟩,
    startsBare_text (by decide), trivial, hallow, startsBare_text (by decide), trivial, ?_⟩
  all_goals exact fun _ hstep => absurd hstep List.not_mem_nil

lemma startsBare_prelude : ∀ step ∈ prelude, StartsBare step := by
  simp only [prelude, tierEnum, tierMethods, tierDisplay, List.forall_mem_append, List.forall_mem_cons]
  refine ⟨⟨⟨startsBare_imports, trivial, startsBare_text (by decide),
    startsBare_braced (c := 'p') (by decide) (.ofChars ['p'] _) _, trivial, ?_⟩,
    startsBare_braced (c := 'i') (by decide) (.ofChars ['i'] _) _, trivial, ?_⟩,
    startsBare_braced (c := 'i') (by decide) (.ofChars ['i'] _) _, trivial, ?_⟩
  all_goals exact fun _ hstep => absurd hstep List.not_mem_nil

lemma bare_openingLines (artifact : Artifact) :
    ∀ line ∈ openingLines artifact, Bare line.written := by
  have hnotice : Bare Draft.notice :=
    .of_heads (.ofChars ['/', '/', ' ', '@'] _) (by decide) (by decide)
  have habout : Bare (Layout.commentLine (about.get artifact)) := by
    cases artifact with
    | kernels => exact .of_heads (.comment (.ofChars ['E'] _)) (by decide) (by decide)
    | traits => exact .of_heads (.comment (.ofChars ['P'] _)) (by decide) (by decide)
    | arrays => exact .of_heads (.comment (.ofChars ['F'] _)) (by decide) (by decide)
  rw [openingLines, List.forall_mem_append]
  constructor
  · simp only [Draft.Step.linesOf, List.forall_mem_cons, written_margin]
    exact ⟨hnotice, habout, bare_empty, fun _ hline => absurd hline List.not_mem_nil⟩
  · split
    · exact bare_linesAt startsBare_prelude
    · exact fun line hline => absurd hline List.not_mem_nil

/-! ### The lines of all recipes -/

/-- The names of the regions of cells. -/
def cellRegions : List String :=
  ArithOp.all.flatMap fun op => ElementType.emitted.map (cellRegion op)

/-- The lines of every kernel text outside of the regions of cells. -/
def frameLines : List String :=
  (openingLines .kernels).map Line.written ++ ArithOp.all.flatMap fun op =>
    (Marker.opening op.name).text :: ((ElementType.emitted.flatMap fun type =>
      [(Marker.opening (cellRegion op type)).text, Marker.closing.text, ""]) ++ [Marker.closing.text, ""])

lemma libraryLines_chapters (recipe : Recipe) (artifact : Artifact) :
    libraryLines recipe.chapters artifact = openingLines artifact ++ ArithOp.all.flatMap fun op =>
      regionLines op.name (chapterLines op artifact ++ ElementType.emitted.flatMap fun type =>
        regionLines (cellRegion op type) (cellLines (recipe.cell op type) artifact)) := by
  simp only [libraryLines_eq, Recipe.chapters, Recipe.chapter, List.flatMap_map]
  rfl

/-- The texts beside the kernel text are the same for all recipes. -/
lemma libraryLines_eq_of_ne {artifact : Artifact} (h : artifact ≠ .kernels) (recipe other : Recipe) :
    libraryLines recipe.chapters artifact = libraryLines other.chapters artifact := by
  rw [libraryLines_chapters, libraryLines_chapters]
  cases artifact with
  | kernels => exact absurd rfl h
  | traits => rfl
  | arrays => rfl

lemma libraryTexts_eq_of_ne {artifact : Artifact} (h : artifact ≠ .kernels) (recipe other : Recipe) :
    (libraryTexts recipe.chapters).get artifact = (libraryTexts other.chapters).get artifact := by
  simp only [libraryTexts, Draft.texts, Draft.extend, Bundle.get_map, Bundle.get_ofFn,
    libraryLines_eq_of_ne h recipe other]

lemma name_not_mem_cellRegions (op : ArithOp) : op.name ∉ cellRegions := by
  cases op <;> decide +kernel

lemma frames_libraryLines (recipe : Recipe) :
    Frames cellRegions (libraryLines recipe.chapters .kernels) frameLines := by
  rw [libraryLines_chapters]
  refine (frames_bare (bare_openingLines .kernels)).append (frames_flatMap fun op hop => ?_)
  refine Frames.region (name_not_mem_cellRegions op) (frames_flatMap fun type htype => ?_)
  have hname : cellRegion op type ∈ cellRegions :=
    List.mem_flatMap.mpr ⟨op, hop, List.mem_map_of_mem htype⟩
  exact frames_left_out hname (bare_cellLines _ _)

/-! ### The markers of a text -/

/-- The markers of each text: a region for each operation, in which there is one for each type. -/
def libraryMarkers : List Marker :=
  ArithOp.all.flatMap fun op => regionMarkers op.name
    (ElementType.emitted.flatMap fun type => regionMarkers (cellRegion op type) [])

lemma markersIn_openingLines (artifact : Artifact) : markersIn (openingLines artifact) = [] := by
  rw [openingLines, markersIn_append]
  split
  · rw [markersIn_linesAt]
    rfl
  · rfl

lemma markersIn_chapterLines (op : ArithOp) (artifact : Artifact) :
    markersIn (chapterLines op artifact) = [] := by
  rw [chapterLines]
  split
  · exact markersIn_linesAt _ _
  · rfl

lemma markersIn_cellLines (cell : Cell) (artifact : Artifact) :
    markersIn (cellLines cell artifact) = [] := by
  cases artifact <;> exact markersIn_linesAt _ _

lemma markersIn_libraryLines (recipe : Recipe) (artifact : Artifact) :
    markersIn (libraryLines recipe.chapters artifact) = libraryMarkers := by
  simp only [libraryLines_chapters, markersIn_append, markersIn_flatMap, markersIn_regionLines,
    markersIn_openingLines, markersIn_chapterLines, markersIn_cellLines, List.nil_append, libraryMarkers]

/-- Every line of a text is a marker at the margin, or none and looks like none. -/
lemma evident_libraryLines (recipe : Recipe) (artifact : Artifact) :
    ∀ line ∈ libraryLines recipe.chapters artifact, Evident line := by
  rw [libraryLines_chapters, List.forall_mem_append, List.forall_mem_flatMap]
  refine ⟨evident_of_bare (bare_openingLines _) (markersIn_openingLines _),
    fun op _ => evident_regionLines ?_⟩
  rw [List.forall_mem_append, List.forall_mem_flatMap]
  exact ⟨evident_of_bare (bare_chapterLines _ _) (markersIn_chapterLines _ _), fun type _ =>
    evident_regionLines (evident_of_bare (bare_cellLines _ _) (markersIn_cellLines _ _))⟩

/-! ### Regions are opened once -/

lemma openedNames_regionLines (name : String) (body : List Line) :
    openedNames (regionLines name body) = name :: openedNames body := by
  simp [openedNames, regionLines]

lemma openedNames_append (lines more : List Line) :
    openedNames (lines ++ more) = openedNames lines ++ openedNames more :=
  List.filterMap_append

/-- The kernel text opens one region for each operation and one for each cell in it. -/
lemma nodup_openedNames (recipe : Recipe) :
    (openedNames (libraryLines recipe.chapters .kernels)).Nodup := by
  rw [openedNames_eq, markersIn_libraryLines]
  decide +kernel

lemma infix_flatMap {α β : Type} (f : α → List β) {x : α} {xs : List α} (h : x ∈ xs) :
    f x <:+: xs.flatMap f := by
  rw [List.flatMap_def]
  exact List.infix_of_mem_flatten (List.mem_map_of_mem h)

lemma infix_regionLines (name : String) (body : List Line) : body <:+: regionLines name body :=
  ⟨[.marker 0 (.opening name)], [.marker 0 .closing, .text 0 ""], by simp [regionLines]⟩

/-- The region of a cell stands in the kernel text. -/
lemma infix_cellRegion (recipe : Recipe) (op : ArithOp) {type : ElementType}
    (htype : type.reserved = false) :
    regionLines (cellRegion op type) (cellLines (recipe.cell op type) .kernels) <:+:
      libraryLines recipe.chapters .kernels := by
  rw [libraryLines_chapters]
  -- the cell stands in its operation, and the operation in the text
  have hcell := infix_flatMap (fun type => regionLines (cellRegion op type)
    (cellLines (recipe.cell op type) .kernels)) (ElementType.mem_emitted.mpr htype)
  have hchapter := infix_flatMap (fun op => regionLines op.name (chapterLines op .kernels ++
    ElementType.emitted.flatMap fun type => regionLines (cellRegion op type)
      (cellLines (recipe.cell op type) .kernels))) op.mem_all
  exact ((hcell.trans (infix_regionLines op.name _)).trans hchapter).trans
    (List.suffix_append _ _).isInfix

section

variable {recipe : Recipe} (htable : recipe.table.OneLine)

include htable

/-- Outside of the regions of cells the kernel text is the same for all recipes. -/
lemma outside_kernels :
    outside cellRegions ((libraryTexts recipe.chapters).get .kernels) = frameLines ++ [""] := by
  rw [outside, textLines_libraryTexts (Recipe.oneLine_chapters htable), frames_libraryLines]
  rfl

/-- The region of a cell holds the lines of its kernels. -/
lemma section?_kernels (op : ArithOp) {type : ElementType} (htype : type.reserved = false) :
    Region.section? (cellRegion op type) ((libraryTexts recipe.chapters).get .kernels) =
      some ((cellLines (recipe.cell op type) .kernels).map Line.written) := by
  obtain ⟨front, rest, hlines⟩ := infix_cellRegion recipe op htype
  rw [List.append_assoc] at hlines
  have hnodup := nodup_openedNames recipe
  rw [← hlines, openedNames_append, openedNames_append, openedNames_regionLines] at hnodup
  have htext : textLines ((libraryTexts recipe.chapters).get .kernels) =
      (front ++ (regionLines (cellRegion op type) (cellLines (recipe.cell op type) .kernels) ++
        (rest ++ [Line.text 0 ""]))).map Line.written := by
    rw [textLines_libraryTexts (Recipe.oneLine_chapters htable), ← hlines]
    simp only [List.map_append, List.append_assoc]
    rfl
  refine section?_eq ?_ htext (fun line hline => evident_libraryLines recipe .kernels line ?_) ?_
    (bare_cellLines _ _)
  · cases op <;> cases type <;> rfl
  · rw [← hlines]
    exact List.mem_append_left _ hline
  · exact fun hname => List.disjoint_of_nodup_append hnodup hname List.mem_cons_self

end

end Source

namespace Recipe

/-- The recipe with all tiers selected, and the matrix narrowed to the tiers that were. -/
def confined (recipe : Recipe) : Recipe where
  capabilities := ⟨fun tier op type =>
    recipe.capabilities.supports tier op type && recipe.tiers.contains tier⟩
  table := recipe.table
  tiers := .full

lemma chapters_confined (recipe : Recipe) : recipe.confined.chapters = recipe.chapters := by
  have htiers : ∀ op type, recipe.confined.acceleratedTiers op type =
      recipe.acceleratedTiers op type := by
    intro op type
    simp [acceleratedTiers, confined, Capabilities.tiersFor, List.filter_filter, Bool.and_comm]
  exact chapters_eq fun op type => cell_eq (htiers op type) fun _ _ => ⟨rfl, fun _ _ => rfl⟩

lemma check_confined {recipe : Recipe} (h : recipe.table.check recipe.capabilities = .ok ()) :
    recipe.confined.table.check recipe.confined.capabilities = .ok () := by
  rw [BindingTable.check_eq_ok_iff] at h ⊢
  intro tier op type hsupported
  exact h tier op type (Bool.and_eq_true_iff.mp hsupported).1

/-- Two successful runs differ in the regions of operations on types only. A region is the same in both
if they select the same tiers for it and their tables agree for these tiers, whatever their matrices,
tables and selections are otherwise. So narrowing the matrix does the same as selecting tiers. -/
theorem generate_local {recipe other : Recipe} {texts texts' : Bundle String}
    {log log' : Array Log.Record} (h : recipe.generate = (.ok texts, log))
    (h' : other.generate = (.ok texts', log')) (htable : recipe.table.OneLine)
    (htable' : other.table.OneLine) :
    texts.traits = texts'.traits ∧ texts.arrays = texts'.arrays ∧
      outside cellRegions texts.kernels = outside cellRegions texts'.kernels ∧
      (∀ op type, type.reserved = false →
        recipe.acceleratedTiers op type = other.acceleratedTiers op type →
        (∀ tier ∈ recipe.acceleratedTiers op type, recipe.table.Agrees other.table tier op type) →
        ∃ body, Region.section? (cellRegion op type) texts.kernels = some body ∧
          Region.section? (cellRegion op type) texts'.kernels = some body) ∧
      ∃ log'', recipe.confined.generate = (.ok texts, log'') := by
  have hcheck := check_of_generate h
  rw [generate_of_check hcheck] at h
  rw [generate_of_check (check_of_generate h')] at h'
  obtain ⟨htexts, -⟩ := Prod.mk.inj h
  obtain ⟨htexts', -⟩ := Prod.mk.inj h'
  rw [← Except.ok.inj htexts, ← Except.ok.inj htexts']
  have htraits : Artifact.traits ≠ .kernels := by decide
  have harrays : Artifact.arrays ≠ .kernels := by decide
  refine ⟨libraryTexts_eq_of_ne htraits recipe other, libraryTexts_eq_of_ne harrays recipe other, ?_,
    fun op type htype htiers hagrees => ?_, ?_⟩
  · exact (outside_kernels htable).trans (outside_kernels htable').symm
  · refine ⟨_, section?_kernels htable op htype, ?_⟩
    rw [cell_eq htiers hagrees]
    exact section?_kernels htable' op htype
  · rw [← chapters_confined recipe]
    exact ⟨_, generate_of_check (check_confined hcheck)⟩

/-- Sums of single-precision numbers have no variants besides those of two tiers, so their region is the
same for these two tiers as for all of them. -/
theorem generate_local_shipped : ∃ texts texts' log log' body,
    (shipped .full).generate = (.ok texts, log) ∧
      (shipped (.ofList [.sse, .avx])).generate = (.ok texts', log') ∧
      outside cellRegions texts.kernels = outside cellRegions texts'.kernels ∧
      Region.section? (cellRegion .add .float32) texts.kernels = some body ∧
      Region.section? (cellRegion .add .float32) texts'.kernels = some body := by
  have hfull : (shipped .full).generate = _ := generate_of_check BindingTable.check_shipped
  have htwo : (shipped (.ofList [.sse, .avx])).generate = _ :=
    generate_of_check BindingTable.check_shipped
  obtain ⟨-, -, houtside, hregion, -⟩ :=
    generate_local hfull htwo BindingTable.oneLine_shipped BindingTable.oneLine_shipped
  obtain ⟨body, hbody, hbody'⟩ := hregion .add .float32 rfl (by decide)
    fun _ _ => ⟨rfl, fun _ _ => rfl⟩
  exact ⟨_, _, _, _, body, hfull, htwo, houtside, hbody, hbody'⟩

end Recipe

end LaneKernels
