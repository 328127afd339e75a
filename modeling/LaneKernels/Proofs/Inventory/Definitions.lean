import Mathlib.Tactic
import LaneKernels.Proofs.Inventory.Mentions

/-!
The definitions of the kernel text of a recipe.

* `Recipe.definitions` lists them: the tiers, and for each operation and type the scalar kernel, the
  accelerated kernels, the list of variants and the dispatcher. The kernel text defines these and
  nothing else (`definitions_survey`).
* Their names are pairwise different (`nodup_names`), so a name finds one definition (`filter_name`).
* An entry of a list and the kernel that it names depend on the same build symbol (`survives_iff`).
-/

namespace LaneKernels

open Inventory Source

namespace Recipe

variable {recipe : Recipe} {op other : ArithOp} {type type' : ElementType} {tier : Tier}

/-- The definition of an accelerated kernel. -/
def routineDefinition (op : ArithOp) (type : ElementType) (tier : Tier) : Definition :=
  ⟨[tier.buildGuard], routineName op type tier, []⟩

/-- The definitions for an operation on a type. -/
def cellDefinitions (recipe : Recipe) (op : ArithOp) (type : ElementType) : List Definition :=
  ⟨[], defaultName op type, []⟩ :: ((recipe.acceleratedTiers op type).map (routineDefinition op type) ++
    [⟨[], variantsName op type, (recipe.acceleratedTiers op type).map (tierEntry op type)⟩,
      ⟨[], kernelName op type, []⟩])

/-- The definitions of all operations on all types, and the tiers. -/
def definitions (recipe : Recipe) : List Definition :=
  ⟨[], "Tier", []⟩ ::
    ArithOp.all.flatMap fun op => ElementType.emitted.flatMap fun type => recipe.cellDefinitions op type

lemma plannedCells_chapters (recipe : Recipe) :
    plannedCells recipe.chapters =
      ArithOp.all.flatMap fun op => ElementType.emitted.map (recipe.cell op) := by
  rw [plannedCells, chapters, List.flatMap_map]
  rfl

lemma map_definition_cellItems (recipe : Recipe) (op : ArithOp) (type : ElementType) :
    (cellItems (recipe.cell op type)).map Item.definition = recipe.cellDefinitions op type := by
  simp only [cellItems, cell, cellDefinitions, Item.definition, List.map_cons, List.map_append,
    List.map_map, List.map_nil, List.cons_append, List.nil_append]
  rfl

/-- The kernel text defines what the recipe says. -/
lemma definitions_survey (h : recipe.table.OneLine) :
    (survey ((libraryTexts recipe.chapters).get .kernels)).definitions = recipe.definitions := by
  rw [survey_kernels (Recipe.oneLine_chapters h), plannedCells_chapters, List.flatMap_assoc,
    definitions]
  refine congrArg _ (List.flatMap_congr fun op _ => ?_)
  rw [List.flatMap_map]
  exact List.flatMap_congr fun type _ => map_definition_cellItems recipe op type

/-! ### Names -/

/-- The last parts of the names for an operation on a type. -/
def suffixes (recipe : Recipe) (op : ArithOp) (type : ElementType) : List (Option String) :=
  some "default" :: ((recipe.acceleratedTiers op type).map (fun tier => some tier.name) ++
    [some "variants", none])

lemma defaultName_eq (op : ArithOp) (type : ElementType) :
    defaultName op type = suffixed op type (some "default") := by
  rw [suffixed, String.append_assoc]
  rfl

lemma variantsName_eq (op : ArithOp) (type : ElementType) :
    variantsName op type = suffixed op type (some "variants") := by
  rw [suffixed, String.append_assoc]
  rfl

lemma map_name_cellDefinitions (recipe : Recipe) (op : ArithOp) (type : ElementType) :
    (recipe.cellDefinitions op type).map Definition.name =
      (recipe.suffixes op type).map (suffixed op type) := by
  simp only [cellDefinitions, suffixes, List.map_cons, List.map_append, List.map_map, List.map_nil,
    defaultName_eq, variantsName_eq]
  rfl

/-- No last part has an underscore in it. -/
lemma not_mem_suffix {suffix : Option String} (h : suffix ∈ recipe.suffixes op type) :
    ∀ text ∈ suffix, '_' ∉ text.toList := by
  intro text htext
  rw [Option.mem_def] at htext
  rw [suffixes, List.mem_cons, List.mem_append, List.mem_map, List.mem_pair, htext] at h
  obtain hdefault | ⟨tier, -, htier⟩ | hvariants | hnone := h
  · rw [Option.some.inj hdefault]
    decide
  · rw [← Option.some.inj htier]
    cases tier <;> decide
  · rw [Option.some.inj hvariants]
    decide
  · cases hnone

lemma nodup_acceleratedTiers (recipe : Recipe) (op : ArithOp) (type : ElementType) :
    (recipe.acceleratedTiers op type).Nodup :=
  List.Nodup.filter _ (List.Nodup.filter _ (by decide))

lemma name_ne (tier : Tier) : tier.name ≠ "default" ∧ tier.name ≠ "variants" := by
  cases tier <;> decide

lemma nodup_suffixes (recipe : Recipe) (op : ArithOp) (type : ElementType) :
    (recipe.suffixes op type).Nodup := by
  have htiers : ((recipe.acceleratedTiers op type).map fun tier => some tier.name).Nodup :=
    (nodup_acceleratedTiers recipe op type).map fun tier other h =>
      Tier.name_injective (Option.some.inj h)
  rw [suffixes, List.nodup_cons, List.nodup_append]
  refine ⟨?_, htiers, by decide, ?_⟩
  · rw [List.mem_append, List.mem_map, not_or]
    refine ⟨?_, by decide⟩
    rintro ⟨tier, -, htier⟩
    exact (name_ne tier).1 (Option.some.inj htier)
  · rintro _ hmem suffix hsuffix rfl
    obtain ⟨tier, -, rfl⟩ := List.mem_map.mp hmem
    obtain hvariants | hnone := List.mem_pair.mp hsuffix
    · exact (name_ne tier).2 (Option.some.inj hvariants)
    · cases hnone

/-- The names for an operation on a type are pairwise different. -/
lemma nodup_names_cell (recipe : Recipe) (op : ArithOp) (type : ElementType) :
    ((recipe.cellDefinitions op type).map Definition.name).Nodup := by
  rw [map_name_cellDefinitions]
  refine (nodup_suffixes recipe op type).map_on fun suffix hsuffix suffix' hsuffix' heq => ?_
  exact (suffixed_inj (not_mem_suffix hsuffix) (not_mem_suffix hsuffix') heq).2.2

/-- The name of a definition in a cell has one of the last parts. -/
lemma exists_suffix {definition : Definition} (h : definition ∈ recipe.cellDefinitions op type) :
    ∃ suffix ∈ recipe.suffixes op type, suffixed op type suffix = definition.name := by
  rw [← List.mem_map, ← map_name_cellDefinitions]
  exact List.mem_map_of_mem h

/-- A name tells its operation and its type. -/
lemma eq_of_name_eq {definition definition' : Definition}
    (h : definition ∈ recipe.cellDefinitions op type)
    (h' : definition' ∈ recipe.cellDefinitions other type') (heq : definition.name = definition'.name) :
    op = other ∧ type = type' := by
  obtain ⟨suffix, hsuffix, hname⟩ := exists_suffix h
  obtain ⟨suffix', hsuffix', hname'⟩ := exists_suffix h'
  rw [← hname, ← hname'] at heq
  obtain ⟨hop, htype, -⟩ := suffixed_inj (not_mem_suffix hsuffix) (not_mem_suffix hsuffix') heq
  exact ⟨hop, htype⟩

/-- The names for an operation are pairwise different. -/
lemma nodup_names_chapter (recipe : Recipe) (op : ArithOp) :
    (ElementType.emitted.flatMap fun type =>
      (recipe.cellDefinitions op type).map Definition.name).Nodup := by
  have hemitted : ElementType.emitted.Nodup := by decide
  rw [List.nodup_flatMap]
  refine ⟨fun type _ => nodup_names_cell recipe op type,
    hemitted.imp fun hne name hname hname' => hne ?_⟩
  obtain ⟨definition, hmem, rfl⟩ := List.mem_map.mp hname
  obtain ⟨definition', hmem', heq⟩ := List.mem_map.mp hname'
  exact (eq_of_name_eq hmem hmem' heq.symm).2

/-- The enumeration of tiers has no name of a kernel. -/
lemma suffixed_ne_tier {suffix : Option String} (h : ∀ text ∈ suffix, '_' ∉ text.toList) :
    suffixed op type suffix ≠ "Tier" := by
  intro htier
  have hpieces := pieces_suffixed op type h
  have htier' : Text.pieces '_' "Tier".toList = ["Tier".toList] := Text.pieces_of_not_mem (by decide)
  rw [htier, htier'] at hpieces
  exact absurd (List.cons.inj hpieces).2.symm (List.cons_ne_nil _ _)

/-- No two definitions have one name. -/
lemma nodup_names (recipe : Recipe) : (recipe.definitions.map Definition.name).Nodup := by
  have hall : ArithOp.all.Nodup := by decide
  rw [definitions, List.map_cons, List.nodup_cons, List.map_flatMap]
  simp only [List.map_flatMap]
  refine ⟨?_, List.nodup_flatMap.mpr ⟨fun op _ => nodup_names_chapter recipe op,
    hall.imp fun hne name hname hname' => hne ?_⟩⟩
  · simp only [List.mem_flatMap, List.mem_map]
    rintro ⟨op, -, type, -, definition, hmem, htier⟩
    obtain ⟨suffix, hsuffix, hname⟩ := exists_suffix hmem
    exact suffixed_ne_tier (not_mem_suffix hsuffix) (hname.trans htier)
  · obtain ⟨type, -, hname⟩ := List.mem_flatMap.mp hname
    obtain ⟨type', -, hname'⟩ := List.mem_flatMap.mp hname'
    obtain ⟨definition, hmem, rfl⟩ := List.mem_map.mp hname
    obtain ⟨definition', hmem', heq⟩ := List.mem_map.mp hname'
    exact (eq_of_name_eq hmem hmem' heq.symm).1

/-! ### Looking a name up -/

lemma mem_definitions {definition : Definition} : definition ∈ recipe.definitions ↔
    definition = ⟨[], "Tier", []⟩ ∨
      ∃ op type, type.reserved = false ∧ definition ∈ recipe.cellDefinitions op type := by
  simp only [definitions, List.mem_cons, List.mem_flatMap, ArithOp.mem_all, ElementType.mem_emitted,
    true_and]

lemma mem_cellDefinitions {definition : Definition} : definition ∈ recipe.cellDefinitions op type ↔
    definition = ⟨[], defaultName op type, []⟩ ∨
      (∃ tier ∈ recipe.acceleratedTiers op type, routineDefinition op type tier = definition) ∨
      definition =
        ⟨[], variantsName op type, (recipe.acceleratedTiers op type).map (tierEntry op type)⟩ ∨
      definition = ⟨[], kernelName op type, []⟩ := by
  rw [cellDefinitions, List.mem_cons, List.mem_append, List.mem_map, List.mem_pair]

/-- A tier without an accelerated kernel has no definition. -/
lemma routineName_ne {definition : Definition} (htier : tier ∉ recipe.acceleratedTiers op type)
    (h : definition ∈ recipe.definitions) : definition.name ≠ routineName op type tier := by
  have hclean : ∀ text ∈ some tier.name, '_' ∉ text.toList := by
    rintro text ⟨⟩
    cases tier <;> decide
  intro heq
  rw [mem_definitions] at h
  obtain rfl | ⟨other, type', -, hmem⟩ := h
  · exact suffixed_ne_tier hclean heq.symm
  · obtain ⟨suffix, hsuffix, hname⟩ := exists_suffix hmem
    obtain ⟨rfl, rfl, rfl⟩ := suffixed_inj (not_mem_suffix hsuffix) hclean (hname.trans heq)
    rw [suffixes, List.mem_cons, List.mem_append, List.mem_map, List.mem_pair] at hsuffix
    obtain hdefault | ⟨same, hsame, htiers⟩ | hvariants | hnone := hsuffix
    · exact absurd (Option.some.inj hdefault) (name_ne tier).1
    · rw [Tier.name_injective (Option.some.inj htiers)] at hsame
      exact htier hsame
    · exact absurd (Option.some.inj hvariants) (name_ne tier).2
    · cases hnone

lemma eq_of_mem_definitions {definition definition' : Definition} (h : definition ∈ recipe.definitions)
    (h' : definition' ∈ recipe.definitions) (heq : definition.name = definition'.name) :
    definition = definition' :=
  List.inj_on_of_nodup_map (nodup_names recipe) h h' heq

/-- A name that is defined finds its definition and no other one. -/
lemma filter_name {definition : Definition} (h : definition ∈ recipe.definitions) :
    (recipe.definitions.filter fun other => other.name = definition.name) = [definition] := by
  have hsame : ∀ other ∈ recipe.definitions,
      decide (other.name = definition.name) = decide (other = definition) := by
    intro other hother
    rw [decide_eq_decide]
    exact ⟨eq_of_mem_definitions hother h, fun heq => heq ▸ rfl⟩
  rw [List.filter_congr hsame, List.filter_eq, List.count_eq_one_of_mem (nodup_names recipe).of_map h,
    List.replicate_one]

/-- Entries are only found in the lists of variants. -/
lemma exists_of_entry {definition : Definition} {entry : ListEntry}
    (h : definition ∈ recipe.definitions)
    (hentry : entry ∈ definition.entries) : definition.guards = [] ∧ ∃ op type, type.reserved = false ∧
      ∃ tier ∈ recipe.acceleratedTiers op type, entry = tierEntry op type tier := by
  rw [mem_definitions] at h
  obtain rfl | ⟨op, type, htype, h⟩ := h
  · exact absurd hentry List.not_mem_nil
  · rw [mem_cellDefinitions] at h
    obtain rfl | ⟨tier, -, rfl⟩ | rfl | rfl := h
    · exact absurd hentry List.not_mem_nil
    · exact absurd hentry List.not_mem_nil
    · obtain ⟨tier, htier, rfl⟩ := List.mem_map.mp hentry
      exact ⟨rfl, op, type, htype, tier, htier, rfl⟩
    · exact absurd hentry List.not_mem_nil

lemma routineDefinition_mem (htype : type.reserved = false)
    (htier : tier ∈ recipe.acceleratedTiers op type) :
    routineDefinition op type tier ∈ recipe.definitions := by
  rw [mem_definitions]
  exact .inr ⟨op, type, htype, mem_cellDefinitions.mpr (.inr (.inl ⟨tier, htier, rfl⟩))⟩

/-- An entry is left out together with the kernel that it names. -/
lemma survives_iff (defined : String → Bool) {definition : Definition} {entry : ListEntry}
    (h : definition ∈ recipe.definitions) (hentry : entry ∈ definition.entries) :
    (definition.guards ++ entry.guards).all defined = true ↔
      ∃ target ∈ recipe.definitions, target.name = entry.kernel ∧ target.guards.all defined = true := by
  obtain ⟨hguards, op, type, htype, tier, htier, rfl⟩ := exists_of_entry h hentry
  have hmem := routineDefinition_mem htype htier
  rw [hguards, List.nil_append]
  constructor
  · intro hdefined
    exact ⟨routineDefinition op type tier, hmem, rfl, hdefined⟩
  · rintro ⟨target, htarget, hname, hdefined⟩
    rwa [eq_of_mem_definitions htarget hmem hname] at hdefined

end Recipe

end LaneKernels
