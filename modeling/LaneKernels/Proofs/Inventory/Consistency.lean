import Mathlib.Tactic
import LaneKernels.Proofs.Generation.AllOrNothing
import LaneKernels.Proofs.Inventory.Definitions

/-!
The texts and the log of a recipe fit together.

* `Recipe.Consistent` says how: each function is defined once, the lists of variants name the
  accelerated kernels, what the other texts call is defined, a list entry is left out exactly when
  its kernel is, and the log counts and names what is there.
* `consistent_of_generate`: all this holds whenever generation succeeds, for every matrix, every
  choice of tiers and every table without line feeds in its paths and register types.
-/

namespace LaneKernels

open Inventory Source

namespace Inventory

/-- The definitions of a name. -/
def Survey.named (survey : Survey) (name : String) : List Definition :=
  survey.definitions.filter fun definition => definition.name = name

/-- Whether a definition depends on a build symbol, like those of accelerated kernels. -/
def Definition.isGuarded (definition : Definition) : Bool :=
  !definition.guards.isEmpty

/-- Whether the last part of a name is the one of scalar kernels. -/
def endsInDefault (name : String) : Bool :=
  (Text.pieces '_' name.toList).getLast? = some "default".toList

/-- The name that a record of the log has behind two blanks. -/
def loggedName (record : Log.Record) : String :=
  nameAt (record.message.toList.drop 2)

end Inventory

namespace Recipe

/-- What the texts and the log of a recipe promise. -/
structure Consistent (recipe : Recipe) (texts : Bundle String) (log : List Log.Record) : Prop where
  /-- There is one scalar kernel for every operation on every type that is not reserved. -/
  scalar : ∀ op type, type.reserved = false →
    (survey (texts.get .kernels)).named (defaultName op type) = [⟨[], defaultName op type, []⟩]
  /-- There is one accelerated kernel for each tier that the matrix supports and the configuration
  contains, under the build symbol of the tier, and none for any other tier. -/
  accelerated : ∀ op type tier, type.reserved = false →
    (survey (texts.get .kernels)).named (routineName op type tier) =
      if recipe.capabilities.supports tier op type && recipe.tiers.contains tier then
        [⟨[tier.buildGuard], routineName op type tier, []⟩]
      else []
  /-- There is one list of variants. It has exactly these kernels, each once and the narrowest first. -/
  variants : ∀ op type, type.reserved = false →
    (survey (texts.get .kernels)).named (variantsName op type) = [⟨[], variantsName op type,
      (Tier.all.filter fun tier =>
          recipe.capabilities.supports tier op type && recipe.tiers.contains tier).map
        fun tier => ⟨[tier.buildGuard], tier.enumName, routineName op type tier⟩⟩]
  /-- There is one dispatcher. -/
  dispatcher : ∀ op type, type.reserved = false →
    (survey (texts.get .kernels)).named (kernelName op type) = [⟨[], kernelName op type, []⟩]
  /-- Nothing else is defined beside the tiers. -/
  nothingElse : ∀ definition ∈ (survey (texts.get .kernels)).definitions,
    definition.name = "Tier" ∨ ∃ op type, type.reserved = false ∧
      (definition.name ∈ [defaultName op type, variantsName op type, kernelName op type] ∨
        ∃ tier, definition.name = routineName op type tier)
  /-- All defined names are different. -/
  distinct : ((survey (texts.get .kernels)).definitions.map Definition.name).Nodup
  /-- The other two texts call a kernel for every operation on every type that is not reserved. -/
  kernelCalls : ∀ artifact, artifact ≠ .kernels → mentions kernelsPath (texts.get artifact) =
    ArithOp.all.flatMap fun op => ElementType.emitted.map (kernelName op)
  /-- The trait text calls a function for arrays in each of these cases. -/
  arrayCalls : mentions arraysPath (texts.get .traits) =
    ArithOp.all.flatMap fun op => ElementType.emitted.map (arrayName op)
  /-- Every kernel that is called is defined. -/
  kernelsDefined : ∀ artifact, artifact ≠ .kernels → ∀ name ∈ mentions kernelsPath (texts.get artifact),
    ∃ definition ∈ (survey (texts.get .kernels)).definitions, definition.name = name
  /-- Every function for arrays that is called is defined. -/
  arraysDefined : ∀ artifact, artifact ≠ .kernels → ∀ name ∈ mentions arraysPath (texts.get artifact),
    ∃ definition ∈ (survey (texts.get .arrays)).definitions, definition.name = name
  /-- Whatever build symbols are defined, an entry of a list is left in exactly when the kernel that
  it names is. -/
  survival : ∀ defined : String → Bool, ∀ definition ∈ (survey (texts.get .kernels)).definitions,
    ∀ entry ∈ definition.entries, (definition.guards ++ entry.guards).all defined = true ↔
      ∃ target ∈ (survey (texts.get .kernels)).definitions,
        target.name = entry.kernel ∧ target.guards.all defined = true
  /-- One record counts the regions of an operation on a type, and the accelerated kernels. -/
  counts : log.filter (fun record => record.level = .info) =
    let cells := ((survey (texts.get .kernels)).regions.filter fun name => '/' ∈ name.toList).length
    let accelerated := ((survey (texts.get .kernels)).definitions.filter Definition.isGuarded).length
    [⟨.info, "lanewise_gen::emit",
      s!"generated {cells} routines with {accelerated} accelerated variants (tiers: {recipe.tiers.display})"⟩]
  /-- The traces name the scalar and the accelerated kernels in the order of the text. -/
  traces : (log.filter fun record => record.level = .trace).map loggedName =
    ((survey (texts.get .kernels)).definitions.filter fun definition =>
      definition.isGuarded || endsInDefault definition.name).map Definition.name

variable {recipe : Recipe}

/-! ### What is counted -/

/-- The regions of operations on types have a slash in their names. -/
lemma filter_regionNames (chapters : List Chapter) :
    (regionNames chapters).filter (fun name => '/' ∈ name.toList) =
      (plannedCells chapters).map fun cell => cellRegion cell.op cell.type := by
  have hname : ∀ op : ArithOp, '/' ∉ op.name.toList := by
    intro op
    cases op <;> decide
  have hregion : ∀ cell : Cell, '/' ∈ (cellRegion cell.op cell.type).toList := by
    intro cell
    have hslash : '/' ∈ "/".toList := by decide
    rw [show cellRegion cell.op cell.type = cell.op.name ++ "/" ++ cell.type.shortName from rfl,
      String.toList_append, String.toList_append, List.mem_append, List.mem_append]
    exact .inl (.inr hslash)
  rw [regionNames, plannedCells, List.filter_flatMap, List.map_flatMap]
  refine List.flatMap_congr fun chapter _ => ?_
  rw [List.filter_cons_of_neg (by simp [hname]), List.filter_eq_self, List.forall_mem_map]
  exact fun cell _ => decide_eq_true (hregion cell)

/-- The accelerated kernels are the guarded definitions. -/
lemma filter_isGuarded (recipe : Recipe) : recipe.definitions.filter Definition.isGuarded =
    ArithOp.all.flatMap fun op => ElementType.emitted.flatMap fun type =>
      (recipe.acceleratedTiers op type).map (routineDefinition op type) := by
  have hroutines : ∀ op type, ((recipe.acceleratedTiers op type).map (routineDefinition op type)).filter
      Definition.isGuarded = (recipe.acceleratedTiers op type).map (routineDefinition op type) := by
    intro op type
    rw [List.filter_eq_self, List.forall_mem_map]
    exact fun tier _ => rfl
  rw [definitions, List.filter_cons_of_neg (by decide), List.filter_flatMap]
  refine List.flatMap_congr fun op _ => ?_
  rw [List.filter_flatMap]
  refine List.flatMap_congr fun type _ => ?_
  rw [cellDefinitions, List.filter_cons_of_neg (by simp [Definition.isGuarded]), List.filter_append,
    hroutines]
  exact List.append_nil _

/-- There are as many guarded definitions as kernels in the plan. -/
lemma length_filter_isGuarded (recipe : Recipe) :
    (recipe.definitions.filter Definition.isGuarded).length =
      (plannedRoutines recipe.chapters).length := by
  rw [filter_isGuarded, plannedRoutines, plannedCells_chapters, List.flatMap_assoc]
  simp only [List.length_flatMap, List.flatMap_map, cell, List.length_map]

/-! ### What is logged -/

/-- The records of a plan are no summaries. -/
lemma filter_info (recipe : Recipe) :
    (recipe.records ++ [recipe.summaryRecord]).filter (fun record => record.level = .info) =
      [recipe.summaryRecord] := by
  have hrecords : recipe.records.filter (fun record => record.level = .info) = [] := by
    rw [List.filter_eq_nil_iff, records]
    simp only [List.forall_mem_flatMap, cellRecords, List.forall_mem_append, List.forall_mem_cons,
      List.forall_mem_map]
    intro op _ type _
    exact ⟨⟨Bool.false_ne_true, Bool.false_ne_true, fun _ hmem => absurd hmem List.not_mem_nil⟩,
      fun _ _ => Bool.false_ne_true⟩
  rw [List.filter_append, hrecords]
  rfl

lemma drop_two_blanks (text : String) : ("  " ++ text).toList.drop 2 = text.toList := by
  rw [String.toList_append]
  rfl

lemma loggedName_default (op : ArithOp) (type : ElementType) :
    loggedName ⟨.trace, "lanewise_gen::emit", s!"  {defaultName op type}"⟩ = defaultName op type := by
  rw [loggedName]
  dsimp only [toString]
  rw [drop_two_blanks, nameAt_toList (isName_defaultName op type)]

lemma loggedName_routine (recipe : Recipe) (op : ArithOp) (type : ElementType) (tier : Tier) :
    loggedName (recipe.routineRecord op type tier) = routineName op type tier := by
  have hcolon : ∀ rest : String, (": " ++ rest).toList = ':' :: ' ' :: rest.toList := fun rest => by
    rw [String.toList_append]
    rfl
  rw [loggedName, routineRecord]
  dsimp only [toString]
  simp only [String.append_assoc]
  rw [drop_two_blanks, String.toList_append, hcolon,
    nameAt_append (isName_routineName op type tier) (by decide)]

/-- The traces for an operation on a type name its kernels. -/
lemma traces_cell (recipe : Recipe) (op : ArithOp) (type : ElementType) :
    ((recipe.cellRecords op type).filter fun record => record.level = .trace).map loggedName =
      defaultName op type :: (recipe.acceleratedTiers op type).map (routineName op type) := by
  have hroutines : ((recipe.acceleratedTiers op type).map (recipe.routineRecord op type)).filter
      (fun record => record.level = .trace) =
      (recipe.acceleratedTiers op type).map (recipe.routineRecord op type) := by
    rw [List.filter_eq_self, List.forall_mem_map]
    exact fun tier _ => rfl
  rw [cellRecords, List.filter_append, hroutines, List.map_append, List.map_map]
  refine congrArg₂ (· ++ ·) (congrArg (· :: []) (loggedName_default op type)) ?_
  exact List.map_congr_left fun tier _ => loggedName_routine recipe op type tier

/-! ### The kernels among the definitions -/

lemma endsInDefault_suffixed (op : ArithOp) (type : ElementType) {suffix : Option String}
    (h : ∀ text ∈ suffix, '_' ∉ text.toList) :
    endsInDefault (suffixed op type suffix) = decide (suffix = some "default") := by
  have htype : type.shortName ≠ "default" := by
    cases type <;> decide
  rw [endsInDefault, pieces_suffixed op type h, decide_eq_decide]
  cases suffix with
  | none =>
      constructor
      · intro heq
        exact absurd (String.toList_inj.mp (Option.some.inj heq)) htype
      · intro heq
        cases heq
  | some text =>
      constructor
      · intro heq
        exact congrArg some (String.toList_inj.mp (Option.some.inj heq))
      · rintro ⟨⟩
        rfl

/-- The kernels for an operation on a type among the definitions. -/
lemma kernels_cell (recipe : Recipe) (op : ArithOp) (type : ElementType) :
    ((recipe.cellDefinitions op type).filter fun definition =>
      definition.isGuarded || endsInDefault definition.name).map Definition.name =
      defaultName op type :: (recipe.acceleratedTiers op type).map (routineName op type) := by
  have hclean : ∀ text ∈ some "default", '_' ∉ text.toList := by
    rintro text ⟨⟩
    decide
  have hclean' : ∀ text ∈ some "variants", '_' ∉ text.toList := by
    rintro text ⟨⟩
    decide
  have hdefault : endsInDefault (defaultName op type) = true := by
    rw [defaultName_eq, endsInDefault_suffixed op type hclean, decide_eq_true rfl]
  have hvariants : endsInDefault (variantsName op type) = false := by
    rw [variantsName_eq, endsInDefault_suffixed op type hclean']
    decide
  have hkernel : endsInDefault (kernelName op type) = false :=
    @endsInDefault_suffixed op type none nofun
  have hroutines : ((recipe.acceleratedTiers op type).map (routineDefinition op type)).filter
      (fun definition => definition.isGuarded || endsInDefault definition.name) =
      (recipe.acceleratedTiers op type).map (routineDefinition op type) := by
    rw [List.filter_eq_self, List.forall_mem_map]
    exact fun tier _ => rfl
  rw [cellDefinitions, List.filter_cons_of_pos (by simp [hdefault]), List.filter_append, hroutines,
    List.filter_cons_of_neg (by simp [Definition.isGuarded, hvariants]),
    List.filter_cons_of_neg (by simp [Definition.isGuarded, hkernel]), List.filter_nil, List.append_nil,
    List.map_cons, List.map_map]
  rfl

/-- The traces name the kernels in the order of the text. -/
lemma traces_eq (recipe : Recipe) :
    ((recipe.records ++ [recipe.summaryRecord]).filter fun record =>
      record.level = .trace).map loggedName =
      (recipe.definitions.filter fun definition =>
        definition.isGuarded || endsInDefault definition.name).map Definition.name := by
  have htier : Text.pieces '_' "Tier".toList = ["Tier".toList] := Text.pieces_of_not_mem (by decide)
  have hplain : endsInDefault "Tier" = false := by
    rw [endsInDefault, htier]
    decide
  rw [List.filter_append,
    show [recipe.summaryRecord].filter (fun record => record.level = .trace) = [] from rfl,
    List.append_nil, records, definitions,
    List.filter_cons_of_neg (by simp [Definition.isGuarded, hplain])]
  simp only [List.filter_flatMap, List.map_flatMap, traces_cell, kernels_cell]

/-! ### The texts and the log fit together -/

/-- What is read in the texts of a recipe. -/
structure Found (recipe : Recipe) (texts : Bundle String) : Prop where
  definitions : (survey (texts.get .kernels)).definitions = recipe.definitions
  regions : (survey (texts.get .kernels)).regions = regionNames recipe.chapters
  arrays : (survey (texts.get .arrays)).definitions =
    ArithOp.all.flatMap fun op => ElementType.emitted.map fun type => ⟨[], arrayName op type, []⟩
  kernelCalls : ∀ artifact, artifact ≠ .kernels → mentions kernelsPath (texts.get artifact) =
    ArithOp.all.flatMap fun op => ElementType.emitted.map (kernelName op)
  traitCalls : mentions arraysPath (texts.get .traits) =
    ArithOp.all.flatMap fun op => ElementType.emitted.map (arrayName op)
  arrayCalls : mentions arraysPath (texts.get .arrays) = []

lemma map_plannedCells {α : Type} (recipe : Recipe) (f : ArithOp → ElementType → α) :
    ((plannedCells recipe.chapters).map fun cell => f cell.op cell.type) =
      ArithOp.all.flatMap fun op => ElementType.emitted.map (f op) := by
  rw [plannedCells_chapters, List.map_flatMap]
  simp only [List.map_map]
  rfl

/-- The texts that are written hold what the recipe says. -/
lemma found_libraryTexts (h : recipe.table.OneLine) : recipe.Found (libraryTexts recipe.chapters) := by
  have hlines := Recipe.oneLine_chapters h
  refine ⟨definitions_survey h, ?_, ?_, fun artifact hartifact => ?_, ?_, mentions_arrays_arrays hlines⟩
  · rw [survey_kernels hlines]
  · rw [survey_arrays hlines]
    exact map_plannedCells recipe fun op type => (⟨[], arrayName op type, []⟩ : Definition)
  · rw [← map_plannedCells recipe kernelName]
    cases artifact with
    | kernels => exact absurd rfl hartifact
    | traits => exact mentions_kernels_traits hlines
    | arrays => exact mentions_kernels_arrays hlines
  · rw [← map_plannedCells recipe arrayName]
    exact mentions_arrays_traits hlines

/-- The tiers of the accelerated kernels are those that the matrix supports and the configuration
contains. -/
lemma acceleratedTiers_eq (recipe : Recipe) (op : ArithOp) (type : ElementType) :
    recipe.acceleratedTiers op type = Tier.all.filter fun tier =>
      recipe.capabilities.supports tier op type && recipe.tiers.contains tier := by
  rw [acceleratedTiers, Capabilities.tiersFor, List.filter_filter]
  simp only [Bool.and_comm]

section

variable {texts : Bundle String} (hfound : recipe.Found texts)

include hfound

lemma Found.named {definition : Definition} (h : definition ∈ recipe.definitions) :
    (survey (texts.get .kernels)).named definition.name = [definition] := by
  rw [Survey.named, hfound.definitions, filter_name h]

lemma Found.named_of_mem {op : ArithOp} {type : ElementType} (htype : type.reserved = false)
    {definition : Definition} (h : definition ∈ recipe.cellDefinitions op type) :
    (survey (texts.get .kernels)).named definition.name = [definition] :=
  hfound.named (mem_definitions.mpr (.inr ⟨op, type, htype, h⟩))

/-- Whatever is called under a name for every operation and type is defined under that name. -/
lemma Found.exists_kernel {name : String}
    (h : name ∈ ArithOp.all.flatMap fun op => ElementType.emitted.map (kernelName op)) :
    ∃ definition ∈ (survey (texts.get .kernels)).definitions, definition.name = name := by
  obtain ⟨op, -, h⟩ := List.mem_flatMap.mp h
  obtain ⟨type, htype, rfl⟩ := List.mem_map.mp h
  rw [hfound.definitions]
  refine ⟨⟨[], kernelName op type, []⟩, mem_definitions.mpr (.inr ⟨op, type, ?_, ?_⟩), rfl⟩
  · exact ElementType.mem_emitted.mp htype
  · exact mem_cellDefinitions.mpr (.inr (.inr (.inr rfl)))

lemma Found.exists_array {name : String}
    (h : name ∈ ArithOp.all.flatMap fun op => ElementType.emitted.map (arrayName op)) :
    ∃ definition ∈ (survey (texts.get .arrays)).definitions, definition.name = name := by
  obtain ⟨op, hop, h⟩ := List.mem_flatMap.mp h
  obtain ⟨type, htype, rfl⟩ := List.mem_map.mp h
  rw [hfound.arrays]
  refine ⟨⟨[], arrayName op type, []⟩, List.mem_flatMap.mpr ⟨op, hop, ?_⟩, rfl⟩
  exact List.mem_map_of_mem (f := fun type => (⟨[], arrayName op type, []⟩ : Definition)) htype

/-- What is found in the texts fits together. -/
lemma Found.consistent : recipe.Consistent texts (recipe.records ++ [recipe.summaryRecord]) where
  scalar op type htype := hfound.named_of_mem htype (mem_cellDefinitions.mpr (.inl rfl))
  accelerated op type tier htype := by
    have hmem : tier ∈ recipe.acceleratedTiers op type ↔
        (recipe.capabilities.supports tier op type && recipe.tiers.contains tier) = true := by
      rw [mem_acceleratedTiers, Bool.and_eq_true]
    split
    · next h => exact hfound.named (routineDefinition_mem htype (hmem.mpr h))
    · next h =>
        rw [Survey.named, hfound.definitions, List.filter_eq_nil_iff]
        intro definition hdefinition
        rw [decide_eq_true_eq]
        exact routineName_ne (mt hmem.mp h) hdefinition
  variants op type htype := by
    rw [← acceleratedTiers_eq]
    exact hfound.named_of_mem htype (mem_cellDefinitions.mpr (.inr (.inr (.inl rfl))))
  dispatcher op type htype := hfound.named_of_mem htype
    (mem_cellDefinitions.mpr (.inr (.inr (.inr rfl))))
  nothingElse definition hdefinition := by
    rw [hfound.definitions, mem_definitions] at hdefinition
    obtain rfl | ⟨op, type, htype, hmem⟩ := hdefinition
    · exact .inl rfl
    · rw [mem_cellDefinitions] at hmem
      obtain rfl | ⟨tier, -, rfl⟩ | rfl | rfl := hmem
      · exact .inr ⟨op, type, htype, .inl (by simp)⟩
      · exact .inr ⟨op, type, htype, .inr ⟨tier, rfl⟩⟩
      · exact .inr ⟨op, type, htype, .inl (by simp)⟩
      · exact .inr ⟨op, type, htype, .inl (by simp)⟩
  distinct := by
    rw [hfound.definitions]
    exact nodup_names recipe
  kernelCalls := hfound.kernelCalls
  arrayCalls := hfound.traitCalls
  kernelsDefined artifact hartifact name hname := by
    rw [hfound.kernelCalls artifact hartifact] at hname
    exact hfound.exists_kernel hname
  arraysDefined artifact hartifact name hname := by
    cases artifact with
    | kernels => exact absurd rfl hartifact
    | traits =>
        rw [hfound.traitCalls] at hname
        exact hfound.exists_array hname
    | arrays =>
        rw [hfound.arrayCalls] at hname
        exact absurd hname List.not_mem_nil
  survival defined definition hdefinition entry hentry := by
    rw [hfound.definitions] at hdefinition ⊢
    exact survives_iff defined hdefinition hentry
  counts := by
    rw [filter_info, hfound.regions, hfound.definitions, filter_regionNames, length_filter_isGuarded,
      List.length_map]
    rfl
  traces := by
    rw [hfound.definitions]
    exact traces_eq recipe

end

/-- Whenever generation succeeds, the texts and the log fit together, for every matrix, every choice
of tiers and every table without line feeds in its paths and register types. -/
theorem consistent_of_generate {texts : Bundle String} {log : Array Log.Record}
    (htable : recipe.table.OneLine) (h : recipe.generate = (.ok texts, log)) : recipe.Consistent texts log.toList := by
  cases hcheck : recipe.table.check recipe.capabilities with
  | error fault =>
      rw [generate_of_fault hcheck] at h
      cases h
  | ok =>
      rw [generate_of_check hcheck] at h
      obtain ⟨htexts, hlog⟩ := Prod.mk.inj h
      have hfound := found_libraryTexts htable
      rw [Except.ok.inj htexts] at hfound
      rw [← hlog]
      exact hfound.consistent

/-- The texts that are made from the shipped tables fit together. -/
theorem consistent_shipped : ∃ texts log, (Recipe.shipped .full).generate = (.ok texts, log) ∧
    (Recipe.shipped .full).Consistent texts log.toList :=
  ⟨_, _, Recipe.generate_of_check BindingTable.check_shipped,
    Recipe.consistent_of_generate BindingTable.oneLine_shipped
      (Recipe.generate_of_check BindingTable.check_shipped)⟩

end Recipe

end LaneKernels
