import Mathlib.Tactic
import LaneKernels.Proofs.Inventory.Consistency
import LaneKernels.Proofs.Kernels.Acceleration

/-!
The variant that is picked is the widest one that can be used.

* `IsPicked` says that a variant is the last one of a list whose tier is available. It is what `choose`
  takes, and what the record of the choice names (`IsPicked.choose_eq`).
* In a list of wider and wider tiers (`Ascending`) the last one is the widest (`IsPicked.widest`). What
  stands before an available variant does not matter (`choose_insert_before`), and neither does what is not
  available (`choose_insert_unavailable`).
* Every list of variants that is generated or compiled in ascends, since it is selected from all tiers in
  order (`pairwise_acceleratedTiers`).
-/

namespace LaneKernels

open Inventory Source

section

variable {κ : Type} {available : TierSet} {name type : String} {default : κ}
  {variants earlier later : List (Variant κ)} {variant picked : Variant κ}

/-- The variant is the last one of a list whose tier is available. -/
def IsPicked (available : TierSet) (variants : List (Variant κ)) (variant : Variant κ) : Prop :=
  ∃ earlier later, variants = earlier ++ variant :: later ∧ available.contains variant.tier = true ∧
    ∀ other ∈ later, available.contains other.tier = false

/-- The variants need wider and wider tiers. -/
def Ascending (variants : List (Variant κ)) : Prop :=
  variants.Pairwise fun first second => first.tier < second.tier

/-- What a choice says in the log. -/
def choiceRecord (name type choice : String) : Log.Record :=
  ⟨.debug, "lanewise::dispatch", s!"{name}/{type}: {choice}"⟩

/-! ### The last available variant -/

lemma isPicked_iff : IsPicked available variants variant ↔
    (variants.reverse.find? fun other => available.contains other.tier) = some variant := by
  rw [List.find?_eq_some_iff_append]
  constructor
  · rintro ⟨earlier, later, rfl, havailable, hlater⟩
    refine ⟨havailable, later.reverse, earlier.reverse, by simp, fun other hother => ?_⟩
    rw [hlater other (List.mem_reverse.mp hother)]
    rfl
  · rintro ⟨havailable, later, earlier, hsplit, hlater⟩
    refine ⟨earlier.reverse, later.reverse, ?_, havailable, fun other hother => ?_⟩
    · rw [← List.reverse_reverse variants, hsplit]
      simp
    · rw [← Bool.not_eq_true']
      exact hlater other (List.mem_reverse.mp hother)

/-- The last available variant is chosen and named. -/
lemma IsPicked.choose_eq (h : IsPicked available variants variant) :
    choose available name type default variants =
      (variant.kernel, choiceRecord name type s!"using the {variant.tier.name} variant") := by
  rw [isPicked_iff] at h
  simp only [choose, h]
  rfl

lemma choose_of_unavailable (h : ∀ variant ∈ variants, available.contains variant.tier = false) :
    choose available name type default variants =
      (default, choiceRecord name type "no accelerated variant available, using the default") := by
  have hnone : (variants.reverse.find? fun other => available.contains other.tier) = none :=
    List.find?_eq_none.mpr fun other hother => by simp [h other (List.mem_reverse.mp hother)]
  simp only [choose, hnone]
  rfl

lemma exists_isPicked_or (available : TierSet) (variants : List (Variant κ)) :
    (∃ variant, IsPicked available variants variant) ∨
      ∀ variant ∈ variants, available.contains variant.tier = false := by
  cases hfind : variants.reverse.find? fun other => available.contains other.tier with
  | some variant => exact .inl ⟨variant, isPicked_iff.mpr hfind⟩
  | none =>
      rw [List.find?_eq_none] at hfind
      exact .inr fun variant hmem => by simpa using hfind variant (List.mem_reverse.mpr hmem)

/-- A choice depends on the last available variant alone. -/
lemma choose_congr {others : List (Variant κ)}
    (h : (variants.reverse.find? fun other => available.contains other.tier) =
      others.reverse.find? fun other => available.contains other.tier) :
    choose available name type default variants = choose available name type default others := by
  simp only [choose, h]

/-- A variant that is not available can be put anywhere. -/
lemma choose_insert_unavailable (h : available.contains variant.tier = false) :
    choose available name type default (earlier ++ variant :: later) =
      choose available name type default (earlier ++ later) := by
  refine choose_congr ?_
  simp [List.find?_append, h]

/-- Any variant can be put before one that is available. -/
lemma choose_insert_before (hmem : picked ∈ later) (havailable : available.contains picked.tier = true) :
    choose available name type default (earlier ++ variant :: later) =
      choose available name type default (earlier ++ later) := by
  have hsome : (later.reverse.find? fun other => available.contains other.tier).isSome = true := by
    rw [List.find?_isSome]
    exact ⟨picked, List.mem_reverse.mpr hmem, havailable⟩
  obtain ⟨last, hlast⟩ := Option.isSome_iff_exists.mp hsome
  refine choose_congr ?_
  simp [List.find?_append, hlast]

/-! ### Wider and wider tiers -/

lemma Tier.lt_asymm {s t : Tier} (h : s < t) : ¬ t < s :=
  Nat.lt_asymm h

/-- In an ascending list the last available tier is the widest. -/
lemma IsPicked.widest (h : IsPicked available variants picked) (hascending : Ascending variants)
    (hmem : variant ∈ variants) (havailable : available.contains variant.tier = true) :
    variant = picked ∨ variant.tier < picked.tier := by
  obtain ⟨earlier, later, rfl, -, hlater⟩ := h
  obtain hearlier | heq | hlate := by simpa using hmem
  · exact .inr ((List.pairwise_append.mp hascending).2.2 variant hearlier picked List.mem_cons_self)
  · exact .inl heq
  · rw [hlater variant hlate] at havailable
    cases havailable

/-- In an ascending list a variant with a smaller tier than the picked one stands before it. -/
lemma IsPicked.mem_later (h : IsPicked available (earlier ++ later) picked)
    (hascending : Ascending (earlier ++ variant :: later)) (hsmaller : variant.tier < picked.tier) :
    picked ∈ later := by
  obtain ⟨_, _, hsplit, -, -⟩ := h
  have hmem : picked ∈ earlier ++ later := by
    rw [hsplit]
    exact List.mem_append_right _ List.mem_cons_self
  obtain hearlier | hlater := List.mem_append.mp hmem
  · have horder := (List.pairwise_append.mp hascending).2.2 picked hearlier variant List.mem_cons_self
    exact absurd hsmaller (Tier.lt_asymm horder)
  · exact hlater

end

/-! ### The lists that are generated -/

lemma pairwise_acceleratedTiers (recipe : Recipe) (op : ArithOp) (type : ElementType) :
    (recipe.acceleratedTiers op type).Pairwise (· < ·) := by
  have hall : Tier.all.Pairwise (· < ·) := by decide
  exact (hall.filter _).filter _

/-- The variants that are compiled in ascend. -/
lemma ascending_compiledVariants (compiled : TierSet) (op : ArithOp) (type : ElementType) :
    Ascending (compiledVariants compiled op type) := by
  have hroutines : (((Recipe.shipped compiled).acceleratedTiers op type).map
      (BindingTable.shipped.routine op type)).Pairwise fun first second => first.tier < second.tier :=
    List.pairwise_map.mpr (pairwise_acceleratedTiers (Recipe.shipped compiled) op type)
  rw [compiledVariants, Recipe.routines_shipped]
  refine hroutines.filterMap _ fun first second hlt variant hvariant other hother => ?_
  obtain ⟨_, -, rfl⟩ := Option.map_eq_some_iff.mp hvariant
  obtain ⟨_, -, rfl⟩ := Option.map_eq_some_iff.mp hother
  exact hlt

/-- Every list of variants in a plan ascends. -/
lemma pairwise_of_mem_cellItems {recipe : Recipe} {cell : Cell} (hcell : cell ∈ plannedCells recipe.chapters)
    {op : ArithOp} {type : ElementType} {tiers : List Tier}
    (hitem : .variants op type tiers ∈ cellItems cell) : tiers.Pairwise (· < ·) := by
  rw [Recipe.plannedCells_chapters, List.mem_flatMap] at hcell
  obtain ⟨op', -, hcell⟩ := hcell
  obtain ⟨type', -, rfl⟩ := List.mem_map.mp hcell
  have htiers : tiers = (recipe.cell op' type').routines.map (·.tier) := by
    simp only [cellItems, List.mem_append, List.mem_cons, List.mem_map, reduceCtorEq, List.not_mem_nil,
      and_false, exists_false, Item.variants.injEq, or_false, false_or] at hitem
    exact hitem.2.2
  rw [htiers, Recipe.cell, List.map_map]
  exact List.pairwise_map.mpr (pairwise_acceleratedTiers recipe op' type')

/-- In a generated text the entries of a list of variants that are left in ascend, whatever build symbols
are defined. -/
lemma exists_tiers_of_found {recipe : Recipe} {texts : Bundle String} (hfound : recipe.Found texts)
    (op : ArithOp) {type : ElementType} (htype : type.reserved = false) (defined : String → Bool) :
    ∃ tiers : List Tier, tiers.Pairwise (· < ·) ∧
      ((survey (texts.get .kernels)).named (variantsName op type)).map
          (fun definition => definition.entries.filter fun entry => entry.guards.all defined) =
        [tiers.map (tierEntry op type)] := by
  have hmem : ⟨[], variantsName op type, (recipe.acceleratedTiers op type).map (tierEntry op type)⟩ ∈
      recipe.cellDefinitions op type := Recipe.mem_cellDefinitions.mpr (.inr (.inr (.inl rfl)))
  have hnamed := hfound.named_of_mem htype hmem
  refine ⟨(recipe.acceleratedTiers op type).filter fun tier => defined tier.buildGuard,
    (pairwise_acceleratedTiers recipe op type).filter _, ?_⟩
  rw [hnamed, List.map_singleton, List.filter_map]
  simp [tierEntry, Function.comp_def]

/-- The choice among variants takes the last one that is available, or the default, and its record names
what it took. What is not available does not change it, wherever it stands. In a list of wider and wider
tiers the variant that is taken has the widest tier that is available, and none with a smaller tier
changes the choice. The lists that are compiled in are such lists, and so is every list in a generated
text, whatever build symbols are defined. -/
theorem choose_widest :
    (∀ (κ : Type) (available : TierSet) (name type : String) (default : κ) (variants : List (Variant κ)),
      ((∃ picked, IsPicked available variants picked ∧
          choose available name type default variants =
            (picked.kernel, choiceRecord name type s!"using the {picked.tier.name} variant")) ∨
        (∀ variant ∈ variants, available.contains variant.tier = false) ∧
          choose available name type default variants =
            (default, choiceRecord name type "no accelerated variant available, using the default")) ∧
      ∀ earlier variant later, variants = earlier ++ later →
        (available.contains variant.tier = false →
          choose available name type default (earlier ++ variant :: later) =
            choose available name type default variants)) ∧
    (∀ (κ : Type) (available : TierSet) (variants : List (Variant κ)) (picked : Variant κ),
      Ascending variants → IsPicked available variants picked →
        (∀ variant ∈ variants, available.contains variant.tier = true →
          variant = picked ∨ variant.tier < picked.tier) ∧
        ∀ earlier variant later, variants = earlier ++ later → Ascending (earlier ++ variant :: later) →
          variant.tier < picked.tier → ∀ name type default,
            choose available name type default (earlier ++ variant :: later) =
              choose available name type default variants) ∧
    (∀ compiled op type, Ascending (compiledVariants compiled op type)) ∧
    ∀ recipe texts log, Recipe.generate recipe = (.ok texts, log) →
      (∃ chapters, write chapters = .ok texts ∧ ∀ cell ∈ plannedCells chapters, ∀ op type tiers,
        .variants op type tiers ∈ cellItems cell → tiers.Pairwise (· < ·)) ∧
      (recipe.table.OneLine → ∀ op type, type.reserved = false → ∀ defined : String → Bool,
        ∃ tiers : List Tier, tiers.Pairwise (· < ·) ∧
          ((survey (texts.get .kernels)).named (variantsName op type)).map
              (fun definition => definition.entries.filter fun entry => entry.guards.all defined) =
            [tiers.map (tierEntry op type)]) := by
  refine ⟨fun κ available name type default variants => ⟨?_, ?_⟩,
    fun κ available variants picked hascending hpicked => ⟨?_, ?_⟩, ascending_compiledVariants, ?_⟩
  · obtain ⟨picked, hpicked⟩ | hnone := exists_isPicked_or available variants
    · exact .inl ⟨picked, hpicked, hpicked.choose_eq⟩
    · exact .inr ⟨hnone, choose_of_unavailable hnone⟩
  · rintro earlier variant later rfl
    exact choose_insert_unavailable
  · exact fun variant hmem havailable => hpicked.widest hascending hmem havailable
  · rintro earlier variant later rfl hinserted hsmaller name type default
    have havailable : available.contains picked.tier = true := by
      obtain ⟨_, _, -, havailable, -⟩ := hpicked
      exact havailable
    exact choose_insert_before (hpicked.mem_later hinserted hsmaller) havailable
  · intro recipe texts log hgenerate
    rw [Recipe.generate_of_check (Recipe.check_of_generate hgenerate)] at hgenerate
    obtain rfl := Except.ok.inj (Prod.mk.inj hgenerate).1
    exact ⟨⟨recipe.chapters, write_eq _, fun cell hcell op type tiers => pairwise_of_mem_cellItems hcell⟩,
      fun htable op type htype => exists_tiers_of_found (Recipe.found_libraryTexts htable) op htype⟩

/-- Of two tiers that are there the wider one is taken, although the widest one in the list is missing. -/
example : (choose (.ofList [.mmx, .sse2]) "add" "u8" 0 [⟨.mmx, 1⟩, ⟨.sse2, 2⟩, ⟨.avx2, 3⟩]).1 = 2 := by
  decide

end LaneKernels
