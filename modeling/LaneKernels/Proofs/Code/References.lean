import Mathlib.Tactic
import LaneKernels.Code.Library
import LaneKernels.Proofs.Inventory.Definitions

/-!
What the names in the code of a library lead to.

* The items of the kernel text have different names, so the name of an item finds it
  (`function?_kernel`, `entries?_variants`).
* A name of the array text tells its operation and its type (`function?_array`).
* The name of a method tells its operation, so it finds the method among those of a type and among those of
  a trait (`function?_own`, `function?_method`).
-/

namespace LaneKernels

open Inventory Source

variable {recipe : Recipe} {op : ArithOp} {type : ElementType} {tier : Tier}

/-- Where something passes a test, something is found that passes it. -/
lemma exists_find? {α : Type} {p : α → Bool} {xs : List α} {x : α} (hx : x ∈ xs) (hp : p x = true) :
    ∃ found ∈ xs, p found = true ∧ xs.find? p = some found := by
  obtain ⟨found, hfound⟩ := Option.isSome_iff_exists.mp (List.find?_isSome.mpr ⟨x, hx, hp⟩)
  exact ⟨found, List.mem_of_find?_eq_some hfound, List.find?_some hfound, hfound⟩

namespace Recipe

/-! ### Items -/

/-- The items of the kernel text. -/
def items (recipe : Recipe) : List Item :=
  (plannedCells recipe.chapters).flatMap cellItems

lemma cell_mem (live : type.reserved = false) : recipe.cell op type ∈ plannedCells recipe.chapters := by
  rw [plannedCells_chapters]
  exact List.mem_flatMap.mpr ⟨op, ArithOp.mem_all op,
    List.mem_map_of_mem (ElementType.mem_emitted.mpr live)⟩

lemma mem_items {item : Item} (live : type.reserved = false) (h : item ∈ cellItems (recipe.cell op type)) :
    item ∈ recipe.items :=
  List.mem_flatMap.mpr ⟨_, cell_mem live, h⟩

/-- No two items have one name. -/
lemma nodup_name_items (recipe : Recipe) : (recipe.items.map Item.name).Nodup := by
  have hname : Definition.name ∘ Item.definition = Item.name := by
    funext item
    cases item <;> rfl
  have hdefinitions : recipe.definitions = ⟨[], "Tier", []⟩ :: recipe.items.map Item.definition := by
    rw [items, plannedCells_chapters, List.flatMap_assoc, List.map_flatMap, definitions]
    refine congrArg _ (List.flatMap_congr fun op _ => ?_)
    rw [List.flatMap_map, List.map_flatMap]
    exact List.flatMap_congr fun type _ => (map_definition_cellItems recipe op type).symm
  have hnodup := recipe.nodup_names
  rw [hdefinitions, List.map_cons, List.map_map, hname] at hnodup
  exact hnodup.of_cons

/-- The name of an item finds the item. -/
lemma find?_item {item : Item} (h : item ∈ recipe.items) :
    recipe.items.find? (·.name = item.name) = some item := by
  obtain ⟨found, hmem, hname, hfound⟩ := exists_find? (p := (·.name = item.name)) h (decide_eq_true rfl)
  rw [hfound, List.inj_on_of_nodup_map recipe.nodup_name_items hmem h (of_decide_eq_true hname)]

/-- The library of a recipe whose table passes the check. -/
def library (recipe : Recipe) (defined : String → Bool) (available : TierSet) : Code.Library :=
  .ofCells (plannedCells recipe.chapters) defined available

end Recipe

namespace Code

variable {defined : String → Bool} {available : TierSet} {caller : ElementType}

/-- The name of an item leads to the function that it defines. -/
lemma function?_kernel {item : Item} (h : item ∈ recipe.items) :
    (recipe.library defined available).function? caller (.kernel item.name) = itemFunction? defined item :=
  congrArg (·.bind (itemFunction? defined)) (Recipe.find?_item h)

lemma function?_default (live : type.reserved = false) :
    (recipe.library defined available).function? caller (.kernel (defaultName op type)) =
      some ⟨.pointers, type, defaultBody op type⟩ :=
  function?_kernel (Recipe.mem_items live List.mem_cons_self)

lemma function?_dispatcher (live : type.reserved = false) :
    (recipe.library defined available).function? caller (.kernel (kernelName op type)) =
      some ⟨.pointers, type, dispatcherBody op type⟩ := by
  have hitem : .dispatcher op type ∈ cellItems (recipe.cell op type) :=
    List.mem_append_right _ (List.mem_cons_of_mem _ List.mem_cons_self)
  exact function?_kernel (Recipe.mem_items live hitem)

lemma function?_routine (live : type.reserved = false) (htier : tier ∈ recipe.acceleratedTiers op type)
    (hdefined : defined tier.buildGuard = true) :
    (recipe.library defined available).function? caller (.kernel (routineName op type tier)) =
      some ⟨.pointers, type, routineBody (recipe.table.routine op type tier)⟩ := by
  have hitem : .routine (recipe.table.routine op type tier) ∈ cellItems (recipe.cell op type) :=
    List.mem_append_left _ (List.mem_cons_of_mem _ (List.mem_map_of_mem (List.mem_map_of_mem htier)))
  exact (function?_kernel (Recipe.mem_items live hitem)).trans (if_pos hdefined)

/-- The name of a list leads to the entries of the tiers that have an accelerated kernel. -/
lemma entries?_variants (live : type.reserved = false) :
    (recipe.library defined available).entries? (variantsName op type) =
      some ((recipe.acceleratedTiers op type).map (tierEntry op type)) := by
  have htiers : (recipe.cell op type).routines.map (·.tier) = recipe.acceleratedTiers op type := by
    rw [Recipe.cell, List.map_map]
    exact List.map_id _
  have hitem : .variants op type (recipe.acceleratedTiers op type) ∈ cellItems (recipe.cell op type) := by
    rw [← htiers]
    exact List.mem_append_right _ List.mem_cons_self
  exact congrArg (·.bind itemEntries?) (Recipe.find?_item (Recipe.mem_items live hitem))

/-! ### Arrays -/

/-- A name of the array text tells its operation and its type. -/
lemma arrayName_inj {other : ArithOp} {type' : ElementType} (h : arrayName other type' = arrayName op type) :
    other = op ∧ type' = type := by
  have hsuffixed : ∀ op type, arrayName op type = suffixed op type (some "array") := by
    intro op type
    rw [suffixed, String.append_assoc]
    rfl
  have hclean : ∀ text ∈ some "array", '_' ∉ text.toList := by
    rintro _ ⟨⟩
    decide
  rw [hsuffixed, hsuffixed] at h
  obtain ⟨hop, htype, -⟩ := suffixed_inj hclean hclean h
  exact ⟨hop, htype⟩

lemma function?_array (live : type.reserved = false) :
    (recipe.library defined available).function? caller (.array (arrayName op type)) =
      some ⟨.arrays, type, arrayBody op type⟩ := by
  have hcell : recipe.cell op type ∈ plannedCells recipe.chapters := Recipe.cell_mem live
  obtain ⟨⟨_, _, _⟩, -, hname, hfound⟩ :=
    exists_find? (p := fun cell => arrayName cell.op cell.type = arrayName op type) hcell
      (by simp [Recipe.cell])
  obtain ⟨rfl, rfl⟩ := arrayName_inj (of_decide_eq_true hname)
  exact congrArg (Option.map fun cell =>
    Function.mk .arrays cell.type (arrayBody cell.op cell.type)) hfound

/-! ### Methods -/

/-- The names of the methods of an operation. -/
def methodNames (op : ArithOp) : List String :=
  [rawMethod op, sliceMethod op, arrayMethod op]

/-- The name of a method tells its operation. -/
lemma eq_of_mem_methodNames {other : ArithOp} :
    ∀ name ∈ methodNames op, name ∈ methodNames other → other = op := by
  cases op <;> cases other <;> decide

lemma mem_methodNames_of_method? {name : String} {method : Function}
    (h : method? op type name = some method) : name ∈ methodNames op := by
  rw [method?] at h
  split at h
  · next heq => exact heq ▸ List.mem_cons_self
  · split at h
    · next heq => exact heq ▸ List.mem_cons_of_mem _ List.mem_cons_self
    · split at h
      · next heq => exact heq ▸ List.mem_cons_of_mem _ (List.mem_cons_of_mem _ List.mem_cons_self)
      · cases h

/-- The cells of a type. -/
lemma cell_mem_filter (live : type.reserved = false) :
    recipe.cell op type ∈ (plannedCells recipe.chapters).filter (·.type = type) :=
  List.mem_filter.mpr ⟨Recipe.cell_mem live, decide_eq_true rfl⟩

/-- The name of a method finds it among those of its type. -/
lemma function?_own {name : String} {method : Function} (live : type.reserved = false)
    (h : method? op type name = some method) :
    (recipe.library defined available).function? type (.own name) = some method := by
  cases hfound : ((plannedCells recipe.chapters).filter (·.type = type)).findSome? fun cell =>
      method? cell.op type name with
  | none =>
      rw [List.findSome?_eq_none_iff] at hfound
      exact absurd ((hfound _ (cell_mem_filter live)).symm.trans h) (by simp)
  | some found =>
      obtain ⟨cell, -, hcell⟩ := List.exists_of_findSome?_eq_some hfound
      have hop : cell.op = op := eq_of_mem_methodNames _ (mem_methodNames_of_method? h)
        (mem_methodNames_of_method? hcell)
      rw [← hcell, hop, h] at hfound
      exact hfound

/-- The name of a method finds it in the trait of its operation. -/
lemma function?_method {name : String} {method : Function} (live : type.reserved = false)
    (h : method? op type name = some method) :
    (recipe.library defined available).function? type (.method op.traitName name) = some method := by
  have htrait : ∀ other : ArithOp, other.traitName = op.traitName → other = op := by
    intro other
    cases op <;> cases other <;> decide
  have hcell : recipe.cell op type ∈ (plannedCells recipe.chapters).filter (·.type = type) :=
    cell_mem_filter live
  obtain ⟨cell, -, hname, hfound⟩ :=
    exists_find? (p := fun cell => cell.op.traitName = op.traitName) hcell (decide_eq_true rfl)
  refine (congrArg (·.bind fun cell => method? cell.op type name) hfound).trans ?_
  rw [Option.bind_some, htrait _ (of_decide_eq_true hname), h]

lemma method?_raw : method? op type (rawMethod op) = some ⟨.pointers, type, rawBody op type⟩ :=
  if_pos rfl

lemma method?_slice : method? op type (sliceMethod op) = some ⟨.slices, type, sliceBody op⟩ := by
  cases op <;> rfl

lemma method?_array : method? op type (arrayMethod op) = some ⟨.arrays, type, arrayMethodBody op type⟩ := by
  cases op <;> rfl

end Code

end LaneKernels
