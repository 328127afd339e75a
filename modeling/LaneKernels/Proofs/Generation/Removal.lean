import Mathlib.Tactic
import LaneKernels.Proofs.Generation.Agreement
import LaneKernels.Proofs.Generation.AllOrNothing

/-!
Leaving one slot of the table empty.

* `Capabilities.Requires` says which slots a matrix needs: a computation for each supported cell, and the
  memory slots of each type that has a supported cell on the tier. What is selected does not matter.
* `check_unbind`: a required slot that is left empty is the first defect that the check finds, because
  nothing else is missing.
* `generate_unbind`: generation without the slot either names just that slot or gives the same texts and
  the same log, and binding the callable again gives them back.
-/

namespace LaneKernels

/-- Whether a supported cell has its kernel use a slot of a tier for a type. -/
def Capabilities.Requires (caps : Capabilities) (tier : Tier) (slot : Slot) (type : ElementType) : Prop :=
  ∃ op, caps.supports tier op type = true ∧ slot ∈ Slot.compute op :: Slot.memory

instance (caps : Capabilities) (tier : Tier) (slot : Slot) (type : ElementType) :
    Decidable (caps.Requires tier slot type) :=
  decidable_of_iff (∃ op ∈ ArithOp.all, caps.supports tier op type = true ∧
      slot ∈ Slot.compute op :: Slot.memory)
    ⟨fun ⟨op, _, h⟩ => ⟨op, h⟩, fun ⟨op, h⟩ => ⟨op, op.mem_all, h⟩⟩

namespace BindingTable

variable {table : BindingTable} {caps : Capabilities} {tier other : Tier} {slot : Slot} {op : ArithOp}
  {type type' : ElementType}

/-! ### The first defect -/

/-- A check over a list that finds one kind of defect only, and finds it somewhere, reports it. -/
lemma forM_eq_error {α : Type} {ask : α → Except Fault Unit} {fault : Fault} {xs : List α}
    (h : ∀ x ∈ xs, ask x = .ok () ∨ ask x = .error fault) (hfound : ∃ x ∈ xs, ask x = .error fault) :
    xs.forM ask = .error fault := by
  induction xs with
  | nil =>
      obtain ⟨x, hx, -⟩ := hfound
      exact absurd hx List.not_mem_nil
  | cons x xs ih =>
      rw [List.forall_mem_cons] at h
      rw [List.forM_eq_forM, List.forM_cons]
      cases h.1 with
      | inr herror =>
          rw [herror]
          rfl
      | inl hok =>
          have hrest : ∃ y ∈ xs, ask y = .error fault := by
            obtain ⟨y, hy, herror⟩ := hfound
            obtain rfl | hy := List.mem_cons.mp hy
            · rw [hok] at herror
              cases herror
            · exact ⟨y, hy, herror⟩
          rw [hok]
          exact ih h.2 hrest

/-- A kernel that uses other slots only does not notice that a slot is left empty. -/
lemma agrees_unbind (h : other = tier → type' = type → slot ∉ Slot.compute op :: Slot.memory) :
    (table.unbind tier slot type).Agrees table other op type' where
  register := rfl
  slots needed hneeded := by
    rw [binding?_unbind, if_neg]
    rintro ⟨rfl, rfl, rfl⟩
    exact h rfl rfl hneeded

/-- Agreement carries over what a kernel needs. -/
lemma Agrees.covers {found : BindingTable} (h : found.Agrees table tier op type)
    (hcovers : table.Covers tier op type) : found.Covers tier op type where
  lanes_pos := hcovers.lanes_pos
  register := by
    rw [h.register]
    exact hcovers.register
  compute := by
    rw [h.slots _ List.mem_cons_self]
    exact hcovers.compute
  memory needed hneeded := by
    rw [h.slots _ (List.mem_cons_of_mem _ hneeded)]
    exact hcovers.memory needed hneeded

/-- A cell whose kernel uses the empty slot has no other defect. -/
lemma checkCell_unbind (hcovers : table.Covers tier op type)
    (hslot : slot ∈ Slot.compute op :: Slot.memory) :
    (table.unbind tier slot type).checkCell ⟨tier, op, type⟩ =
      .error (.missingBinding tier slot type) := by
  have hcheck : table.checkCell ⟨tier, op, type⟩ = .ok () := checkCell_eq_ok_iff.mpr hcovers
  have hmet := checkCell_eq_ok_iff_met.mp hcheck
  have hlacks : (table.unbind tier slot type).ask ⟨tier, op, type⟩ (.callable slot) =
      .error (.missingBinding tier slot type) := by
    refine ask_eq_error_iff.mpr ⟨?_, rfl⟩
    rw [Need.Met, binding?_unbind, if_pos ⟨rfl, rfl, rfl⟩]
    exact Bool.false_ne_true
  rw [checkCell_eq]
  refine forM_eq_error (fun need hneed => ?_) ⟨.callable slot, ?_, hlacks⟩
  · by_cases heq : need = .callable slot
    · exact .inr (heq ▸ hlacks)
    · refine .inl (ask_eq_ok_iff.mpr ?_)
      cases need with
      | room => exact hmet _ hneed
      | register => exact hmet _ hneed
      | callable needed =>
          rw [Need.Met, binding?_unbind, if_neg fun h => heq (congrArg Need.callable h.2.1)]
          exact hmet _ hneed
  · rw [needs, List.mem_append, List.mem_map]
    obtain rfl | hmemory := List.mem_cons.mp hslot
    · exact .inl (by simp)
    · exact .inr ⟨slot, hmemory, rfl⟩

/-- A required slot that is left empty is the defect that the check reports. -/
lemma check_unbind (h : table.check caps = .ok ()) (hrequires : caps.Requires tier slot type) :
    (table.unbind tier slot type).check caps = .error (.missingBinding tier slot type) := by
  rw [check_eq_ok_iff] at h
  refine forM_eq_error (fun cell hcell => ?_) ?_
  · have hcovers := h cell.tier cell.op cell.type (Capabilities.mem_cells.mp hcell)
    obtain ⟨other, op, type'⟩ := cell
    by_cases hused : other = tier ∧ type' = type ∧ slot ∈ Slot.compute op :: Slot.memory
    · obtain ⟨rfl, rfl, hslot⟩ := hused
      exact .inr (checkCell_unbind hcovers hslot)
    · have hagrees : (table.unbind tier slot type).Agrees table other op type' :=
        agrees_unbind fun htier htype hslot => hused ⟨htier, htype, hslot⟩
      exact .inl (checkCell_eq_ok_iff.mpr (hagrees.covers hcovers))
  · obtain ⟨op, hsupported, hslot⟩ := hrequires
    exact ⟨⟨tier, op, type⟩, Capabilities.mem_cells.mpr hsupported,
      checkCell_unbind (h tier op type hsupported) hslot⟩

end BindingTable

namespace Recipe

variable {recipe : Recipe} {tier : Tier} {slot : Slot} {type : ElementType}

/-- The recipe with a slot of its table left empty. -/
def unbind (recipe : Recipe) (tier : Tier) (slot : Slot) (type : ElementType) : Recipe :=
  { recipe with table := recipe.table.unbind tier slot type }

/-- The recipe with a callable bound to a slot of its table. -/
def bind (recipe : Recipe) (tier : Tier) (slot : Slot) (type : ElementType) (binding : Binding) :
    Recipe :=
  { recipe with table := recipe.table.bind tier slot type binding }

/-- Binding the callable that was taken out restores the recipe. -/
lemma bind_unbind {binding : Binding} (h : recipe.table.binding? tier slot type = some binding) :
    (recipe.unbind tier slot type).bind tier slot type binding = recipe := by
  have htable : (recipe.table.unbind tier slot type).bind tier slot type binding = recipe.table := by
    refine BindingTable.ext (funext fun r => funext fun s => funext fun t => ?_) rfl
    rw [BindingTable.binding?_bind, BindingTable.binding?_unbind]
    split
    · next hsame => rw [hsame.1, hsame.2.1, hsame.2.2, h]
    · rfl
  rw [bind, unbind, htable]

/-- A slot that is not required is not used by any kernel of a supported cell. -/
lemma agrees_unbind {other : Tier} {op : ArithOp} {type' : ElementType}
    (hfree : ¬recipe.capabilities.Requires tier slot type)
    (hsupported : recipe.capabilities.supports other op type' = true) :
    (recipe.unbind tier slot type).table.Agrees recipe.table other op type' := by
  refine BindingTable.agrees_unbind ?_
  rintro rfl rfl hslot
  exact hfree ⟨op, hsupported, hslot⟩

/-- The plan does not use a slot that is not required. -/
lemma chapters_unbind (hfree : ¬recipe.capabilities.Requires tier slot type) :
    (recipe.unbind tier slot type).chapters = recipe.chapters :=
  chapters_eq fun _ _ => cell_eq rfl fun _ htier =>
    agrees_unbind hfree (mem_acceleratedTiers.mp htier).1

/-- The check does not look at a slot that is not required. -/
lemma check_unbind_of_free (h : recipe.table.check recipe.capabilities = .ok ())
    (hfree : ¬recipe.capabilities.Requires tier slot type) :
    (recipe.unbind tier slot type).table.check recipe.capabilities = .ok () := by
  rw [BindingTable.check_eq_ok_iff] at h ⊢
  exact fun other op type' hsupported =>
    (agrees_unbind hfree hsupported).covers (h other op type' hsupported)

/-- Where generation succeeds, it needs exactly the required slots. Without a required slot it fails and
names that slot, whatever tiers are selected and whether the type is reserved or not. Without any other
slot the texts and the log are the same. Binding the callable again gives both back. -/
theorem generate_unbind {texts : Bundle String} {log : Array Log.Record}
    (h : recipe.generate = (.ok texts, log)) (tier : Tier) (slot : Slot) (type : ElementType) :
    (recipe.capabilities.Requires tier slot type → (recipe.unbind tier slot type).generate =
        (.error (.fault (.missingBinding tier slot type)), #[])) ∧
      (¬recipe.capabilities.Requires tier slot type →
        (recipe.unbind tier slot type).generate = (.ok texts, log)) ∧
      ∀ binding, recipe.table.binding? tier slot type = some binding →
        ((recipe.unbind tier slot type).bind tier slot type binding).generate = (.ok texts, log) := by
  have hcheck : recipe.table.check recipe.capabilities = .ok () := check_of_generate h
  refine ⟨fun hrequires => generate_of_fault (BindingTable.check_unbind hcheck hrequires),
    fun hfree => ?_, fun binding hbinding => ?_⟩
  · have hsame : (recipe.unbind tier slot type).generate = recipe.generate := by
      rw [generate_of_check (check_unbind_of_free hcheck hfree), generate_of_check hcheck,
        summaryRecord, summaryRecord, chapters_unbind hfree]
      rfl
    rw [hsame, h]
  · rw [bind_unbind hbinding, h]

/-- Without a tier that is selected, the shipped multiplication of 32 bits is still required; none of 64
bits is. -/
theorem generate_unbind_shipped : ∃ texts log, (Recipe.shipped .empty).generate = (.ok texts, log) ∧
    ((Recipe.shipped .empty).unbind .avx2 (.compute .mul) .int32).generate =
      (.error (.fault (.missingBinding .avx2 (.compute .mul) .int32)), #[]) ∧
    ((Recipe.shipped .empty).unbind .avx2 (.compute .mul) .int64).generate = (.ok texts, log) ∧
    (((Recipe.shipped .empty).unbind .avx2 (.compute .mul) .int32).bind .avx2 (.compute .mul) .int32
      (.ofPath "_mm256_mullo_epi32")).generate = (.ok texts, log) := by
  have hgenerate : (Recipe.shipped .empty).generate = _ :=
    generate_of_check BindingTable.check_shipped
  have hmultiply := generate_unbind hgenerate .avx2 (.compute .mul) .int32
  have hwide := generate_unbind hgenerate .avx2 (.compute .mul) .int64
  exact ⟨_, _, hgenerate, hmultiply.1 (by decide), hwide.2.1 (by decide), hmultiply.2.2 _ rfl⟩

end Recipe

end LaneKernels
