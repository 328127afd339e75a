import Mathlib.Tactic
import LaneKernels.Proofs.Generation.Planning
import LaneKernels.Proofs.Generation.Rendering

/-!
A recipe is generated exactly when its table passes the check.

* `generate_of_check`: once the check passes, the texts are those of the plan, and the log is the plan's
  records and a summary. The shipped table passes it (`generate_shipped`).
* `generate_of_fault`: a defect that the check finds is the answer, and nothing is logged. So texts are
  only generated from a table that passes the check (`check_of_generate`).
* `generate_all_or_nothing` puts both together. What generation does after the check cannot fail: the
  look-ups for the selected kernels succeed, their registers have a lane, and their steps are written
  without leaving the outermost level.
-/

namespace LaneKernels.Recipe

variable {recipe : Recipe}

/-- The record that says how much was generated. -/
def summaryRecord (recipe : Recipe) : Log.Record :=
  ⟨.info, "lanewise_gen::emit", summary recipe.chapters recipe.tiers⟩

lemma generateLogged_of_check (h : recipe.table.check recipe.capabilities = .ok ()) :
    Planning.Gives recipe.generateLogged (Source.libraryTexts recipe.chapters)
      (recipe.records ++ [recipe.summaryRecord]) := by
  have hwrite := Source.write_eq recipe.chapters
  -- what is written is named, so that nothing below looks into it
  unfold generateLogged
  generalize Source.write = write, Source.libraryTexts recipe.chapters = texts at hwrite ⊢
  refine (Planning.gives_ofExcept h).bind ((plan_eq h).bind ?_)
  rw [hwrite]
  exact (Planning.gives_log _ _).bind_pure fun _ => texts

/-- Once the check passes, the texts and the log are those of the plan. -/
lemma generate_of_check (h : recipe.table.check recipe.capabilities = .ok ()) :
    recipe.generate =
      (.ok (Source.libraryTexts recipe.chapters),
        (recipe.records ++ [recipe.summaryRecord]).toArray) := by
  rw [generate, generateLogged_of_check h, Array.empty_append]

/-- The shipped tables pass the check, so the texts are generated for any tiers. -/
lemma generate_shipped (tiers : TierSet) : (shipped tiers).generate =
    (.ok (Source.libraryTexts (shipped tiers).chapters),
      ((shipped tiers).records ++ [(shipped tiers).summaryRecord]).toArray) :=
  generate_of_check BindingTable.check_shipped

/-- A defect that the check finds ends generation before anything is logged. -/
lemma generate_of_fault {fault : Fault} (h : recipe.table.check recipe.capabilities = .error fault) :
    recipe.generate = (.error (.fault fault), #[]) := by
  rw [generate, generateLogged, h]
  rfl

/-- Texts are only generated from a table that passes the check. -/
lemma check_of_generate {texts : Bundle String} {log : Array Log.Record}
    (h : recipe.generate = (.ok texts, log)) : recipe.table.check recipe.capabilities = .ok () := by
  cases hcheck : recipe.table.check recipe.capabilities with
  | ok => rfl
  | error fault =>
      rw [generate_of_fault hcheck] at h
      cases h

/-- Generation succeeds exactly when the check passes, whatever tiers are selected. Otherwise the defect
that the check reports is the answer, and nothing is logged. After the check no look-up for a selected
kernel fails, no register is without a lane, and no step leaves the outermost level. -/
theorem generate_all_or_nothing (recipe : Recipe) :
    ((∃ texts log, recipe.generate = (.ok texts, log)) ↔
        recipe.table.check recipe.capabilities = .ok ()) ∧
      (∀ fault, recipe.table.check recipe.capabilities = .error fault →
        recipe.generate = (.error (.fault fault), #[])) ∧
      (recipe.table.check recipe.capabilities = .ok () →
        (∀ op type, ∀ tier ∈ recipe.acceleratedTiers op type, 0 < tier.lanes type ∧
          (∃ register, recipe.table.register tier type = .ok register) ∧
          ∀ slot ∈ .compute op :: Slot.memory,
            ∃ binding, recipe.table.binding tier slot type = .ok binding) ∧
        ∃ chapters log draft, recipe.plan #[] = .ok chapters log ∧
          Draft.runAll (Source.librarySteps chapters) .empty = .ok () draft) := by
  refine ⟨⟨?_, fun hcheck => ⟨_, _, generate_of_check hcheck⟩⟩,
    fun fault hfault => generate_of_fault hfault, fun hcheck => ⟨fun op type tier htier => ?_, ?_⟩⟩
  · rintro ⟨texts, log, hgenerate⟩
    cases hcheck : recipe.table.check recipe.capabilities with
    | ok => rfl
    | error fault =>
        rw [generate_of_fault hcheck] at hgenerate
        cases hgenerate
  · have hcovers := covers_of_mem hcheck htier
    refine ⟨hcovers.lanes_pos, BindingTable.register_eq_ok_iff.mpr hcovers.register,
      fun slot hslot => ?_⟩
    rw [BindingTable.binding_eq_ok_iff]
    cases List.mem_cons.mp hslot with
    | inl hcompute =>
        rw [hcompute]
        exact hcovers.compute
    | inr hmemory => exact hcovers.memory slot hmemory
  · exact ⟨recipe.chapters, _, _, plan_eq hcheck #[], Source.run_librarySteps recipe.chapters⟩

/-- A gap for a tier that is not even selected ends generation. -/
example : (Recipe.mk .shipped (BindingTable.shipped.unbind .mmx .alignedLoad .int8) .empty).generate =
    (.error (.fault (.missingBinding .mmx .alignedLoad .int8)), #[]) :=
  generate_of_fault (by rfl)

end LaneKernels.Recipe
