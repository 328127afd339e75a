import Mathlib.Tactic
import LaneKernels.Generation
import LaneKernels.Proofs.Generation.FirstDefect
import LaneKernels.Proofs.Stateful

/-!
Planning after a successful check.

* `BindingTable.Covers`: the table has what one kernel needs, a register with room for an element and a
  callable in each of its slots. The check passes exactly when every supported cell is covered
  (`check_eq_ok_iff`).
* `BindingTable.routine` is the kernel that the table describes, without looking whether it is complete.
* `plan_eq`: once the check passes, planning never ends early, whatever tiers are selected. It gives the
  kernels that the table describes (`Recipe.chapters`) and a log that is known beforehand
  (`Recipe.records`).
-/

namespace LaneKernels

/-! ### What the check promises -/

namespace BindingTable

/-- The table has what the kernel of a tier for an operation on a type needs. -/
structure Covers (table : BindingTable) (tier : Tier) (op : ArithOp) (type : ElementType) : Prop where
  lanes_pos : 0 < tier.lanes type
  register : (table.register? tier type).isSome
  compute : (table.binding? tier (.compute op) type).isSome
  memory : ∀ slot ∈ Slot.memory, (table.binding? tier slot type).isSome

variable {table : BindingTable} {tier : Tier} {slot : Slot} {op : ArithOp} {type : ElementType}

lemma register_eq_ok_iff : (∃ register, table.register tier type = .ok register) ↔
    (table.register? tier type).isSome := by
  rw [register]
  cases table.register? tier type <;> simp

lemma binding_eq_ok_iff : (∃ binding, table.binding tier slot type = .ok binding) ↔
    (table.binding? tier slot type).isSome := by
  rw [binding]
  cases table.binding? tier slot type <;> simp

lemma checkCell_eq_ok_iff {cell : Capabilities.Cell} :
    table.checkCell cell = .ok () ↔ table.Covers cell.tier cell.op cell.type := by
  rw [checkCell_eq_ok_iff_met, forall_needs_iff, ← Tier.lanes_pos_iff]
  exact ⟨fun ⟨hlanes, hregister, hcompute, hmemory⟩ => ⟨hlanes, hregister, hcompute, hmemory⟩,
    fun h => ⟨h.lanes_pos, h.register, h.compute, h.memory⟩⟩

/-- The check passes exactly when every supported cell is covered. -/
lemma check_eq_ok_iff {caps : Capabilities} :
    table.check caps = .ok () ↔
      ∀ tier op type, caps.supports tier op type = true → table.Covers tier op type := by
  rw [check, forM_eq_ok_iff]
  constructor
  · intro h tier op type hcell
    exact checkCell_eq_ok_iff.mp (h ⟨tier, op, type⟩ (Capabilities.mem_cells.mpr hcell))
  · intro h cell hcell
    exact checkCell_eq_ok_iff.mpr (h _ _ _ (Capabilities.mem_cells.mp hcell))

/-! ### The kernels that a table describes -/

/-- The register type of a tier; none is read as the empty name. -/
def registerName (table : BindingTable) (tier : Tier) (type : ElementType) : String :=
  (table.register? tier type).getD ""

/-- The callable in a slot; none is read as the empty path. -/
def callable (table : BindingTable) (tier : Tier) (slot : Slot) (type : ElementType) : Binding :=
  (table.binding? tier slot type).getD (.ofPath "")

/-- The kernel that the table describes for a tier. -/
def routine (table : BindingTable) (op : ArithOp) (type : ElementType) (tier : Tier) : Routine where
  op := op
  type := type
  tier := tier
  register := table.registerName tier type
  alignedLoad := table.callable tier .alignedLoad type
  unalignedLoad := table.callable tier .unalignedLoad type
  compute := table.callable tier (.compute op) type
  alignedStore := table.callable tier .alignedStore type
  unalignedStore := table.callable tier .unalignedStore type
  lastLane := tier.lanes type - 1

lemma register_eq_registerName (h : (table.register? tier type).isSome) :
    table.register tier type = .ok (table.registerName tier type) := by
  obtain ⟨name, hname⟩ := Option.isSome_iff_exists.mp h
  simp [register, registerName, hname]

lemma binding_eq_callable (h : (table.binding? tier slot type).isSome) :
    table.binding tier slot type = .ok (table.callable tier slot type) := by
  obtain ⟨found, hfound⟩ := Option.isSome_iff_exists.mp h
  simp [binding, callable, hfound]

/-- The stride of a covered kernel is the number of lanes. -/
lemma Covers.stride_routine (h : table.Covers tier op type) :
    (table.routine op type tier).stride = tier.lanes type :=
  Nat.sub_add_cancel h.lanes_pos

end BindingTable

/-! ### Planning with a known log -/

namespace Planning

/-- Planning that succeeds with a value and adds some records, whatever the log is. -/
def Gives {α : Type} (planning : Planning α) (value : α) (records : List Log.Record) : Prop :=
  ∀ log, planning log = .ok value (log ++ records.toArray)

section

variable {α β : Type}

lemma gives_pure (value : α) : Gives (pure value) value [] := fun log => by
  show EStateM.Result.ok value log = .ok value (log ++ #[])
  rw [Array.append_empty]

lemma gives_log (level : Log.Level) (message : String) :
    Gives (log level message) () [⟨level, "lanewise_gen::emit", message⟩] := fun records => by
  show EStateM.Result.ok () (records.push _) = _
  rw [Array.push_eq_append]

lemma gives_ofExcept {look : Except Fault α} {value : α} (h : look = .ok value) :
    Gives (ofExcept look) value [] := by
  rw [h]
  exact gives_pure value

lemma gives_lastOf {n : ℕ} (h : 0 < n) : Gives (lastOf n) (n - 1) [] := by
  obtain ⟨m, rfl⟩ := Nat.exists_eq_succ_of_ne_zero (Nat.ne_of_gt h)
  exact gives_pure m

/-- One planning after another adds the records of both. -/
lemma Gives.bind {first : Planning α} {next : α → Planning β} {a : α} {b : β}
    {records more : List Log.Record} (hfirst : Gives first a records) (hnext : Gives (next a) b more) :
    Gives (first >>= next) b (records ++ more) := fun log => by
  rw [run_bind (hfirst log) (hnext _), Array.append_assoc, List.append_toArray records more]

/-- What is made of the value adds no records. -/
lemma Gives.bind_pure {first : Planning α} {a : α} {records : List Log.Record} (make : α → β)
    (h : Gives first a records) :
    Gives (first >>= fun a => pure (make a)) (make a) records := fun log =>
  run_bind (h log) rfl

/-- Planning along a list adds the records of its members in order. -/
lemma gives_mapM {step : α → Planning β} {f : α → β} {records : α → List Log.Record} {xs : List α}
    (h : ∀ x ∈ xs, Gives (step x) (f x) (records x)) :
    Gives (xs.mapM step) (xs.map f) (xs.flatMap records) := by
  induction xs with
  | nil => exact gives_pure []
  | cons x xs ih =>
      rw [List.mapM_cons, List.map_cons, List.flatMap_cons]
      have hrest := ih fun y hy => h y (List.mem_cons_of_mem x hy)
      exact (h x List.mem_cons_self).bind (hrest.bind_pure (f x :: ·))

end

end Planning

/-! ### The plan of a recipe -/

namespace Recipe

open Planning

/-- The record of one accelerated kernel. -/
def routineRecord (recipe : Recipe) (op : ArithOp) (type : ElementType) (tier : Tier) : Log.Record :=
  ⟨.trace, "lanewise_gen::emit",
    s!"  {routineName op type tier}: {tier.lanes type} lanes of {recipe.table.registerName tier type}"⟩

/-- The records of an operation on a type. -/
def cellRecords (recipe : Recipe) (op : ArithOp) (type : ElementType) : List Log.Record :=
  [⟨.debug, "lanewise_gen::emit", s!"emitting {op.name}/{type.shortName}"⟩,
    ⟨.trace, "lanewise_gen::emit", s!"  {defaultName op type}"⟩] ++
    (recipe.acceleratedTiers op type).map (recipe.routineRecord op type)

/-- The records of all operations on all types. -/
def records (recipe : Recipe) : List Log.Record :=
  ArithOp.all.flatMap fun op => ElementType.emitted.flatMap (recipe.cellRecords op)

/-- The kernels of an operation on a type. -/
def cell (recipe : Recipe) (op : ArithOp) (type : ElementType) : Cell :=
  ⟨op, type, (recipe.acceleratedTiers op type).map (recipe.table.routine op type)⟩

/-- The kernels of an operation. -/
def chapter (recipe : Recipe) (op : ArithOp) : Chapter :=
  ⟨op, ElementType.emitted.map (recipe.cell op)⟩

/-- All kernels. -/
def chapters (recipe : Recipe) : List Chapter :=
  ArithOp.all.map recipe.chapter

@[simp] lemma mem_acceleratedTiers {recipe : Recipe} {op : ArithOp} {type : ElementType} {tier : Tier} :
    tier ∈ recipe.acceleratedTiers op type ↔
      recipe.capabilities.supports tier op type = true ∧ recipe.tiers.contains tier = true := by
  simp [acceleratedTiers]

variable {recipe : Recipe} {op : ArithOp} {type : ElementType} {tier : Tier}

lemma planRoutine_eq (h : recipe.table.Covers tier op type) :
    Gives (recipe.planRoutine op type tier) (recipe.table.routine op type tier)
      [recipe.routineRecord op type tier] := by
  have hslot : ∀ slot, (recipe.table.binding? tier slot type).isSome →
      Gives (.ofExcept (recipe.table.binding tier slot type))
        (recipe.table.callable tier slot type) [] :=
    fun slot hsome => gives_ofExcept (BindingTable.binding_eq_callable hsome)
  have hmemory : ∀ slot ∈ Slot.memory, (recipe.table.binding? tier slot type).isSome := h.memory
  -- the look-ups leave the log alone, so the one record is all there is
  refine (gives_ofExcept (BindingTable.register_eq_registerName h.register)).bind ?_
  refine (hslot _ (hmemory _ (by simp [Slot.memory]))).bind ?_
  refine (hslot _ (hmemory _ (by simp [Slot.memory]))).bind ?_
  refine (hslot _ h.compute).bind ?_
  refine (hslot _ (hmemory _ (by simp [Slot.memory]))).bind ?_
  refine (hslot _ (hmemory _ (by simp [Slot.memory]))).bind ?_
  exact (gives_log _ _).bind ((gives_lastOf h.lanes_pos).bind (gives_pure _))

/-- The cells that a recipe selects are covered. -/
lemma covers_of_mem (h : recipe.table.check recipe.capabilities = .ok ())
    (htier : tier ∈ recipe.acceleratedTiers op type) : recipe.table.Covers tier op type :=
  BindingTable.check_eq_ok_iff.mp h tier op type (mem_acceleratedTiers.mp htier).1

lemma planCell_eq (h : recipe.table.check recipe.capabilities = .ok ()) :
    Gives (recipe.planCell op type) (recipe.cell op type) (recipe.cellRecords op type) := by
  have hroutines : Gives ((recipe.acceleratedTiers op type).mapM (recipe.planRoutine op type))
      ((recipe.acceleratedTiers op type).map (recipe.table.routine op type))
      ((recipe.acceleratedTiers op type).map (recipe.routineRecord op type)) := by
    rw [List.map_eq_flatMap (f := recipe.routineRecord op type)]
    exact gives_mapM fun tier htier => planRoutine_eq (covers_of_mem h htier)
  exact (gives_log _ _).bind ((gives_log _ _).bind (hroutines.bind_pure (Cell.mk op type)))

/-- Once the check passes, planning gives the kernels that the table describes. -/
lemma plan_eq (h : recipe.table.check recipe.capabilities = .ok ()) :
    Gives recipe.plan recipe.chapters recipe.records := by
  refine gives_mapM fun op _ => ?_
  have hcells : Gives (ElementType.emitted.mapM (recipe.planCell op))
      (ElementType.emitted.map (recipe.cell op))
        (ElementType.emitted.flatMap (recipe.cellRecords op)) :=
    gives_mapM fun type _ => planCell_eq h
  exact hcells.bind_pure (Chapter.mk op)

end Recipe

end LaneKernels
