import Mathlib.Tactic
import LaneKernels.BindingTable.Shipped

/-!
Which defect the check reports.

* `BindingTable.needs` lists what the kernel of a cell needs, in the order in which it is looked for, and
  `Need.Met` says when a table has it. The check of a cell asks for its needs one after the other
  (`checkCell_eq`).
* `find?_eq_some_iff_of_sorted` says what is found first in a sorted list. So a check over such a list reports
  a fault exactly when one member has it and no member before that one has any (`forM_eq_error_iff`).
* `check_reports_first` puts the two levels together: the check passes exactly when no supported cell
  lacks anything. Otherwise it reports the first need of the first cell. So it goes on to pass when
  cells are taken away, and when callables and register types are set.
-/

namespace LaneKernels

/-- The place of a cell in the order of tiers, then operations, then types. -/
def Capabilities.Cell.rank (cell : Capabilities.Cell) : ℕ ×ₗ ℕ ×ₗ ℕ :=
  toLex (cell.tier.index, toLex (cell.op.index, cell.type.index))

/-- The cells are listed in their order. -/
lemma Capabilities.pairwise_cells (caps : Capabilities) :
    caps.cells.Pairwise fun cell other => cell.rank < other.rank := by
  have htiers : Tier.all.Pairwise fun tier other => tier.index < other.index := by decide
  have hops : ArithOp.all.Pairwise fun op other => op.index < other.index := by decide
  have htypes : ElementType.all.Pairwise fun type other => type.index < other.index := by decide
  refine List.Pairwise.filter _ ?_
  simp only [allCells, List.pairwise_flatMap, List.pairwise_map, List.forall_mem_flatMap,
    List.forall_mem_map]
  refine ⟨fun tier _ => ⟨fun op _ => htypes.imp fun h => ?_, hops.imp fun h _ _ _ _ => ?_⟩,
    htiers.imp fun h _ _ _ _ _ _ _ _ => ?_⟩
  · exact Prod.Lex.toLex_lt_toLex.mpr (.inr ⟨rfl, Prod.Lex.toLex_lt_toLex.mpr (.inr ⟨rfl, h⟩)⟩)
  · exact Prod.Lex.toLex_lt_toLex.mpr (.inr ⟨rfl, Prod.Lex.toLex_lt_toLex.mpr (.inl h)⟩)
  · exact Prod.Lex.toLex_lt_toLex.mpr (.inl h)

/-! ### The first match in a sorted list -/

/-- What is found first in a sorted list is the one member that is looked for where no member before it
is. -/
lemma find?_eq_some_iff_of_sorted {α : Type} {before : α → α → Prop} {p : α → Bool} {xs : List α} {x : α}
    (hasymm : ∀ x y, before x y → ¬before y x) (hsorted : xs.Pairwise before) :
    xs.find? p = some x ↔ x ∈ xs ∧ p x = true ∧ ∀ y ∈ xs, before y x → p y = false := by
  induction xs with
  | nil => simp
  | cons first rest ih =>
      obtain ⟨hfirst, hrest⟩ := List.pairwise_cons.mp hsorted
      rw [List.find?_cons, List.forall_mem_cons]
      cases hp : p first with
      | true =>
          rw [Option.some.injEq]
          constructor
          · rintro rfl
            exact ⟨List.mem_cons_self, hp, fun h => absurd h (hasymm _ _ h),
              fun y hy h => absurd h (hasymm _ _ (hfirst y hy))⟩
          · rintro ⟨hx, -, hbefore, -⟩
            obtain rfl | hx := List.mem_cons.mp hx
            · rfl
            · cases hbefore (hfirst x hx)
      | false =>
          rw [ih hrest, List.mem_cons]
          constructor
          · rintro ⟨hx, hpx, hbefore⟩
            exact ⟨.inr hx, hpx, fun _ => rfl, hbefore⟩
          · rintro ⟨rfl | hx, hpx, -, hbefore⟩
            · rw [hp] at hpx
              cases hpx
            · exact ⟨hx, hpx, hbefore⟩

namespace BindingTable

/-! ### The needs of a cell -/

/-- What the kernel of a cell can need. -/
inductive Need where
  /-- Room for an element in the register. -/
  | room
  | register
  | callable (slot : Slot)
  deriving DecidableEq

/-- What the kernels of an operation need, in the order in which it is looked for. -/
def needs (op : ArithOp) : List Need :=
  [.room, .register, .callable (.compute op)] ++ Slot.memory.map .callable

namespace Need

/-- Whether a table has what the kernel of a cell needs. -/
def Met (table : BindingTable) (cell : Capabilities.Cell) : Need → Prop
  | room => cell.type.bits ≤ cell.tier.registerBits
  | register => (table.register? cell.tier cell.type).isSome
  | callable slot => (table.binding? cell.tier slot cell.type).isSome

instance (table : BindingTable) (cell : Capabilities.Cell) (need : Need) :
    Decidable (need.Met table cell) :=
  match need with
  | room => inferInstanceAs (Decidable (_ ≤ _))
  | register | callable _ => inferInstanceAs (Decidable (_ = true))

/-- The defect of a cell that lacks what its kernel needs. -/
def fault (cell : Capabilities.Cell) : Need → Fault
  | room => .typeTooWide cell.tier cell.type
  | register => .missingRegister cell.tier cell.type
  | callable slot => .missingBinding cell.tier slot cell.type

end Need

/-- A cell lacks something that its kernel needs, no earlier cell lacks anything, and the cell lacks
nothing that is looked for before. -/
structure FirstDefect (table : BindingTable) (caps : Capabilities) (cell : Capabilities.Cell)
    (need : Need) : Prop where
  supported : caps.supports cell.tier cell.op cell.type = true
  needed : need ∈ needs cell.op
  unmet : ¬need.Met table cell
  cells_before : ∀ other, caps.supports other.tier other.op other.type = true →
    other.rank < cell.rank → ∀ required ∈ needs other.op, required.Met table other
  needs_before : ∀ required ∈ needs cell.op,
    (needs cell.op).idxOf required < (needs cell.op).idxOf need → required.Met table cell

variable {table : BindingTable} {caps : Capabilities} {cell : Capabilities.Cell} {need : Need}

lemma pairwise_needs (op : ArithOp) :
    (needs op).Pairwise fun need other => (needs op).idxOf need < (needs op).idxOf other := by
  cases op <;> decide

/-- Asks that a table has what the kernel of a cell needs. -/
def ask (table : BindingTable) (cell : Capabilities.Cell) (need : Need) : Except Fault Unit :=
  if need.Met table cell then .ok () else .error (need.fault cell)

lemma ask_eq_ok_iff : table.ask cell need = .ok () ↔ need.Met table cell := by
  rw [ask]
  split <;> simp [*]

lemma ask_eq_error_iff {fault : Fault} :
    table.ask cell need = .error fault ↔ ¬need.Met table cell ∧ fault = need.fault cell := by
  rw [ask]
  split <;> simp [*, eq_comm]

lemma ask_register :
    table.ask cell .register = table.register cell.tier cell.type >>= fun _ => pure () := by
  rw [ask, register]
  cases h : table.register? cell.tier cell.type <;> simp [Need.Met, Need.fault, h]

lemma ask_callable (slot : Slot) :
    table.ask cell (.callable slot) =
      table.binding cell.tier slot cell.type >>= fun _ => pure () := by
  rw [ask, binding]
  cases h : table.binding? cell.tier slot cell.type <;> simp [Need.Met, Need.fault, h]

lemma ask_room : table.ask cell .room =
    if cell.tier.lanes cell.type = 0 then .error (.typeTooWide cell.tier cell.type) else .ok () := by
  rw [ask]
  by_cases h : cell.tier.lanes cell.type = 0
  · rw [if_pos h, if_neg]
    · rfl
    · exact fun hmet => Nat.ne_of_gt (Tier.lanes_pos_iff.mpr hmet) h
  · rw [if_neg h, if_pos]
    exact Tier.lanes_pos_iff.mp (Nat.pos_of_ne_zero h)

/-- The check of a cell asks for its needs one after the other. -/
lemma checkCell_eq (table : BindingTable) (cell : Capabilities.Cell) :
    table.checkCell cell = (needs cell.op).forM (table.ask cell) := by
  have hmemory : (Slot.memory.map Need.callable).forM (table.ask cell) =
      Slot.memory.forM fun slot => table.binding cell.tier slot cell.type >>= fun _ => pure () := by
    rw [List.forM_eq_forM, List.forM_map, List.forM_eq_forM]
    exact congrArg _ (funext ask_callable)
  rw [needs, List.forM_eq_forM]
  simp only [List.cons_append, List.nil_append, List.forM_cons, ask_room, ask_register, ask_callable,
    bind_assoc, pure_bind]
  rw [← List.forM_eq_forM, hmemory, checkCell]
  by_cases hlanes : cell.tier.lanes cell.type = 0
  · rw [if_pos hlanes, if_pos hlanes]
    rfl
  · rw [if_neg hlanes, if_neg hlanes]
    rfl

/-! ### The first failure in a sorted list -/

/-- A check over a list passes exactly when it passes for each member. -/
lemma forM_eq_ok_iff {α : Type} {request : α → Except Fault Unit} {xs : List α} :
    xs.forM request = .ok () ↔ ∀ x ∈ xs, request x = .ok () := by
  induction xs with
  | nil => exact ⟨fun _ x hx => absurd hx List.not_mem_nil, fun _ => rfl⟩
  | cons first rest ih =>
      rw [List.forM_eq_forM, List.forM_cons, List.forall_mem_cons, ← ih, List.forM_eq_forM]
      cases request first with
      | error fault =>
          constructor
          · intro h
            cases h
          · rintro ⟨h, -⟩
            cases h
      | ok done => exact ⟨fun h => ⟨rfl, h⟩, fun h => h.2⟩

/-- A check over a list reports the fault of the first member that has one. -/
lemma forM_eq_error_iff_find? {α : Type} {request : α → Except Fault Unit} {xs : List α} {fault : Fault} :
    xs.forM request = .error fault ↔
      ∃ x, xs.find? (fun x => !(request x).isOk) = some x ∧ request x = .error fault := by
  induction xs with
  | nil => simp [pure, Except.pure]
  | cons first rest ih =>
      rw [List.forM_eq_forM, List.forM_cons, List.find?_cons]
      cases hask : request first with
      | error found =>
          constructor
          · rintro ⟨⟩
            exact ⟨first, rfl, hask⟩
          · rintro ⟨x, ⟨⟩, herror⟩
            rw [hask] at herror
            exact herror
      | ok done => exact ih

/-- A check over a sorted list reports the fault of the one member that has a fault where no member before
it has any. -/
lemma forM_eq_error_iff {α : Type} {before : α → α → Prop} {request : α → Except Fault Unit}
    {xs : List α} {fault : Fault} (hasymm : ∀ x y, before x y → ¬before y x)
    (hsorted : xs.Pairwise before) :
    xs.forM request = .error fault ↔
      ∃ x ∈ xs, request x = .error fault ∧ ∀ y ∈ xs, before y x → request y = .ok () := by
  have hpasses : ∀ x, (!(request x).isOk) = false ↔ request x = .ok () := by
    intro x
    cases request x <;> simp [Except.isOk, Except.toBool]
  simp only [forM_eq_error_iff_find?, find?_eq_some_iff_of_sorted hasymm hsorted, hpasses]
  refine exists_congr fun x => ⟨?_, ?_⟩
  · rintro ⟨⟨hx, -, hbefore⟩, herror⟩
    exact ⟨hx, herror, hbefore⟩
  · rintro ⟨hx, herror, hbefore⟩
    exact ⟨⟨hx, by rw [herror]; rfl, hbefore⟩, herror⟩

lemma checkCell_eq_ok_iff_met :
    table.checkCell cell = .ok () ↔ ∀ need ∈ needs cell.op, need.Met table cell := by
  rw [checkCell_eq, forM_eq_ok_iff]
  exact forall₂_congr fun need _ => ask_eq_ok_iff

lemma checkCell_eq_error_iff {fault : Fault} : table.checkCell cell = .error fault ↔
    ∃ need ∈ needs cell.op, ¬need.Met table cell ∧ fault = need.fault cell ∧
      ∀ required ∈ needs cell.op,
        (needs cell.op).idxOf required < (needs cell.op).idxOf need → required.Met table cell := by
  rw [checkCell_eq, forM_eq_error_iff (fun _ _ => lt_asymm) (pairwise_needs cell.op)]
  simp only [ask_eq_error_iff, ask_eq_ok_iff, and_assoc]

lemma check_eq_ok_iff_met : table.check caps = .ok () ↔
    ∀ cell : Capabilities.Cell, caps.supports cell.tier cell.op cell.type = true →
      ∀ need ∈ needs cell.op, need.Met table cell := by
  simp only [check, forM_eq_ok_iff, Capabilities.mem_cells, checkCell_eq_ok_iff_met]

/-- What it means that a cell lacks nothing. -/
lemma forall_needs_iff : (∀ need ∈ needs cell.op, need.Met table cell) ↔
    cell.type.bits ≤ cell.tier.registerBits ∧ (table.register? cell.tier cell.type).isSome ∧
      (table.binding? cell.tier (.compute cell.op) cell.type).isSome ∧
      ∀ slot ∈ Slot.memory, (table.binding? cell.tier slot cell.type).isSome := by
  simp only [needs, List.forall_mem_append, List.forall_mem_cons, List.forall_mem_map]
  simp [Need.Met, and_assoc]

/-- A failed check reports the first defect. -/
lemma check_eq_error_iff {fault : Fault} : table.check caps = .error fault ↔
    ∃ cell need, FirstDefect table caps cell need ∧ fault = need.fault cell := by
  rw [check, forM_eq_error_iff (fun _ _ => lt_asymm) caps.pairwise_cells]
  simp only [Capabilities.mem_cells, checkCell_eq_ok_iff_met, checkCell_eq_error_iff]
  constructor
  · rintro ⟨cell, hsupported, ⟨need, hneeded, hunmet, hfault, hneeds⟩, hcells⟩
    exact ⟨cell, need, ⟨hsupported, hneeded, hunmet, hcells, hneeds⟩, hfault⟩
  · rintro ⟨cell, need, h, hfault⟩
    exact ⟨cell, h.supported, ⟨need, h.needed, h.unmet, hfault, h.needs_before⟩, h.cells_before⟩

/-- A table with at least what another one has meets every need that the other one meets. -/
lemma Need.Met.mono {other : BindingTable} (h : need.Met table cell)
    (hregister : ∀ tier type, (table.register? tier type).isSome → (other.register? tier type).isSome)
    (hbinding : ∀ tier slot type,
      (table.binding? tier slot type).isSome → (other.binding? tier slot type).isSome) :
    need.Met other cell := by
  cases need with
  | room => exact h
  | register => exact hregister _ _ h
  | callable slot => exact hbinding _ _ _ h

/-- The check passes exactly when every supported cell has room in the register, a register type and a
callable in each slot that its kernel uses. Otherwise it reports the first thing that the first cell
lacks, in the order of tiers, operations and types. So it goes on to pass when fewer cells are
supported, and when a callable is bound or a register type is set. -/
theorem check_reports_first (table : BindingTable) (caps : Capabilities) :
    (table.check caps = .ok () ↔
        ∀ cell : Capabilities.Cell, caps.supports cell.tier cell.op cell.type = true →
          cell.type.bits ≤ cell.tier.registerBits ∧ (table.register? cell.tier cell.type).isSome ∧
          (table.binding? cell.tier (.compute cell.op) cell.type).isSome ∧
          ∀ slot ∈ Slot.memory, (table.binding? cell.tier slot cell.type).isSome) ∧
      (∀ fault, table.check caps = .error fault ↔
        ∃ cell need, FirstDefect table caps cell need ∧ fault = need.fault cell) ∧
      (table.check caps = .ok () →
        (∀ fewer : Capabilities, (∀ tier op type,
            fewer.supports tier op type = true → caps.supports tier op type = true) →
          table.check fewer = .ok ()) ∧
        (∀ tier slot type binding, (table.bind tier slot type binding).check caps = .ok ()) ∧
        ∀ tier type register, (table.setRegister tier type register).check caps = .ok ()) := by
  refine ⟨?_, fun fault => check_eq_error_iff, fun h => ?_⟩
  · rw [check_eq_ok_iff_met]
    exact forall₂_congr fun cell _ => forall_needs_iff
  · rw [check_eq_ok_iff_met] at h
    simp only [check_eq_ok_iff_met]
    refine ⟨fun fewer hfewer cell hcell => h cell (hfewer _ _ _ hcell), ?_, ?_⟩
    · intro tier slot type binding cell hcell need hneed
      refine (h cell hcell need hneed).mono (fun _ _ => id) fun r s t hsome => ?_
      rw [binding?_bind]
      split
      · rfl
      · exact hsome
    · intro tier type register cell hcell need hneed
      refine (h cell hcell need hneed).mono (fun r t hsome => ?_) fun _ _ _ => id
      rw [register?_setRegister]
      split
      · rfl
      · exact hsome

/-- Of two defects of one cell the missing computation is reported, not the missing store. -/
example : ((shipped.unbind .sse .unalignedStore .float32).unbind .sse (.compute .add) .float32).check
    .shipped = .error (.missingBinding .sse (.compute .add) .float32) := by
  rfl

end BindingTable

end LaneKernels
