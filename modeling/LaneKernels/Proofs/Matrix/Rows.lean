import Mathlib.Tactic
import LaneKernels.Proofs.Generation.FirstDefect

/-!
Matrices from rows, and rows from matrices.

* `lastRow?_eq_some_iff` says which row is the last one for its pair of a tier and an operation, and
  `ofRows_eq_ok_iff` that a matrix has the answers of these rows, one for each pair. So the last rows are
  all that counts of a list of rows (`ofRows_congr`).
* `ofRows_eq_error_iff`: without a row for each pair, the first pair without one is reported.
* `rowsOf` writes the supported cells of a matrix as rows, from which the matrix is built again
  (`ofRows_rowsOf`).
* `ofRows_last_wins` puts this together with how the supported cells are listed.
-/

namespace LaneKernels.Capabilities

/-- The tier and the operation that a row is for. -/
def Row.pair (row : Row) : Tier × ArithOp :=
  (row.tier, row.op)

/-- The place of a pair in the order of tiers, then operations. -/
def pairRank (pair : Tier × ArithOp) : ℕ ×ₗ ℕ :=
  toLex (pair.1.index, pair.2.index)

variable {rows others : List Row} {row : Row} {tier : Tier} {op : ArithOp}

lemma Row.isFor_iff : row.isFor tier op = true ↔ row.pair = (tier, op) := by
  simp [Row.isFor, Row.pair]

lemma mem_pairs (pair : Tier × ArithOp) : pair ∈ pairs := by
  obtain ⟨tier, op⟩ := pair
  simp [pairs]

/-- The pairs are listed in their order. -/
lemma pairwise_pairs : pairs.Pairwise fun pair other => pairRank pair < pairRank other := by
  decide

/-! ### The last row for a pair -/

lemma lastRow?_append (rows others : List Row) (tier : Tier) (op : ArithOp) :
    lastRow? (rows ++ others) tier op = (lastRow? others tier op).or (lastRow? rows tier op) := by
  rw [lastRow?, List.reverse_append, List.find?_append]
  rfl

/-- The last row for a pair is for it, and no row behind it is. -/
lemma lastRow?_eq_some_iff : lastRow? rows tier op = some row ↔ row.pair = (tier, op) ∧
    ∃ before after, rows = before ++ row :: after ∧ ∀ later ∈ after, later.pair ≠ row.pair := by
  rw [lastRow?, List.find?_eq_some_iff_append, Row.isFor_iff]
  refine and_congr_right fun hpair => ⟨?_, ?_⟩
  · rintro ⟨after, before, hrows, hafter⟩
    refine ⟨before.reverse, after.reverse, ?_, fun later hlater => ?_⟩
    · rw [← List.reverse_reverse rows, hrows]
      simp
    · have hnot := hafter later (List.mem_reverse.mp hlater)
      rw [Bool.not_eq_true', ← Bool.not_eq_true, Row.isFor_iff] at hnot
      rwa [hpair]
  · rintro ⟨before, after, rfl, hafter⟩
    refine ⟨after.reverse, before.reverse, by simp, fun later hlater => ?_⟩
    rw [Bool.not_eq_true', ← Bool.not_eq_true, Row.isFor_iff, ← hpair]
    exact hafter later (List.mem_reverse.mp hlater)

lemma lastRow?_eq_none_iff : lastRow? rows tier op = .none ↔ (tier, op) ∉ rows.map Row.pair := by
  simp [lastRow?, ← Row.isFor_iff]

lemma exists_lastRow?_iff :
    (∃ row, lastRow? rows tier op = some row) ↔ (tier, op) ∈ rows.map Row.pair := by
  rw [← Option.ne_none_iff_exists', ne_eq, lastRow?_eq_none_iff, not_not]

/-- Where each pair has one row at most, that row is its last one. -/
lemma lastRow?_eq_some_iff_mem (h : (rows.map Row.pair).Nodup) :
    lastRow? rows tier op = some row ↔ row.pair = (tier, op) ∧ row ∈ rows := by
  rw [lastRow?_eq_some_iff]
  refine and_congr_right fun _ => ⟨?_, fun hrow => ?_⟩
  · rintro ⟨before, after, rfl, -⟩
    exact List.mem_append_right _ List.mem_cons_self
  · obtain ⟨before, after, rfl⟩ := List.append_of_mem hrow
    refine ⟨before, after, rfl, fun later hlater hpair => ?_⟩
    rw [List.map_append, List.map_cons] at h
    have hnodup := List.nodup_cons.mp h.of_append_right
    exact hnodup.1 (hpair ▸ List.mem_map_of_mem hlater)

/-- The last row for a pair is the last of those that are for it. -/
lemma lastRow?_eq_getLast? : lastRow? rows tier op = (rows.filter (·.isFor tier op)).getLast? := by
  rw [lastRow?, ← List.head?_filter, List.filter_reverse, List.head?_reverse]

/-- A row with a later one for its pair is the last row for nothing. -/
lemma lastRow?_of_shadowed {before after : List Row} (h : row.pair ∈ after.map Row.pair) :
    lastRow? (before ++ after) tier op = lastRow? (before ++ row :: after) tier op := by
  rw [lastRow?_append, lastRow?_append, ← List.singleton_append, lastRow?_append]
  by_cases hpair : row.pair = (tier, op)
  · obtain ⟨later, hlater⟩ := exists_lastRow?_iff.mpr (hpair ▸ h)
    rw [hlater]
    rfl
  · have hnone : lastRow? [row] tier op = .none := by
      rw [lastRow?_eq_none_iff, List.map_singleton, List.mem_singleton]
      exact Ne.symm hpair
    rw [hnone, Option.or_none]

/-! ### Building a matrix -/

lemma seen_eq_false_iff : (Sheet.ofRows rows).seen tier op = false ↔ (tier, op) ∉ rows.map Row.pair := by
  simp [Sheet.seen_ofRows, ← Row.isFor_iff]

/-- A pair has no row, and all pairs before it have one. -/
structure FirstMissing (rows : List Row) (pair : Tier × ArithOp) : Prop where
  missing : pair ∉ rows.map Row.pair
  before : ∀ other, pairRank other < pairRank pair → other ∈ rows.map Row.pair

lemma missingPair?_eq_some_iff {pair : Tier × ArithOp} :
    (Sheet.ofRows rows).missingPair? = some pair ↔ FirstMissing rows pair := by
  have hmissing : ∀ other : Tier × ArithOp, (!(Sheet.ofRows rows).seen other.1 other.2) = true ↔
      other ∉ rows.map Row.pair := fun other => by rw [Bool.not_eq_true', seen_eq_false_iff]
  have hthere : ∀ other : Tier × ArithOp, (!(Sheet.ofRows rows).seen other.1 other.2) = false ↔
      other ∈ rows.map Row.pair := fun other => by rw [← Bool.not_eq_true, hmissing, not_not]
  rw [Sheet.missingPair?, find?_eq_some_iff_of_sorted (fun _ _ => lt_asymm) pairwise_pairs, hmissing]
  simp only [hthere]
  exact ⟨fun h => ⟨h.2.1, fun other => h.2.2 other (mem_pairs other)⟩,
    fun h => ⟨mem_pairs pair, h.missing, fun other _ => h.before other⟩⟩

/-- The first pair without a row is reported. -/
lemma ofRows_eq_error_iff {fault : Fault} : ofRows rows = .error fault ↔
    ∃ pair, FirstMissing rows pair ∧ fault = .missingRow pair.1 pair.2 := by
  rw [ofRows]
  cases h : (Sheet.ofRows rows).missingPair? with
  | some pair =>
      constructor
      · rintro ⟨⟩
        exact ⟨pair, missingPair?_eq_some_iff.mp h, rfl⟩
      · rintro ⟨other, hother, rfl⟩
        rw [missingPair?_eq_some_iff.mpr hother, Option.some.injEq] at h
        rw [h]
  | none =>
      refine iff_of_false (fun h => by cases h) ?_
      rintro ⟨other, hother, -⟩
      rw [missingPair?_eq_some_iff.mpr hother] at h
      cases h

lemma missingPair?_eq_none_iff :
    (Sheet.ofRows rows).missingPair? = .none ↔ ∀ pair, pair ∈ rows.map Row.pair := by
  rw [Sheet.missingPair?, List.find?_eq_none]
  refine ⟨fun h pair => ?_, fun h pair _ => ?_⟩
  · have hseen := h pair (mem_pairs pair)
    rwa [Bool.not_eq_true', seen_eq_false_iff, not_not] at hseen
  · rw [Bool.not_eq_true', seen_eq_false_iff, not_not]
    exact h pair

lemma answers_of_lastRow? (h : lastRow? rows tier op = some row) :
    (Sheet.ofRows rows).answers tier op = row.supports := by
  funext type
  rw [Sheet.answers_ofRows]
  show (lastRow? rows tier op).any _ = _
  rw [h]
  rfl

/-- A matrix is built if each pair has a last row, and has its answers. -/
lemma ofRows_eq_ok_iff {caps : Capabilities} : ofRows rows = .ok caps ↔ ∀ tier op, ∃ row,
    lastRow? rows tier op = some row ∧ caps.supports tier op = row.supports := by
  rw [ofRows]
  cases h : (Sheet.ofRows rows).missingPair? with
  | some pair =>
      refine iff_of_false (fun h => by cases h) fun hrows => ?_
      obtain ⟨row, hrow, -⟩ := hrows pair.1 pair.2
      exact (missingPair?_eq_some_iff.mp h).missing (exists_lastRow?_iff.mp ⟨row, hrow⟩)
  | none =>
      constructor
      · rintro ⟨⟩ tier op
        obtain ⟨row, hrow⟩ := exists_lastRow?_iff.mpr (missingPair?_eq_none_iff.mp h (tier, op))
        exact ⟨row, hrow, answers_of_lastRow? hrow⟩
      · intro hcaps
        refine congrArg Except.ok (Capabilities.ext (funext fun tier => funext fun op => ?_))
        obtain ⟨row, hrow, hsupports⟩ := hcaps tier op
        rw [hsupports]
        exact answers_of_lastRow? hrow

/-- Nothing but the last rows counts. -/
lemma ofRows_congr (h : ∀ tier op, lastRow? others tier op = lastRow? rows tier op) :
    ofRows others = ofRows rows := by
  have hmem : ∀ pair, pair ∈ others.map Row.pair ↔ pair ∈ rows.map Row.pair := fun pair => by
    rw [← exists_lastRow?_iff, h, exists_lastRow?_iff]
  cases hrows : ofRows rows with
  | ok caps =>
      rw [ofRows_eq_ok_iff] at hrows ⊢
      simpa only [h] using hrows
  | error fault =>
      rw [ofRows_eq_error_iff] at hrows ⊢
      obtain ⟨pair, hpair, hfault⟩ := hrows
      exact ⟨pair, ⟨fun hin => hpair.missing ((hmem pair).mp hin),
        fun other hother => (hmem other).mpr (hpair.before other hother)⟩, hfault⟩

/-- There is a matrix exactly if each pair has a row. -/
lemma exists_ofRows_iff : (∃ caps, ofRows rows = .ok caps) ↔ ∀ pair, pair ∈ rows.map Row.pair := by
  constructor
  · rintro ⟨caps, hcaps⟩ ⟨tier, op⟩
    obtain ⟨row, hrow, -⟩ := ofRows_eq_ok_iff.mp hcaps tier op
    exact exists_lastRow?_iff.mp ⟨row, hrow⟩
  · intro hall
    cases hrows : ofRows rows with
    | ok caps => exact ⟨caps, rfl⟩
    | error fault =>
        obtain ⟨pair, hpair, -⟩ := ofRows_eq_error_iff.mp hrows
        exact absurd (hall pair) hpair.missing

/-! ### Listing the supported cells -/

/-- Rows for all pairs, with the answers of a list of supported cells. -/
def rowsOf (cells : List Cell) : List Row :=
  pairs.map fun (tier, op) => ⟨tier, op, fun type => ⟨tier, op, type⟩ ∈ cells⟩

lemma map_pair_rowsOf (cells : List Cell) : (rowsOf cells).map Row.pair = pairs := by
  rw [rowsOf, List.map_map]
  exact List.map_id pairs

/-- A matrix is built again from its supported cells. -/
lemma ofRows_rowsOf (caps : Capabilities) : ofRows (rowsOf caps.cells) = .ok caps := by
  have hnodup : ((rowsOf caps.cells).map Row.pair).Nodup := by
    rw [map_pair_rowsOf]
    decide
  refine ofRows_eq_ok_iff.mpr fun tier op =>
    ⟨_, (lastRow?_eq_some_iff_mem hnodup).mpr ⟨rfl, List.mem_map_of_mem (mem_pairs (tier, op))⟩, ?_⟩
  funext type
  simp

/-- The cells of an operation on a type are those of its tiers. -/
lemma filter_cells (caps : Capabilities) (op : ArithOp) (type : ElementType) :
    caps.cells.filter (fun cell => cell.op = op && cell.type = type) =
      (caps.tiersFor op type).map fun tier => ⟨tier, op, type⟩ := by
  have hall : allCells.filter (fun cell => cell.op = op && cell.type = type) =
      Tier.all.map fun tier => ⟨tier, op, type⟩ := by
    have htier : ∀ tier, (ArithOp.all.flatMap fun o => ElementType.all.map fun t =>
        (⟨tier, o, t⟩ : Cell)).filter (fun cell => cell.op = op && cell.type = type) =
          [⟨tier, op, type⟩] := by
      intro tier
      cases op <;> cases type <;> rfl
    rw [allCells, List.filter_flatMap, List.map_eq_flatMap]
    exact List.flatMap_congr fun tier _ => htier tier
  rw [cells, List.filter_comm, hall, List.filter_map]
  rfl

lemma nodup_cells (caps : Capabilities) : caps.cells.Nodup := by
  refine List.Pairwise.imp ?_ caps.pairwise_cells
  rintro cell _ h rfl
  exact lt_irrefl _ h

/-- A matrix is built from rows exactly if each pair of a tier and an operation has one. Otherwise the first
pair without a row is reported. The matrix has the answers of the last row for each pair, so it stays the
same if rows for different pairs change places, and if a row is left out that a later one replaces. The
supported cells of a matrix are listed once each and in order, like the tiers for an operation on a type,
and rows with these cells give the matrix again. -/
theorem ofRows_last_wins (rows : List Row) :
    ((∃ caps, ofRows rows = .ok caps) ↔ ∀ pair, pair ∈ rows.map Row.pair) ∧
      (∀ fault, ofRows rows = .error fault ↔
        ∃ pair, FirstMissing rows pair ∧ fault = .missingRow pair.1 pair.2) ∧
      (∀ caps, ofRows rows = .ok caps → ∀ tier op, ∃ before row after,
        rows = before ++ row :: after ∧ row.pair = (tier, op) ∧
        (∀ later ∈ after, later.pair ≠ row.pair) ∧
        ∀ type, caps.supports tier op type = row.supports type) ∧
      (∀ others, others.Perm rows → (rows.map Row.pair).Nodup → ofRows others = ofRows rows) ∧
      (∀ others, (∀ tier op, others.filter (·.isFor tier op) = rows.filter (·.isFor tier op)) →
        ofRows others = ofRows rows) ∧
      (∀ before row after, rows = before ++ row :: after → row.pair ∈ after.map Row.pair →
        ofRows (before ++ after) = ofRows rows) ∧
      ∀ caps : Capabilities,
        (caps.cells.Nodup ∧ (caps.cells.Pairwise fun cell other => cell.rank < other.rank) ∧
          ∀ cell, cell ∈ caps.cells ↔ caps.supports cell.tier cell.op cell.type = true) ∧
        (∀ op type, (caps.cells.filter fun cell => cell.op = op && cell.type = type).map Cell.tier =
          caps.tiersFor op type) ∧
        ofRows (rowsOf caps.cells) = .ok caps := by
  refine ⟨exists_ofRows_iff, fun fault => ofRows_eq_error_iff, fun caps hcaps tier op => ?_,
    fun others hperm hnodup => ?_, fun others hsame => ?_, ?_, fun caps => ⟨?_, fun op type => ?_, ?_⟩⟩
  · obtain ⟨row, hrow, hsupports⟩ := ofRows_eq_ok_iff.mp hcaps tier op
    obtain ⟨hpair, before, after, hrows, hafter⟩ := lastRow?_eq_some_iff.mp hrow
    exact ⟨before, row, after, hrows, hpair, hafter, fun type => congrFun hsupports type⟩
  · have hnodup' : (others.map Row.pair).Nodup := (hperm.map Row.pair).nodup_iff.mpr hnodup
    refine ofRows_congr fun tier op => Option.ext fun row => ?_
    rw [lastRow?_eq_some_iff_mem hnodup', lastRow?_eq_some_iff_mem hnodup, hperm.mem_iff]
  · refine ofRows_congr fun tier op => ?_
    rw [lastRow?_eq_getLast?, lastRow?_eq_getLast?, hsame]
  · rintro before row after rfl hshadowed
    exact ofRows_congr fun tier op => lastRow?_of_shadowed hshadowed
  · exact ⟨caps.nodup_cells, caps.pairwise_cells, fun _ => mem_cells⟩
  · rw [filter_cells, List.map_map]
    exact List.map_id _
  · exact ofRows_rowsOf caps

end LaneKernels.Capabilities
