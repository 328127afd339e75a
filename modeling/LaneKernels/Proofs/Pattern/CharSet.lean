import Mathlib.Tactic
import Mathlib.Data.List.Sort
import LaneKernels.Pattern.CharSet

/-!
The operations on sets of characters are those on sets.

* `normal` keeps what is in some ranges (`contains_normal`), so that `union`, `intersection` and
  `withOtherCase` need nothing of their ranges.
* The complement needs ranges with gaps between them. `normal` leaves such ranges if none ends before it starts
  (`Proper`, `apart_normal`), and no operation makes one that does.
* `contains_apply`: a code point is in the result of an operation between classes if the operation says so.
-/

namespace LaneKernels.Pattern

/-- A code point lies in a range. -/
def CodeRange.Holds (range : CodeRange) (code : ℕ) : Prop :=
  range.first ≤ code ∧ code ≤ range.last

namespace CharSet

/-- A code point lies in one of some ranges. -/
def Covers (ranges : List CodeRange) (code : ℕ) : Prop :=
  ∃ range ∈ ranges, range.Holds code

/-- The ranges are sorted by where they start. -/
def Ascending (ranges : List CodeRange) : Prop :=
  ranges.Pairwise (·.first ≤ ·.first)

/-- There is a gap between any two ranges. -/
def Apart (ranges : List CodeRange) : Prop :=
  ranges.Pairwise (·.last + 1 < ·.first)

/-- No range ends before it starts. -/
def Proper (set : CharSet) : Prop :=
  ∀ range ∈ set.ranges, range.first ≤ range.last

instance (set : CharSet) : Decidable set.Proper :=
  inferInstanceAs (Decidable (∀ range ∈ set.ranges, range.first ≤ range.last))

variable {range next r : CodeRange} {ranges rest : List CodeRange} {s t : CharSet} {code : ℕ}

lemma contains_iff : s.contains code = true ↔ Covers s.ranges code := by
  simp [contains, Covers, CodeRange.Holds]

lemma covers_cons : Covers (range :: rest) code ↔ range.Holds code ∨ Covers rest code := by
  simp [Covers]

lemma covers_append :
    Covers (ranges ++ rest) code ↔ Covers ranges code ∨ Covers rest code := by
  simp [Covers, or_and_right, exists_or]

/-! ### Sorting -/

lemma place_eq_orderedInsert (range : CodeRange) (ranges : List CodeRange) :
    place range ranges = ranges.orderedInsert (·.first ≤ ·.first) range := by
  induction ranges with
  | nil => rfl
  | cons next rest ih => rw [place, List.orderedInsert_cons, ih]

lemma sorted_eq_insertionSort (ranges : List CodeRange) :
    ranges.foldr place [] = ranges.insertionSort (·.first ≤ ·.first) := by
  rw [List.insertionSort]
  congr
  funext range ranges
  exact place_eq_orderedInsert range ranges

lemma mem_sorted : r ∈ ranges.foldr place [] ↔ r ∈ ranges := by
  rw [sorted_eq_insertionSort, List.mem_insertionSort]

lemma ascending_sorted (ranges : List CodeRange) : Ascending (ranges.foldr place []) := by
  have : Std.Total fun r s : CodeRange => r.first ≤ s.first := ⟨fun r s => le_total r.first s.first⟩
  have : IsTrans CodeRange fun r s => r.first ≤ s.first := ⟨fun _ _ _ => le_trans⟩
  rw [sorted_eq_insertionSort]
  exact List.pairwise_insertionSort _ ranges

/-! ### Joining -/

/-- Two ranges that are joined start where the first did. -/
lemma Ascending.merged (h : Ascending (range :: next :: rest)) (last : ℕ) :
    Ascending (⟨range.first, last⟩ :: rest) := by
  obtain ⟨hfirst, hnext⟩ := List.pairwise_cons.mp h
  exact List.pairwise_cons.mpr
    ⟨fun r hr => hfirst r (List.mem_cons_of_mem _ hr), (List.pairwise_cons.mp hnext).2⟩

lemma first_le_of_mem_join (h : Ascending (range :: ranges)) (hr : r ∈ join range ranges) :
    range.first ≤ r.first := by
  induction ranges generalizing range with
  | nil => exact (List.mem_singleton.mp hr) ▸ le_rfl
  | cons next rest ih =>
      rw [join] at hr
      split at hr
      · exact @ih ⟨range.first, max range.last next.last⟩ (h.merged _) hr
      · obtain rfl | hr := List.mem_cons.mp hr
        · exact le_rfl
        · exact List.rel_of_pairwise_cons h hr

lemma Ascending.join (h : Ascending (range :: ranges)) : Ascending (join range ranges) := by
  induction ranges generalizing range with
  | nil => exact h
  | cons next rest ih =>
      rw [CharSet.join]
      split
      · exact ih (h.merged _)
      · exact h

/-- A range and one that starts no later than behind it cover everything up to the greater of their ends. -/
lemma covers_join (h : Ascending (range :: ranges)) :
    Covers (join range ranges) code ↔ Covers (range :: ranges) code := by
  induction ranges generalizing range with
  | nil => rfl
  | cons next rest ih =>
      have hle := List.rel_of_pairwise_cons h List.mem_cons_self
      rw [join]
      split
      · have hboth : CodeRange.Holds ⟨range.first, max range.last next.last⟩ code ↔
            range.Holds code ∨ next.Holds code := by
          simp only [CodeRange.Holds]
          omega
        rw [ih (h.merged _), covers_cons, hboth, covers_cons, covers_cons, or_assoc]
      · rfl

lemma apart_join (h : Ascending (range :: ranges)) (hproper : ∀ r ∈ range :: ranges, r.first ≤ r.last)
    (hapart : Apart ranges) :
    Apart (join range ranges) ∧ ∀ r ∈ join range ranges, r.first ≤ r.last := by
  induction ranges generalizing range with
  | nil => exact ⟨List.pairwise_singleton _ _, hproper⟩
  | cons next rest ih =>
      have hrange := hproper range List.mem_cons_self
      rw [join]
      split
      · refine ih (h.merged _) (fun r hr => ?_) (List.pairwise_cons.mp hapart).2
        obtain rfl | hr := List.mem_cons.mp hr
        · exact hrange.trans (le_max_left _ _)
        · exact hproper r (List.mem_cons_of_mem _ (List.mem_cons_of_mem _ hr))
      · rename_i hgap
        refine ⟨List.pairwise_cons.mpr ⟨fun r hr => ?_, hapart⟩, hproper⟩
        exact (Nat.lt_of_not_le hgap).trans_le
          ((List.mem_cons.mp hr).elim (fun h => h ▸ le_rfl) (List.rel_of_pairwise_cons h.of_cons))

/-- What joining sorted ranges leaves: sorted ranges that hold the same, and gaps if no range ends before it
starts. -/
lemma joined (h : Ascending ranges) :
    Ascending (ranges.foldr join []) ∧
      (∀ first, (∀ r ∈ ranges, first ≤ r.first) → ∀ r ∈ ranges.foldr join [], first ≤ r.first) ∧
      (∀ code, Covers (ranges.foldr join []) code ↔ Covers ranges code) ∧
      ((∀ r ∈ ranges, r.first ≤ r.last) →
        Apart (ranges.foldr join []) ∧ ∀ r ∈ ranges.foldr join [], r.first ≤ r.last) := by
  induction ranges with
  | nil => exact ⟨.nil, by simp, by simp, fun _ => ⟨.nil, by simp⟩⟩
  | cons range rest ih =>
      obtain ⟨hrange, hrest⟩ := List.pairwise_cons.mp h
      obtain ⟨hsorted, hstart, hholds, hgaps⟩ := ih hrest
      have hcons : Ascending (range :: rest.foldr join []) :=
        List.pairwise_cons.mpr ⟨hstart range.first hrange, hsorted⟩
      refine ⟨hcons.join, fun first hfirst r hr => ?_, fun code => ?_, fun hproper => ?_⟩
      · exact (hfirst range List.mem_cons_self).trans (first_le_of_mem_join hcons hr)
      · rw [List.foldr_cons, covers_join hcons, covers_cons, hholds, covers_cons]
      · obtain ⟨hapart, hproper'⟩ := hgaps fun r hr => hproper r (List.mem_cons_of_mem _ hr)
        refine apart_join hcons (fun r hr => ?_) hapart
        exact (List.mem_cons.mp hr).elim (fun h => h ▸ hproper range List.mem_cons_self) (hproper' r)

lemma contains_normal : (normal ranges).contains code = true ↔ Covers ranges code := by
  rw [contains_iff, normal, (joined (ascending_sorted ranges)).2.2.1]
  simp only [Covers, mem_sorted]

lemma apart_normal (h : ∀ r ∈ ranges, r.first ≤ r.last) :
    Apart (normal ranges).ranges ∧ Proper (normal ranges) :=
  (joined (ascending_sorted ranges)).2.2.2 fun r hr => h r (mem_sorted.mp hr)

/-! ### Operations -/

theorem contains_union :
    (s.union t).contains code = true ↔ s.contains code = true ∨ t.contains code = true := by
  rw [union, contains_normal, covers_append, contains_iff, contains_iff]

lemma common?_eq_some {r s common : CodeRange} :
    common? r s = some common ↔
      common = ⟨max r.first s.first, min r.last s.last⟩ ∧ common.first ≤ common.last := by
  rw [common?]
  split
  · rename_i h
    rw [Option.some_inj]
    exact ⟨fun e => e ▸ ⟨rfl, h⟩, fun e => e.1.symm⟩
  · rename_i h
    constructor
    · exact fun e => nomatch e
    · rintro ⟨rfl, hle⟩
      exact absurd hle h

/-- What two ranges have in common is what lies in both. -/
lemma exists_common?_holds {r s : CodeRange} :
    (∃ common, common? r s = some common ∧ common.Holds code) ↔ r.Holds code ∧ s.Holds code := by
  simp only [common?_eq_some, CodeRange.Holds]
  constructor
  · rintro ⟨_, ⟨rfl, -⟩, h⟩
    simp only at h
    omega
  · intro h
    exact ⟨_, ⟨rfl, by simp only; omega⟩, by simp only; omega⟩

theorem contains_intersection :
    (s.intersection t).contains code = true ↔ s.contains code = true ∧ t.contains code = true := by
  rw [intersection, contains_normal, contains_iff, contains_iff]
  simp only [Covers, List.mem_flatMap, List.mem_filterMap]
  constructor
  · rintro ⟨common, ⟨r, hr, r', hr', hcommon⟩, hcode⟩
    obtain ⟨h, h'⟩ := exists_common?_holds.mp ⟨common, hcommon, hcode⟩
    exact ⟨⟨r, hr, h⟩, r', hr', h'⟩
  · rintro ⟨⟨r, hr, h⟩, r', hr', h'⟩
    obtain ⟨common, hcommon, hcode⟩ := exists_common?_holds.mpr ⟨h, h'⟩
    exact ⟨common, ⟨r, hr, r', hr', hcommon⟩, hcode⟩

/-- The gaps from a code point on, if no range ends before it. -/
lemma covers_gaps {start : ℕ} (h : Apart ranges) (hproper : ∀ r ∈ ranges, r.first ≤ r.last)
    (hstart : ∀ r ∈ ranges, start ≤ r.last + 1) (hcode : code ≤ lastCode) :
    Covers (gaps start ranges) code ↔ start ≤ code ∧ ¬ Covers ranges code := by
  induction ranges generalizing start with
  | nil =>
      rw [gaps]
      split <;> simp [Covers, CodeRange.Holds] <;> omega
  | cons range rest ih =>
      obtain ⟨hgap, hrest⟩ := List.pairwise_cons.mp h
      have hrange := hproper range List.mem_cons_self
      have hbehind : ∀ r ∈ rest, range.last + 1 ≤ r.last + 1 := by
        intro r hr
        have := hgap r hr
        have := hproper r (List.mem_cons_of_mem _ hr)
        omega
      have hmore := ih hrest (fun r hr => hproper r (List.mem_cons_of_mem _ hr)) hbehind
      have hfirst := hstart range List.mem_cons_self
      -- before the range there is nothing of those behind it
      have hclear : code < range.first → ¬ Covers rest code := by
        rintro hlt ⟨r, hr, hholds⟩
        have := hgap r hr
        have := hholds.1
        omega
      rw [gaps, covers_cons, not_or]
      split
      · rw [covers_cons, hmore]
        simp only [CodeRange.Holds]
        constructor
        · rintro (hin | ⟨hlt, hnone⟩)
          · exact ⟨hin.1, by omega, hclear (by omega)⟩
          · exact ⟨by omega, by omega, hnone⟩
        · rintro ⟨hle, hout, hnone⟩
          by_cases hlt : code < range.first
          · exact .inl ⟨hle, by omega⟩
          · exact .inr ⟨by omega, hnone⟩
      · rw [hmore]
        simp only [CodeRange.Holds]
        constructor
        · rintro ⟨hlt, hnone⟩
          exact ⟨by omega, by omega, hnone⟩
        · rintro ⟨hle, hout, hnone⟩
          exact ⟨by omega, hnone⟩

theorem contains_complement (hs : s.Proper) (hcode : code ≤ lastCode) :
    s.complement.contains code = true ↔ ¬ s.contains code = true := by
  obtain ⟨hapart, hproper⟩ := apart_normal hs
  rw [contains_iff, complement, covers_gaps hapart hproper (fun _ _ => Nat.zero_le _) hcode, ← contains_iff,
    contains_normal, contains_iff]
  exact and_iff_right (Nat.zero_le _)

/-! ### Letters -/

/-- The other case of a seven-bit letter; everything else is its own. -/
def otherCase (code : ℕ) : ℕ :=
  if 0x41 ≤ code ∧ code ≤ 0x5A then code + 32
  else if 0x61 ≤ code ∧ code ≤ 0x7A then code - 32
  else code

/-- The parts of some ranges within another one, moved by a distance. -/
lemma covers_moved {within : CodeRange} {up down : ℕ} (hdown : down ≤ within.first) :
    Covers (ranges.filterMap (moved within up down)) code ↔
      ∃ source, within.Holds source ∧ Covers ranges source ∧ code = source + up - down := by
  simp only [Covers, List.mem_filterMap, moved, Option.map_eq_some_iff]
  constructor
  · rintro ⟨_, ⟨range, hrange, common, hcommon, rfl⟩, hholds⟩
    obtain ⟨hcut, hle⟩ := common?_eq_some.mp hcommon
    have hfirst : down ≤ common.first := by
      rw [hcut]
      exact hdown.trans (le_max_left _ _)
    simp only [CodeRange.Holds] at hholds
    have hsource : common.Holds (code + down - up) := by
      simp only [CodeRange.Holds]
      omega
    obtain ⟨hwithin, hsource⟩ := exists_common?_holds.mp ⟨common, hcommon, hsource⟩
    exact ⟨_, hwithin, ⟨range, hrange, hsource⟩, by omega⟩
  · rintro ⟨source, hwithin, ⟨range, hrange, hsource⟩, rfl⟩
    obtain ⟨common, hcommon, hholds⟩ := exists_common?_holds.mpr ⟨hwithin, hsource⟩
    refine ⟨_, ⟨range, hrange, common, hcommon, rfl⟩, ?_⟩
    simp only [CodeRange.Holds] at hholds ⊢
    omega

theorem contains_withOtherCase :
    s.withOtherCase.contains code = true ↔ s.contains code = true ∨ s.contains (otherCase code) = true := by
  rw [withOtherCase, contains_normal, covers_append, covers_append, covers_moved (Nat.zero_le _),
    covers_moved (by decide), contains_iff, contains_iff, or_assoc]
  refine or_congr_right' fun hcode => ?_
  simp only [CodeRange.Holds, otherCase]
  constructor
  · rintro (⟨source, hwithin, hsource, rfl⟩ | ⟨source, hwithin, hsource, rfl⟩)
    · rw [if_neg (by omega), if_pos (by omega)]
      exact hsource
    · rw [if_pos (by omega), show source + 0 - 32 + 32 = source by omega]
      exact hsource
  · split
    · exact fun h => .inr ⟨code + 32, by omega, h, by omega⟩
    · split
      · exact fun h => .inl ⟨code - 32, by omega, h, by omega⟩
      · exact fun h => absurd h hcode

/-! ### Proper sets -/

lemma Proper.union (hs : s.Proper) (ht : t.Proper) : (s.union t).Proper := by
  refine (apart_normal fun r hr => ?_).2
  exact (List.mem_append.mp hr).elim (hs r) (ht r)

lemma Proper.intersection (s t : CharSet) : (s.intersection t).Proper := by
  refine (apart_normal fun r hr => ?_).2
  obtain ⟨_, -, hr⟩ := List.mem_flatMap.mp hr
  obtain ⟨_, -, hr⟩ := List.mem_filterMap.mp hr
  exact (common?_eq_some.mp hr).2

lemma Proper.withOtherCase (hs : s.Proper) : s.withOtherCase.Proper := by
  refine (apart_normal fun r hr => ?_).2
  have hmoved : ∀ {within up down}, r ∈ s.ranges.filterMap (moved within up down) → r.first ≤ r.last := by
    intro within up down hr
    obtain ⟨_, -, hr⟩ := List.mem_filterMap.mp hr
    obtain ⟨common, hcommon, rfl⟩ := Option.map_eq_some_iff.mp hr
    have := (common?_eq_some.mp hcommon).2
    simp only
    omega
  simp only [List.mem_append] at hr
  exact hr.elim (fun hr => hr.elim (hs r) hmoved) hmoved

lemma le_of_mem_gaps {start : ℕ} (hr : r ∈ gaps start ranges) : r.first ≤ r.last := by
  induction ranges generalizing start with
  | nil =>
      rw [gaps] at hr
      split at hr
      · rename_i hle
        exact (List.mem_singleton.mp hr) ▸ hle
      · exact absurd hr List.not_mem_nil
  | cons range rest ih =>
      rw [gaps] at hr
      split at hr
      · rename_i hlt
        obtain rfl | hr := List.mem_cons.mp hr
        · exact Nat.le_sub_one_of_lt hlt
        · exact ih hr
      · exact ih hr

lemma Proper.complement (s : CharSet) : s.complement.Proper :=
  fun _ => le_of_mem_gaps

/-! ### Classes -/

/-- What an operation between classes says of a code point that is in each of two sets or is not. -/
def means (op : ClassOp) (inLeft inRight : Prop) : Prop :=
  match op with
  | .intersection => inLeft ∧ inRight
  | .difference => inLeft ∧ ¬ inRight
  | .symmetricDifference => (inLeft ∨ inRight) ∧ ¬ (inLeft ∧ inRight)

/-- An operation between classes finds the code points that it says. -/
theorem contains_apply (op : ClassOp) (ht : t.Proper) (hcode : code ≤ lastCode) :
    (apply op s t).contains code = true ↔
      means op (s.contains code = true) (t.contains code = true) := by
  cases op with
  | intersection => exact contains_intersection
  | difference =>
      rw [apply, difference, contains_intersection, contains_complement ht hcode]
      rfl
  | symmetricDifference =>
      rw [apply, symmetricDifference, difference, contains_intersection,
        contains_complement (Proper.intersection s t) hcode, contains_union, contains_intersection]
      rfl

lemma Proper.apply (op : ClassOp) (s t : CharSet) : (apply op s t).Proper := by
  cases op <;> exact Proper.intersection _ _

end CharSet

end LaneKernels.Pattern
