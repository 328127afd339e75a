import Mathlib.Tactic
import LaneKernels.Lanes
import LaneKernels.PackedWord

/-!
Packed arithmetic in one word, lane by lane.

The masked sum and the masked difference are one addition with a carry that enters every lane afresh.

* `IsTopMask`: a mask that holds exactly the top bit of each lane.
* `carry_lane`: inside a lane the carries of the word are the carries of the lane alone, once the
  carry into the lane is known; `carry_boundary`: that carry is the one that enters the word, since
  both top bits of the lane before agree with it.
* `lane_patched`: the top bits patched back by exclusive or complete the sum of each lane.
* `lane_addWith`, `lane_subWith`, `lane_mulLow16`: the packed sum, difference and product have in
  each lane the sum, difference and low product of the lanes.
* `Packs`: an operation on words is one on the integers in each lane, whether lanes are read with or
  without a sign; `packed_arithmetic` says so of all packed operations.
-/

namespace LaneKernels.PackedWord

open BitVec (carry ofBool)
open Lanes (lane getLsbD_lane)

/-! ### Masks of the top bits -/

/-- The mask holds exactly the top bit of each lane. -/
def IsTopMask (width : ℕ) (high : BitVec 64) : Prop :=
  ∀ i < 64, high.getLsbD i = decide (i % width = width - 1)

lemma isTopMask_high8 : IsTopMask 8 high8 := by
  unfold IsTopMask
  decide

lemma isTopMask_high16 : IsTopMask 16 high16 := by
  unfold IsTopMask
  decide

lemma isTopMask_high32 : IsTopMask 32 high32 := by
  unfold IsTopMask
  decide

/-- Bit `j` of lane `k` is masked when it is the last of the lane. -/
lemma IsTopMask.getLsbD_lane {width k j : ℕ} {high : BitVec 64} (h : IsTopMask width high)
    (hj : j < width) (hfit : width * (k + 1) ≤ 64) :
    high.getLsbD (width * k + j) = decide (j = width - 1) := by
  rw [Nat.mul_add_one] at hfit
  rw [h _ (by omega), Nat.mul_add_mod, Nat.mod_eq_of_lt hj]

/-! ### Carries -/

/-- Inside a lane, the carries of the word are those of the lane, given the carry into it. -/
lemma carry_lane {n width base m : ℕ} {x y : BitVec n} {u v : BitVec width} {c d : Bool}
    (hbase : carry base x y c = d) (hx : ∀ j < m, x.getLsbD (base + j) = u.getLsbD j)
    (hy : ∀ j < m, y.getLsbD (base + j) = v.getLsbD j) {j : ℕ} (hj : j ≤ m) :
    carry (base + j) x y c = carry j u v d := by
  induction j with
  | zero => simpa using hbase
  | succ j ih =>
      rw [← Nat.add_assoc, BitVec.carry_succ, BitVec.carry_succ, ih (by omega), hx j (by omega),
        hy j (by omega)]

/-- Where both top bits of a lane agree with the carry that enters the word, so does the carry that
leaves the lane. -/
lemma carry_boundary {n width : ℕ} {x y : BitVec n} {c : Bool} (hwidth : 0 < width) {k : ℕ}
    (hx : ∀ l < k, x.getLsbD (width * l + (width - 1)) = c)
    (hy : ∀ l < k, y.getLsbD (width * l + (width - 1)) = c) :
    carry (width * k) x y c = c := by
  cases k with
  | zero => simp
  | succ l =>
      have hlast : width * (l + 1) = width * l + (width - 1) + 1 := by
        rw [Nat.mul_add_one]
        omega
      rw [hlast, BitVec.carry_succ, hx l (by omega), hy l (by omega)]
      cases c <;> simp [Bool.atLeastTwo]

/-! ### Sums and differences -/

section

variable {width k : ℕ} {high : BitVec 64}

/-- With the top bits of both terms set to the carry that enters the word, the sum has in each lane the
sum of the lanes, its top bit patched back by exclusive or. -/
lemma lane_patched (hhigh : IsTopMask width high) (hwidth : 0 < width)
    (hfit : width * (k + 1) ≤ 64) (c : Bool) {x y a b : BitVec 64}
    (hx : ∀ i < 64, x.getLsbD i = if high.getLsbD i then c else a.getLsbD i)
    (hy : ∀ i < 64, y.getLsbD i = if high.getLsbD i then c else b.getLsbD i) :
    lane width k ((x + y + (ofBool c).setWidth 64) ^^^ ((a ^^^ b) &&& high)) =
      lane width k a + lane width k b + (ofBool c).setWidth width := by
  have hsucc := Nat.mul_add_one width k
  have hin : ∀ j < width, width * k + j < 64 := fun j hj => by omega
  have htop : ∀ l < k, width * (l + 1) ≤ 64 := fun l hl =>
    (Nat.mul_le_mul_left width (by omega)).trans hfit
  have hlow : ∀ {p q : BitVec 64}, (∀ i < 64, p.getLsbD i = if high.getLsbD i then c else q.getLsbD i) →
      ∀ j < width - 1, p.getLsbD (width * k + j) = (lane width k q).getLsbD j := by
    intro p q hp j hj
    rw [hp _ (hin j (by omega)), hhigh.getLsbD_lane (by omega) hfit, getLsbD_lane _ _ _ (by omega)]
    simp [show j ≠ width - 1 by omega]
  have hlast : ∀ {p q : BitVec 64},
      (∀ i < 64, p.getLsbD i = if high.getLsbD i then c else q.getLsbD i) →
      ∀ l, width * (l + 1) ≤ 64 → p.getLsbD (width * l + (width - 1)) = c := by
    intro p q hp l hl
    have hsuccl := Nat.mul_add_one width l
    rw [hp _ (by omega), hhigh.getLsbD_lane (by omega) hl]
    simp
  have hcarry : ∀ j ≤ width - 1, carry (width * k + j) x y c =
      carry j (lane width k a) (lane width k b) c := fun j hj =>
    carry_lane (carry_boundary hwidth (fun l hl => hlast hx l (htop l hl))
      fun l hl => hlast hy l (htop l hl)) (hlow hx) (hlow hy) hj
  apply BitVec.eq_of_getLsbD_eq
  intro j hj
  rw [getLsbD_lane _ _ _ hj, BitVec.getLsbD_xor, BitVec.getLsbD_add_add_bool (hin j hj),
    BitVec.getLsbD_add_add_bool hj, BitVec.getLsbD_and, BitVec.getLsbD_xor,
    hhigh.getLsbD_lane hj hfit, hcarry j (by omega), getLsbD_lane _ _ _ hj, getLsbD_lane _ _ _ hj]
  by_cases hjlast : j = width - 1
  · subst hjlast
    rw [hlast hx k hfit, hlast hy k hfit]
    cases c <;> simp [Bool.xor_comm]
  · rw [hlow hx j (by omega), hlow hy j (by omega), getLsbD_lane _ _ _ hj, getLsbD_lane _ _ _ hj]
    simp [hjlast]

/-- The packed sum has in each lane the sum of the lanes. -/
lemma lane_addWith (hhigh : IsTopMask width high) (hwidth : 0 < width)
    (hfit : width * (k + 1) ≤ 64) (a b : BitVec 64) :
    lane width k (addWith high a b) = lane width k a + lane width k b := by
  have hbits : ∀ p : BitVec 64, ∀ i < 64,
      (p &&& ~~~high).getLsbD i = if high.getLsbD i then false else p.getLsbD i := by
    intro p i hi
    rw [BitVec.getLsbD_and, BitVec.getLsbD_not]
    cases high.getLsbD i <;> simp [hi]
  have h := lane_patched hhigh hwidth hfit false (hbits a) (hbits b)
  simpa [addWith] using h

/-- A lane of the complement is the complement of the lane. -/
lemma lane_not (hfit : width * (k + 1) ≤ 64) (b : BitVec 64) :
    lane width k (~~~b) = ~~~lane width k b := by
  have hsucc := Nat.mul_add_one width k
  apply BitVec.eq_of_getLsbD_eq
  intro j hj
  rw [getLsbD_lane _ _ _ hj, BitVec.getLsbD_not, BitVec.getLsbD_not, getLsbD_lane _ _ _ hj]
  simp [hj, show width * k + j < 64 by omega]

/-- A difference is a sum with the complement and a carry. -/
lemma sub_eq_add_not {n : ℕ} (x y : BitVec n) :
    x - y = x + ~~~y + (ofBool true).setWidth n := by
  rw [BitVec.sub_eq_add_neg, BitVec.neg_eq_not_add, ← BitVec.add_assoc]
  congr 1
  apply BitVec.eq_of_toNat_eq
  simp

/-- The packed difference has in each lane the difference of the lanes. -/
lemma lane_subWith (hhigh : IsTopMask width high) (hwidth : 0 < width)
    (hfit : width * (k + 1) ≤ 64) (a b : BitVec 64) :
    lane width k (subWith high a b) = lane width k a - lane width k b := by
  have ha : ∀ i < 64, (a ||| high).getLsbD i = if high.getLsbD i then true else a.getLsbD i := by
    intro i _
    rw [BitVec.getLsbD_or]
    cases high.getLsbD i <;> simp
  have hb : ∀ i < 64, (~~~(b &&& ~~~high)).getLsbD i =
      if high.getLsbD i then true else (~~~b).getLsbD i := by
    intro i hi
    rw [BitVec.getLsbD_not, BitVec.getLsbD_and, BitVec.getLsbD_not, BitVec.getLsbD_not]
    cases high.getLsbD i <;> simp [hi]
  have h := lane_patched hhigh hwidth hfit true ha hb
  rw [lane_not hfit, ← sub_eq_add_not, ← sub_eq_add_not] at h
  exact h

end

/-! ### Products -/

/-- A lane of two words laid over each other. -/
lemma lane_or (width k : ℕ) (x y : BitVec 64) :
    lane width k (x ||| y) = lane width k x ||| lane width k y := by
  apply BitVec.eq_of_getLsbD_eq
  intro j hj
  simp [getLsbD_lane _ _ _ hj]

/-- A product stands in its own lane and nowhere else. -/
lemma lane_productAt {k l : ℕ} (hk : k < 4) (a b : BitVec 64) :
    lane 16 k (productAt a b (16 * l)) = if k = l then lane 16 k a * lane 16 k b else 0 := by
  have hlane : ∀ x : BitVec 64, (x >>> (16 * l)).setWidth 16 = lane 16 l x := fun x => by
    apply BitVec.eq_of_getLsbD_eq
    intro j hj
    rw [getLsbD_lane _ _ _ hj, BitVec.getLsbD_setWidth, BitVec.getLsbD_ushiftRight]
    simp [hj]
  apply BitVec.eq_of_getLsbD_eq
  intro j hj
  rw [getLsbD_lane _ _ _ hj, productAt, hlane, hlane, BitVec.getLsbD_shiftLeft, BitVec.getLsbD_setWidth]
  by_cases h : k = l
  · subst h
    simp [show 16 * k + j < 64 by omega, show 16 * k + j - 16 * k = j by omega, show j < 64 by omega]
  · rw [if_neg h]
    by_cases hlt : 16 * k + j < 16 * l
    · simp [hlt]
    · have hge : 16 ≤ 16 * k + j - 16 * l := by omega
      rw [BitVec.getLsbD_of_ge _ _ hge]
      simp

/-- The packed product has in each lane the low half of the product of the lanes. -/
lemma lane_mulLow16 {k : ℕ} (hk : k < 4) (a b : BitVec 64) :
    lane 16 k (mulLow16 a b) = lane 16 k a * lane 16 k b := by
  have hzero : lane 16 k (0#64) = 0 := by simp [lane]
  have hword : mulLow16 a b = (((0#64 ||| productAt a b (16 * 0)) ||| productAt a b (16 * 1)) |||
      productAt a b (16 * 2)) ||| productAt a b (16 * 3) := rfl
  simp only [hword, lane_or, hzero, lane_productAt hk]
  interval_cases k <;> simp

/-! ### Words by their lanes -/

/-- A word is determined by its lanes. -/
lemma eq_of_lanes {width : ℕ} (hwidth : 0 < width) (hdvd : width ∣ 64) {x y : BitVec 64}
    (h : ∀ k < 64 / width, lane width k x = lane width k y) : x = y := by
  apply BitVec.eq_of_getLsbD_eq
  intro i hi
  have hlane : i / width < 64 / width := Nat.div_lt_div_of_lt_of_dvd hdvd hi
  have hplace : width * (i / width) + i % width = i := Nat.div_add_mod i width
  have hbit := congrArg (·.getLsbD (i % width)) (h (i / width) hlane)
  simpa only [getLsbD_lane _ _ _ (Nat.mod_lt i hwidth), hplace] using hbit

/-- An operation on words is one on the integers, modulo two to the width, in each lane. The result is the
one word that has these lanes, whether they are read without a sign or with one, and what is in other
lanes does not reach a lane. -/
structure Packs (width : ℕ) (op : ℤ → ℤ → ℤ) (packed : BitVec 64 → BitVec 64 → BitVec 64) : Prop where
  unsigned : ∀ a b word, packed a b = word ↔ ∀ k < 64 / width,
    (lane width k word).toNat = op (lane width k a).toNat (lane width k b).toNat % 2 ^ width
  signed : ∀ a b word, packed a b = word ↔ ∀ k < 64 / width,
    (lane width k word).toInt = (op (lane width k a).toInt (lane width k b).toInt).bmod (2 ^ width)
  apart : ∀ a b a' b', ∀ k < 64 / width, lane width k a = lane width k a' →
    lane width k b = lane width k b' → lane width k (packed a b) = lane width k (packed a' b')

section

variable {width : ℕ} {packed : BitVec 64 → BitVec 64 → BitVec 64}

/-- An operation that combines the lanes packs what the combination is on the integers. -/
lemma Packs.of_lane {op : ℤ → ℤ → ℤ} {combine : BitVec width → BitVec width → BitVec width}
    (hwidth : 0 < width) (hdvd : width ∣ 64)
    (hlane : ∀ {k}, width * (k + 1) ≤ 64 → ∀ a b,
      lane width k (packed a b) = combine (lane width k a) (lane width k b))
    (hunsigned : ∀ x y, ((combine x y).toNat : ℤ) = op x.toNat y.toNat % 2 ^ width)
    (hsigned : ∀ x y, (combine x y).toInt = (op x.toInt y.toInt).bmod (2 ^ width)) :
    Packs width op packed := by
  have hlanes : ∀ k < 64 / width, ∀ a b,
      lane width k (packed a b) = combine (lane width k a) (lane width k b) := by
    intro k hk
    refine hlane ?_
    calc width * (k + 1) ≤ width * (64 / width) := Nat.mul_le_mul_left width hk
      _ = 64 := Nat.mul_div_cancel' hdvd
  have hword : ∀ a b word, packed a b = word ↔
      ∀ k < 64 / width, lane width k word = combine (lane width k a) (lane width k b) := by
    intro a b word
    refine ⟨?_, fun h => eq_of_lanes hwidth hdvd fun k hk => (hlanes k hk a b).trans (h k hk).symm⟩
    rintro rfl k hk
    exact hlanes k hk a b
  refine ⟨fun a b word => ?_, fun a b word => ?_, fun a b a' b' k hk ha hb => ?_⟩
  · simp only [hword, ← hunsigned, Int.natCast_inj, BitVec.toNat_inj]
  · simp only [hword, ← hsigned, BitVec.toInt_inj]
  · rw [hlanes k hk, hlanes k hk, ha, hb]

lemma packs_addWith {high : BitVec 64} (hwidth : 0 < width) (hdvd : width ∣ 64)
    (hhigh : IsTopMask width high) : Packs width (· + ·) (addWith high) :=
  .of_lane hwidth hdvd (lane_addWith hhigh hwidth)
    (fun x y => by rw [BitVec.toNat_add]; push_cast; rfl) BitVec.toInt_add

/-- Without signs a difference may have to borrow from two to the width. -/
lemma toNat_sub_eq_emod (x y : BitVec width) :
    ((x - y).toNat : ℤ) = ((x.toNat : ℤ) - y.toNat) % 2 ^ width := by
  have hborrow : (2 : ℤ) ^ width - y.toNat + x.toNat = x.toNat - y.toNat + 2 ^ width := by ring
  rw [BitVec.toNat_sub]
  push_cast [y.isLt.le]
  rw [hborrow, Int.add_emod_right]

lemma packs_subWith {high : BitVec 64} (hwidth : 0 < width) (hdvd : width ∣ 64)
    (hhigh : IsTopMask width high) : Packs width (· - ·) (subWith high) :=
  .of_lane hwidth hdvd (lane_subWith hhigh hwidth) toNat_sub_eq_emod
    fun _ _ => BitVec.toInt_sub

end

lemma packs_mulLow16 : Packs 16 (· * ·) mulLow16 :=
  .of_lane (by decide) (by decide) (fun hfit a b => lane_mulLow16 (by omega) a b)
    (fun x y => by rw [BitVec.toNat_mul]; push_cast; rfl) BitVec.toInt_mul

/-- The packed sums and differences of lanes of 8, 16 and 32 bits and the packed products of lanes of 16
bits are sums, differences and products in each lane, modulo two to the width. -/
theorem packed_arithmetic :
    (Packs 8 (· + ·) add8 ∧ Packs 16 (· + ·) add16 ∧ Packs 32 (· + ·) add32) ∧
      (Packs 8 (· - ·) sub8 ∧ Packs 16 (· - ·) sub16 ∧ Packs 32 (· - ·) sub32) ∧
      Packs 16 (· * ·) mulLow16 := by
  refine ⟨⟨?_, ?_, ?_⟩, ⟨?_, ?_, ?_⟩, packs_mulLow16⟩
  · exact packs_addWith (by decide) (by decide) isTopMask_high8
  · exact packs_addWith (by decide) (by decide) isTopMask_high16
  · exact packs_addWith (by decide) (by decide) isTopMask_high32
  · exact packs_subWith (by decide) (by decide) isTopMask_high8
  · exact packs_subWith (by decide) (by decide) isTopMask_high16
  · exact packs_subWith (by decide) (by decide) isTopMask_high32

/-- A carry out of the lowest lane and a borrow from the lane above it are lost. -/
example : add8 0x01ff#64 0x0101#64 = 0x0200#64 ∧ sub8 0x0100#64 0x0001#64 = 0x01ff#64 := by decide

end LaneKernels.PackedWord
