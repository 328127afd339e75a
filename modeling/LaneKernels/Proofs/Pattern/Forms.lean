import Mathlib.Tactic
import LaneKernels.Proofs.Pattern.CharSet
import LaneKernels.Proofs.Pattern.Search

/-!
What patterns match that are put together from others.

* `matches_followedBy`, `matches_anyOf` and `matches_times` say what one pattern behind another, one of some
  and a pattern a number of times match. The short forms that these use change nothing.
* `steps_steps`: so many rounds of some steps each are all the numbers of steps between the least and the
  greatest product. Joined repetitions therefore match what they did (`matches_condensed`), if no count of the
  pattern ends before it starts or is zero alone (`Tidy`).
-/

namespace LaneKernels.Pattern

variable {text : List Char} {p q : Pattern} {i j : ℕ}

/-! ### Sequences and choices -/

lemma matches_followedBy :
    (p.followedBy q).Matches text i j ↔ ∃ k, p.Matches text i k ∧ q.Matches text k j := by
  rw [followedBy.eq_def]
  split
  · simp [Matches]
  · simp [Matches]
  · rfl

lemma matches_inOrder_cons {patterns : List Pattern} :
    (inOrder (p :: patterns)).Matches text i j ↔
      ∃ k, p.Matches text i k ∧ (inOrder patterns).Matches text k j :=
  matches_followedBy

lemma matches_orElse : (p.orElse q).Matches text i j ↔ p.Matches text i j ∨ q.Matches text i j := by
  rw [orElse.eq_def]
  split
  · simp only [Matches, CharSet.contains_union]
    rw [← and_or_left]
    refine and_congr_right fun _ => ?_
    simp only [and_or_left, exists_or]
  · rfl

/-- One pattern of some matches what any of them does. -/
theorem matches_anyOf {patterns : List Pattern} :
    (anyOf patterns).Matches text i j ↔ ∃ p ∈ patterns, p.Matches text i j := by
  induction patterns with
  | nil => simp [anyOf, Matches, CharSet.contains, CharSet.empty]
  | cons p rest ih =>
      rw [List.exists_mem_cons_iff, ← ih]
      cases rest with
      | nil => simp [anyOf, Matches, CharSet.contains, CharSet.empty]
      | cons next rest =>
          rw [anyOf, matches_orElse]
          exact List.cons_ne_nil _ _

/-! ### Repetitions -/

/-- A number is not below the least and not above the greatest, if there is one. -/
def Between (least : ℕ) (most : Option ℕ) (count : ℕ) : Prop :=
  least ≤ count ∧ ∀ limit ∈ most, count ≤ limit

/-- A pattern that has no width stays where it is. -/
lemma Matches.eq_of_isWidthless (h : p.Matches text i j) (hp : p.isWidthless = true) : i = j := by
  induction p generalizing i j with
  | empty => exact h
  | chars set => exact absurd hp Bool.false_ne_true
  | look l => exact h.1
  | captured body ih => exact ih h hp
  | sequence p q ihp ihq =>
      obtain ⟨k, hk, hj⟩ := h
      obtain ⟨hp, hq⟩ := Bool.and_eq_true_iff.mp hp
      exact (ihp hk hp).trans (ihq hj hq)
  | either p q ihp ihq =>
      obtain ⟨hp, hq⟩ := Bool.and_eq_true_iff.mp hp
      exact h.elim (ihp · hp) (ihq · hq)
  | repeated least most body ih =>
      obtain ⟨count, -, -, hsteps⟩ := h
      have hstays : ∀ k l, i = k → body.Matches text k l → i = l :=
        fun k l hk hl => hk.trans (ih hl (Bool.and_eq_true_iff.mp hp).2)
      exact hsteps.closed hstays rfl

section

variable {related : ℕ → ℕ → Prop}

/-- Steps that stay where they are lead nowhere, and many of them are one. -/
lemma steps_of_still (hstill : ∀ i j, related i j → i = j) {count : ℕ} :
    Steps related count i j ↔ i = j ∧ (count = 0 ∨ related i i) := by
  induction count generalizing i with
  | zero => simp [Steps]
  | succ count ih =>
      constructor
      · rintro ⟨k, hk, hsteps⟩
        obtain rfl := hstill i k hk
        exact ⟨(ih.mp hsteps).1, .inr hk⟩
      · rintro ⟨rfl, h⟩
        have hi := h.resolve_left (Nat.succ_ne_zero count)
        exact ⟨i, hi, ih.mpr ⟨rfl, .inr hi⟩⟩

lemma steps_one : Steps related 1 i j ↔ related i j := by
  simp [Steps]

/-- A number of steps can be spread over a number of rounds, each of which takes some number of steps between a
least and a greatest one. -/
def Spreads (least : ℕ) (most : Option ℕ) (rounds count : ℕ) : Prop :=
  rounds * least ≤ count ∧ (∀ limit ∈ most, count ≤ rounds * limit) ∧ (rounds = 0 → count = 0)

/-- The first of some rounds takes what the others leave. -/
lemma spreads_succ {least : ℕ} {most : Option ℕ} (hvalid : ∀ limit ∈ most, least ≤ limit) {rounds count : ℕ} :
    Spreads least most (rounds + 1) count ↔
      ∃ first more, count = first + more ∧ Between least most first ∧ Spreads least most rounds more := by
  simp only [Spreads, Between, Nat.succ_mul]
  constructor
  · rintro ⟨hleast, hmost, -⟩
    obtain rfl | hrounds := Nat.eq_zero_or_pos rounds
    · exact ⟨count, 0, rfl, ⟨by omega, fun limit hlimit => by have := hmost limit hlimit; omega⟩, by simp⟩
    · cases most with
      | none =>
        exact ⟨count - rounds * least, rounds * least, by omega, ⟨by omega, by simp⟩, le_rfl, by simp, by omega⟩
      | some limit =>
          have hlimit := hvalid limit rfl
          have hall := hmost limit rfl
          have hscaled : rounds * least ≤ rounds * limit := Nat.mul_le_mul_left _ hlimit
          refine ⟨max least (count - rounds * limit), count - max least (count - rounds * limit), by omega,
            ⟨by omega, ?_⟩, by omega, ?_, by omega⟩
          · rintro _ ⟨rfl⟩
            omega
          · rintro _ ⟨rfl⟩
            omega
  · rintro ⟨first, more, rfl, ⟨hfirst, hlast⟩, hleast, hmost, -⟩
    refine ⟨by omega, fun limit hlimit => ?_, by omega⟩
    have := hlast limit hlimit
    have := hmost limit hlimit
    omega

/-- Rounds of steps are as many steps as can be spread over them. -/
lemma steps_steps {least : ℕ} {most : Option ℕ} (hvalid : ∀ limit ∈ most, least ≤ limit) {rounds : ℕ} :
    Steps (fun i j => ∃ count, Between least most count ∧ Steps related count i j) rounds i j ↔
      ∃ count, Spreads least most rounds count ∧ Steps related count i j := by
  induction rounds generalizing i with
  | zero => simp [Steps, Spreads]
  | succ rounds ih =>
      rw [Steps]
      simp only [ih, spreads_succ hvalid]
      constructor
      · rintro ⟨k, ⟨first, hfirst, hk⟩, more, hmore, hj⟩
        exact ⟨first + more, ⟨first, more, rfl, hfirst, hmore⟩, steps_add.mpr ⟨k, hk, hj⟩⟩
      · rintro ⟨_, ⟨first, more, rfl, hfirst, hmore⟩, hsteps⟩
        obtain ⟨k, hk, hj⟩ := steps_add.mp hsteps
        exact ⟨k, ⟨first, hfirst, hk⟩, more, hmore, hj⟩

end

/-- No count of a pattern ends before it starts, or is zero alone. -/
def Tidy : Pattern → Prop
  | empty | chars _ | look _ => True
  | captured body => body.Tidy
  | sequence p q | either p q => p.Tidy ∧ q.Tidy
  | repeated least most body => (∀ limit ∈ most, least ≤ limit ∧ 0 < limit) ∧ body.Tidy

lemma Tidy.followedBy (hp : p.Tidy) (hq : q.Tidy) : (p.followedBy q).Tidy := by
  rw [followedBy.eq_def]
  split
  · exact hq
  · exact hp
  · exact ⟨hp, hq⟩

lemma tidy_inOrder {patterns : List Pattern} (h : ∀ p ∈ patterns, p.Tidy) : (inOrder patterns).Tidy := by
  induction patterns with
  | nil => trivial
  | cons p rest ih =>
      obtain ⟨hp, hrest⟩ := List.forall_mem_cons.mp h
      exact hp.followedBy (ih hrest)

lemma tidy_anyOf {patterns : List Pattern} (h : ∀ p ∈ patterns, p.Tidy) : (anyOf patterns).Tidy := by
  fun_induction anyOf patterns with
  | case1 => trivial
  | case2 p => exact h p List.mem_cons_self
  | case3 p rest _ ih =>
      obtain ⟨hp, hrest⟩ := List.forall_mem_cons.mp h
      rw [orElse.eq_def]
      split
      · trivial
      · exact ⟨hp, ih hrest⟩

lemma matches_repeated {least : ℕ} {most : Option ℕ} (hvalid : ∀ limit ∈ most, least ≤ limit) :
    (repeated least most p).Matches text i j ↔
      ∃ count, Between least most count ∧ Steps (p.Matches text) count i j := by
  simp only [Matches, Between, and_assoc]
  refine exists_congr fun count => and_congr_right fun _ => and_congr_left fun _ => ?_
  exact forall₂_congr fun limit hlimit => by rw [max_eq_right (hvalid limit hlimit)]

/-- A repetition in its short form: none at all, or just one. -/
lemma matches_shortened {least : ℕ} {most : Option ℕ} (hvalid : ∀ limit ∈ most, least ≤ limit) :
    (if most = some 0 then empty else if least = 1 ∧ most = some 1 then p
        else repeated least most p).Matches text i j ↔
      ∃ rounds, Between least most rounds ∧ Steps (p.Matches text) rounds i j := by
  split
  · rename_i hnone
    have hleast := hvalid 0 hnone
    constructor
    · exact fun h => ⟨0, ⟨hleast, fun _ _ => Nat.zero_le _⟩, h⟩
    · rintro ⟨rounds, ⟨-, hmost⟩, hsteps⟩
      obtain rfl := Nat.le_zero.mp (hmost 0 hnone)
      exact hsteps
  · split
    · rename_i hone
      obtain ⟨rfl, rfl⟩ := hone
      constructor
      · exact fun h => ⟨1, ⟨le_rfl, by simp⟩, steps_one.mpr h⟩
      · rintro ⟨rounds, ⟨hleast, hmost⟩, hsteps⟩
        obtain rfl := le_antisymm (hmost 1 rfl) hleast
        exact steps_one.mp hsteps
    · exact matches_repeated hvalid

lemma isValid_iff {count : Count} :
    count.isValid = true ↔ ∀ limit ∈ count.max, count.min ≤ limit := by
  cases h : count.max <;> simp [Count.isValid, h]

/-- A pattern without width that may be repeated can be there once, and need not be there at all if zero is
enough. -/
lemma exists_between_still {related : ℕ → ℕ → Prop} (hstill : ∀ i j, related i j → i = j) {least : ℕ}
    {most : Option ℕ} (hvalid : ∀ limit ∈ most, least ≤ limit) :
    (∃ rounds, Between least most rounds ∧ Steps related rounds i j) ↔
      i = j ∧ (least = 0 ∨ related i i) := by
  simp only [steps_of_still hstill]
  constructor
  · rintro ⟨rounds, ⟨hleast, -⟩, hij, rfl | hi⟩
    · exact ⟨hij, .inl (Nat.le_zero.mp hleast)⟩
    · exact ⟨hij, .inr hi⟩
  · rintro ⟨hij, hleast | hi⟩
    · exact ⟨0, ⟨hleast.le, fun _ _ => Nat.zero_le _⟩, hij, .inl rfl⟩
    · exact ⟨least, ⟨le_rfl, hvalid⟩, hij, .inr hi⟩

/-- A repetition is a short form of bounds that allow the same matches. -/
lemma exists_shortened {count : Count} (hvalid : count.isValid = true) (p : Pattern) :
    ∃ least most, (∀ limit ∈ most, least ≤ limit) ∧
      times count p = (if most = some 0 then empty else if least = 1 ∧ most = some 1 then p
        else repeated least most p) ∧
      ∀ text i j, (∃ rounds, Between least most rounds ∧ Steps (p.Matches text) rounds i j) ↔
        ∃ rounds, Between count.min count.max rounds ∧ Steps (p.Matches text) rounds i j := by
  have hcount := isValid_iff.mp hvalid
  cases hwidth : p.isWidthless with
  | false =>
      refine ⟨count.min, count.max, hcount, ?_, fun _ _ _ => Iff.rfl⟩
      rw [times, hwidth]
      rfl
  | true =>
      have hshort : ∀ limit ∈ some (min (count.max.getD 1) 1), min count.min 1 ≤ limit := by
        rintro _ ⟨rfl⟩
        cases hmax : count.max with
        | none => exact (min_le_right _ _).trans (by simp)
        | some limit => exact min_le_min_right 1 (hcount limit hmax)
      refine ⟨_, _, hshort, ?_, fun text i j => ?_⟩
      · rw [times, hwidth]
        rfl
      · have hstill : ∀ i j, p.Matches text i j → i = j := fun i j h => h.eq_of_isWidthless hwidth
        rw [exists_between_still hstill hshort, exists_between_still hstill hcount]
        exact and_congr_right fun _ => or_congr_left (by omega)

/-- A pattern a number of times matches that many matches one behind the other. -/
theorem matches_times {count : Count} (hvalid : count.isValid = true) :
    (times count p).Matches text i j ↔
      ∃ rounds, Between count.min count.max rounds ∧ Steps (p.Matches text) rounds i j := by
  obtain ⟨least, most, hleast, htimes, hsame⟩ := exists_shortened hvalid p
  rw [htimes, matches_shortened hleast, hsame]

/-- No repetition that is put together counts to zero alone. -/
lemma Tidy.times {count : Count} (hvalid : count.isValid = true) (hp : p.Tidy) : (times count p).Tidy := by
  obtain ⟨least, most, hleast, htimes, -⟩ := exists_shortened hvalid p
  rw [htimes]
  split
  · trivial
  · split
    · exact hp
    · rename_i hnone _
      refine ⟨fun limit hlimit => ⟨hleast limit hlimit, Nat.pos_of_ne_zero ?_⟩, hp⟩
      rintro rfl
      exact hnone hlimit

/-! ### Joined repetitions -/

/-- The greatest number of rounds of rounds. -/
lemma mem_product {most most' : Option ℕ} {limit : ℕ} :
    limit ∈ (do return (← most) * (← most') : Option ℕ) ↔ ∃ m ∈ most, ∃ n ∈ most', limit = m * n := by
  cases most <;> cases most' <;> simp [eq_comm]

section

variable {least least' : ℕ} {most most' : Option ℕ}
  (hone : least ≤ 1) (hone' : least' ≤ 1)
  (hmost : ∀ limit ∈ most, limit = 1) (hmost' : ∀ limit ∈ most', limit = 1)

include hone hone' hmost hmost'

/-- Where no count goes beyond one, rounds of rounds are as many as the products allow. -/
lemma exists_rounds {count : ℕ} :
    (∃ rounds, Between least most rounds ∧ Spreads least' most' rounds count) ↔
      Between (least * least') (do return (← most) * (← most')) count := by
  simp only [Between, mem_product]
  constructor
  · rintro ⟨rounds, ⟨hleast, hrounds⟩, hleast', hrounds', -⟩
    refine ⟨(Nat.mul_le_mul_right _ hleast).trans hleast', ?_⟩
    rintro _ ⟨m, hm, n, hn, rfl⟩
    exact (hrounds' n hn).trans (Nat.mul_le_mul_right _ (hrounds m hm))
  · rintro ⟨hproduct, hcount⟩
    cases most' with
    | none =>
        -- one round takes everything, if there has to be one
        refine ⟨if count = 0 then least else 1, ⟨?_, fun limit hlimit => ?_⟩, ?_, by simp, ?_⟩
        · split <;> omega
        · have := hmost limit hlimit
          split <;> omega
        · split
          · omega
          · omega
        · split <;> omega
    | some limit' =>
        obtain rfl := hmost' limit' rfl
        refine ⟨max least count, ⟨le_max_left _ _, fun limit hlimit => ?_⟩, ?_, ?_, by omega⟩
        · have := hmost limit hlimit
          have := hcount limit ⟨limit, hlimit, 1, rfl, (Nat.mul_one _).symm⟩
          omega
        · obtain rfl | rfl := Nat.le_one_iff_eq_zero_or_eq_one.mp hone' <;> omega
        · rintro _ ⟨rfl⟩
          omega

lemma matches_joined {inner : Pattern} (hvalid : ∀ limit ∈ most, least ≤ limit)
    (hvalid' : ∀ limit ∈ most', least' ≤ limit) :
    (repeated (least * least') (do return (← most) * (← most')) inner).Matches text i j ↔
      (repeated least most (repeated least' most' inner)).Matches text i j := by
  have hproduct : ∀ limit ∈ (do return (← most) * (← most') : Option ℕ), least * least' ≤ limit := by
    intro limit hlimit
    obtain ⟨m, hm, n, hn, rfl⟩ := mem_product.mp hlimit
    exact Nat.mul_le_mul (hvalid m hm) (hvalid' n hn)
  have hinner : (repeated least' most' inner).Matches text =
      fun i j => ∃ count, Between least' most' count ∧ Steps (inner.Matches text) count i j :=
    funext fun i => funext fun j => propext (matches_repeated hvalid')
  rw [matches_repeated hproduct, matches_repeated hvalid, hinner]
  simp only [steps_steps hvalid', ← exists_rounds hone hone' hmost hmost']
  constructor
  · rintro ⟨count, ⟨rounds, hrounds, hcount⟩, hsteps⟩
    exact ⟨rounds, hrounds, count, hcount, hsteps⟩
  · rintro ⟨rounds, hrounds, count, hcount, hsteps⟩
    exact ⟨count, ⟨rounds, hrounds, hcount⟩, hsteps⟩

end

lemma eq_one_of_mem {least limit : ℕ} {most : Option ℕ} (hpositive : ∀ limit ∈ most, least ≤ limit ∧ 0 < limit)
    (hall : most.all (· ≤ 1) = true) (hlimit : limit ∈ most) : limit = 1 := by
  have hpos := (hpositive limit hlimit).2
  rw [Option.mem_def.mp hlimit, Option.all_some, decide_eq_true_eq] at hall
  omega

/-- Joining repetitions keeps a pattern tidy, and what it matches. -/
lemma tidy_condensed (text : List Char) (hp : p.Tidy) :
    p.condensed.Tidy ∧ p.condensed.Matches text = p.Matches text := by
  induction p with
  | empty | chars | look => exact ⟨trivial, rfl⟩
  | captured body ih => exact ih hp
  | sequence p q ihp ihq | either p q ihp ihq =>
      obtain ⟨htidy, hsame⟩ := ihp hp.1
      obtain ⟨htidy', hsame'⟩ := ihq hp.2
      refine ⟨⟨htidy, htidy'⟩, ?_⟩
      funext i j
      simp only [condensed, Matches, hsame, hsame']
  | repeated least most body ih =>
      obtain ⟨htidy, hbody⟩ := ih hp.2
      have hsame :
          (repeated least most body.condensed).Matches text = (repeated least most body).Matches text := by
        funext i j
        simp only [Matches, hbody]
      rw [condensed]
      split
      · rename_i least' most' inner hinner
        rw [hinner] at hsame htidy
        split
        · rename_i hones
          simp only [Bool.and_eq_true, decide_eq_true_eq] at hones
          obtain ⟨⟨⟨hone, hone'⟩, hmost⟩, hmost'⟩ := hones
          refine ⟨⟨fun limit hlimit => ?_, htidy.2⟩, ?_⟩
          · obtain ⟨m, hm, n, hn, rfl⟩ := mem_product.mp hlimit
            obtain ⟨hle, hpos⟩ := hp.1 m hm
            obtain ⟨hle', hpos'⟩ := htidy.1 n hn
            exact ⟨Nat.mul_le_mul hle hle', Nat.mul_pos hpos hpos'⟩
          · rw [← hsame]
            funext i j
            exact propext (matches_joined hone hone' (fun _ => eq_one_of_mem hp.1 hmost)
              (fun _ => eq_one_of_mem htidy.1 hmost') (fun limit hlimit => (hp.1 limit hlimit).1)
              fun limit hlimit => (htidy.1 limit hlimit).1)
        · exact ⟨⟨hp.1, htidy⟩, hsame⟩
      · exact ⟨⟨hp.1, htidy⟩, hsame⟩

/-- Joined repetitions match what they did. -/
theorem matches_condensed (hp : p.Tidy) : p.condensed.Matches text i j ↔ p.Matches text i j := by
  rw [(tidy_condensed text hp).2]

end LaneKernels.Pattern
