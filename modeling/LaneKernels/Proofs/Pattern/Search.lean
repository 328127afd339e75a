import Mathlib.Tactic
import LaneKernels.Pattern.Search

/-!
The search for a pattern finds what the pattern matches.

* `Matches` says what a pattern matches between two places of a text, one construct after the other. A
  repetition is some matches one behind the other (`Steps`).
* `image_ends`: from a set of places, `ends` gives exactly the places where a match ends. A repetition without
  a limit needs no more rounds than there are places, since a walk that comes back to a place can be cut
  short (`Steps.shorten`).
* `isIn_iff`: a pattern is found in a text exactly where it matches.
-/

namespace LaneKernels.Pattern

/-! ### Walks -/

/-- A walk of a number of steps. -/
def Steps (related : ℕ → ℕ → Prop) : ℕ → ℕ → ℕ → Prop
  | 0, i, j => i = j
  | count + 1, i, j => ∃ k, related i k ∧ Steps related count k j

section

variable {related : ℕ → ℕ → Prop} {last : ℕ}

lemma steps_add {m n i j : ℕ} :
    Steps related (m + n) i j ↔ ∃ k, Steps related m i k ∧ Steps related n k j := by
  induction m generalizing i with
  | zero => simp [Steps]
  | succ m ih =>
      rw [Nat.succ_add, Steps]
      simp only [ih, Steps]
      constructor
      · rintro ⟨k, hk, l, hl, hj⟩
        exact ⟨l, ⟨k, hk, hl⟩, hj⟩
      · rintro ⟨l, ⟨k, hk, hl⟩, hj⟩
        exact ⟨k, hk, l, hl, hj⟩

/-- A walk does not leave what no step leaves. -/
lemma Steps.closed {held : ℕ → Prop} (hheld : ∀ i j, held i → related i j → held j) {count i j : ℕ}
    (h : Steps related count i j) (hi : held i) : held j := by
  induction count generalizing i with
  | zero => exact h ▸ hi
  | succ count ih =>
      obtain ⟨k, hk, hj⟩ := h
      exact ih hj (hheld i k hi hk)

variable (hinside : ∀ i j, i ≤ last → related i j → j ≤ last)

include hinside

/-- A walk with more steps than there are places comes back to one of them, and goes on from there at once. -/
lemma Steps.shorten {count i j : ℕ} (h : Steps related count i j) (hi : i ≤ last) :
    ∃ fewer ≤ last, Steps related fewer i j := by
  induction count using Nat.strong_induction_on with
  | _ count ih =>
      by_cases hcount : count ≤ last
      · exact ⟨count, hcount, h⟩
      · have hsplit : ∀ m ≤ count, ∃ k, Steps related m i k ∧ Steps related (count - m) k j :=
          fun m hm => steps_add.mp (by rwa [Nat.add_sub_cancel' hm])
        choose! place hbefore hbehind using hsplit
        have hmaps : ∀ m ∈ Finset.range (last + 2), place m ∈ Finset.range (last + 1) := by
          intro m hm
          rw [Finset.mem_range] at hm ⊢
          exact Nat.lt_succ_of_le ((hbefore m (by omega)).closed hinside hi)
        obtain ⟨a, ha, b, hb, hne, hsame⟩ :=
          Finset.exists_ne_map_eq_of_card_lt_of_maps_to (by simp) hmaps
        rw [Finset.mem_range] at ha hb
        obtain hlt | hlt := Nat.lt_or_gt_of_ne hne
        · have hcut := steps_add.mpr ⟨place b, hsame ▸ hbefore a (by omega), hbehind b (by omega)⟩
          exact ih _ (by omega) hcut
        · have hcut := steps_add.mpr ⟨place a, hsame ▸ hbefore b (by omega), hbehind a (by omega)⟩
          exact ih _ (by omega) hcut

/-- A walk of at least some steps, and of at most some where there is a limit: the least number of steps first,
and then as many as are needed. Without a limit no more are needed than there are places. -/
lemma steps_between_iff {least : ℕ} {most : Option ℕ} {i j : ℕ} (hi : i ≤ last) :
    (∃ k, Steps related least i k ∧
        ∃ fewer ≤ (most.map (· - least)).getD (last + 1), Steps related fewer k j) ↔
      ∃ count, least ≤ count ∧ (∀ limit ∈ most, count ≤ max least limit) ∧ Steps related count i j := by
  constructor
  · rintro ⟨k, hk, fewer, hfewer, hj⟩
    refine ⟨least + fewer, Nat.le_add_right _ _, fun limit hlimit => ?_, steps_add.mpr ⟨k, hk, hj⟩⟩
    rw [Option.mem_def.mp hlimit, Option.map_some, Option.getD_some] at hfewer
    omega
  · rintro ⟨count, hleast, hmost, h⟩
    rw [← Nat.add_sub_cancel' hleast, steps_add] at h
    obtain ⟨k, hk, hj⟩ := h
    refine ⟨k, hk, ?_⟩
    cases most with
    | none =>
        obtain ⟨fewer, hfewer, hshort⟩ := hj.shorten hinside (hk.closed hinside hi)
        exact ⟨fewer, Nat.le_succ_of_le hfewer, hshort⟩
    | some limit =>
        have hlimit := hmost limit rfl
        refine ⟨count - least, ?_, hj⟩
        rw [Option.map_some, Option.getD_some]
        omega

end

/-! ### Matches -/

/-- The character before a place. -/
def before (text : List Char) : ℕ → Option Char
  | 0 => none
  | i + 1 => text[i]?

/-- What a pattern matches between two places of a text. -/
def Matches (text : List Char) : Pattern → ℕ → ℕ → Prop
  | empty, i, j => i = j
  | chars set, i, j => j = i + 1 ∧ ∃ c, text[i]? = some c ∧ set.contains c.toNat = true
  | look l, i, j => i = j ∧ l.holds (before text i) text[i]? = true
  | captured body, i, j => body.Matches text i j
  | sequence p q, i, j => ∃ k, p.Matches text i k ∧ q.Matches text k j
  | either p q, i, j => p.Matches text i j ∨ q.Matches text i j
  | repeated least most body, i, j =>
    ∃ count, least ≤ count ∧ (∀ limit ∈ most, count ≤ max least limit) ∧ Steps (body.Matches text) count i j

/-- A match ends inside of the text. -/
lemma Matches.le {text : List Char} {p : Pattern} {i j : ℕ} (h : p.Matches text i j)
    (hi : i ≤ text.length) : j ≤ text.length := by
  induction p generalizing i j with
  | empty => exact h ▸ hi
  | chars set =>
      obtain ⟨rfl, c, hc, -⟩ := h
      exact (List.getElem?_eq_some_iff.mp hc).1
  | look l => exact h.1 ▸ hi
  | captured body ih => exact ih h hi
  | sequence p q ihp ihq =>
      obtain ⟨k, hp, hq⟩ := h
      exact ihq hq (ihp hp hi)
  | either p q ihp ihq => exact h.elim (ihp · hi) (ihq · hi)
  | repeated least most body ih =>
      obtain ⟨count, -, -, hsteps⟩ := h
      exact hsteps.closed (fun i j hi hbody => ih hbody hi) hi

/-! ### Sets of places -/

/-- The bits of the places with a property are set. -/
lemma testBit_places {α : Type} (holds : α → Bool) (items : List α) (i : ℕ) :
    (places holds items).testBit i = items[i]?.any holds := by
  induction items generalizing i with
  | nil => simp [places]
  | cons item rest ih =>
      have hhalf : ∀ (n : ℕ) (b : Bool), (2 * n + if b then 1 else 0) / 2 = n := by
        intro n b
        split <;> omega
      cases i with
      | zero =>
          rw [places, List.foldr_cons, Nat.testBit_zero]
          cases h : holds item <;> simp [h]
      | succ i =>
          rw [places, List.foldr_cons, Nat.testBit_succ, ← places, hhalf, ih, List.getElem?_cons_succ]

/-- What stands around the places of a text. -/
lemma getElem?_neighbours (text : List Char) (i : ℕ) :
    (neighbours text)[i]? = if i ≤ text.length then some (before text i, text[i]?) else none := by
  have hbefore : (none :: text.map some)[i]? = if i ≤ text.length then some (before text i) else none := by
    cases i with
    | zero => simp [before]
    | succ i =>
        rw [List.getElem?_cons_succ, List.getElem?_map, before]
        split <;> simp_all
  have hbehind : i ≤ text.length → (text.map some ++ [none])[i]? = some text[i]? := by
    intro hi
    obtain hlt | rfl := Nat.lt_or_eq_of_le hi
    · simp [List.getElem?_append_left, hlt]
    · simp
  rw [neighbours, List.zip, List.getElem?_zipWith, hbefore]
  by_cases hi : i ≤ text.length
  · rw [if_pos hi, if_pos hi, hbehind hi]
  · rw [if_neg hi, if_neg hi]

/-- No place of a set is behind the last one. -/
def Within (last : ℕ) (set : Places) : Prop :=
  ∀ i, set.testBit i = true → i ≤ last

/-- The places that are related to one of a set. -/
def Image (related : ℕ → ℕ → Prop) (starts stops : Places) : Prop :=
  ∀ j, stops.testBit j = true ↔ ∃ i, starts.testBit i = true ∧ related i j

section

variable {related : ℕ → ℕ → Prop} {last : ℕ} {starts stops : Places}

lemma Image.within (h : Image related starts stops)
    (hinside : ∀ i j, i ≤ last → related i j → j ≤ last) (hstarts : Within last starts) :
    Within last stops := by
  intro j hj
  obtain ⟨i, hi, hrelated⟩ := (h j).mp hj
  exact hinside i j (hstarts i hi) hrelated

/-- One image of another. -/
lemma Image.comp {related' : ℕ → ℕ → Prop} {ends : Places} (h : Image related starts stops)
    (h' : Image related' stops ends) :
    Image (fun i j => ∃ k, related i k ∧ related' k j) starts ends := by
  intro j
  rw [h' j]
  constructor
  · rintro ⟨k, hk, hj⟩
    obtain ⟨i, hi, hik⟩ := (h k).mp hk
    exact ⟨i, hi, k, hik, hj⟩
  · rintro ⟨i, hi, k, hik, hj⟩
    exact ⟨k, (h k).mpr ⟨i, hi, hik⟩, hj⟩

/-- A set that is its own image is that in any number of steps. -/
lemma Image.steps (h : Image related starts starts) (count : ℕ) :
    Image (Steps related count) starts starts := by
  induction count with
  | zero => exact fun j => by simp [Steps]
  | succ count ih => exact h.comp ih

lemma image_zero : Image related 0 0 := by
  intro j
  simp

end

/-- Of the places that were reached, those that are not new lead to none that was not. -/
def Explored (related : ℕ → ℕ → Prop) (reached new : Places) : Prop :=
  (∀ i, new.testBit i = true → reached.testBit i = true) ∧
    ∀ i j, reached.testBit i = true → new.testBit i = false → related i j → reached.testBit j = true

section

variable {related : ℕ → ℕ → Prop} {reached new more : Places} {i j : ℕ}

lemma explored_self (related : ℕ → ℕ → Prop) (starts : Places) : Explored related starts starts :=
  ⟨fun _ => id, fun _ _ hi hnew => absurd (hi.symm.trans hnew) (by simp)⟩

/-- A step from what was reached stays in it, or gets to where one from a new place does. -/
lemma Explored.step (h : Explored related reached new) (hmore : Image related new more)
    (hi : reached.testBit i = true) (hij : related i j) : (reached ||| more).testBit j = true := by
  rw [Nat.testBit_or, Bool.or_eq_true]
  cases hnew : new.testBit i with
  | true => exact .inr ((hmore j).mpr ⟨i, hnew, hij⟩)
  | false => exact .inl (h.2 i j hi hnew hij)

/-- Behind one more step the places that are new are those that were not reached before. -/
lemma Explored.further (h : Explored related reached new) (hmore : Image related new more) :
    Explored related (reached ||| more) ((reached ||| more) ^^^ reached) := by
  refine ⟨fun i hi => ?_, fun i j hi hnew hij => h.step hmore ?_ hij⟩
  · rw [Nat.testBit_xor, Nat.testBit_or] at hi
    rw [Nat.testBit_or]
    revert hi
    cases reached.testBit i <;> simp
  · rw [Nat.testBit_xor, hi] at hnew
    simpa using hnew

/-- What is reached from there in some steps is reached from the start in one step more. -/
lemma Explored.steps_further (h : Explored related reached new) (hmore : Image related new more) {count : ℕ} :
    (∃ i, (reached ||| more).testBit i = true ∧ ∃ fewer ≤ count, Steps related fewer i j) ↔
      ∃ i, reached.testBit i = true ∧ ∃ fewer ≤ count + 1, Steps related fewer i j := by
  constructor
  · rintro ⟨i, hi, fewer, hfewer, hsteps⟩
    rw [Nat.testBit_or, Bool.or_eq_true] at hi
    obtain hi | hi := hi
    · exact ⟨i, hi, fewer, by omega, hsteps⟩
    · obtain ⟨k, hk, hki⟩ := (hmore i).mp hi
      exact ⟨k, h.1 k hk, fewer + 1, by omega, i, hki, hsteps⟩
  · rintro ⟨i, hi, fewer, hfewer, hsteps⟩
    cases fewer with
    | zero =>
        refine ⟨i, ?_, 0, Nat.zero_le _, hsteps⟩
        rw [Nat.testBit_or, hi, Bool.true_or]
    | succ fewer =>
        obtain ⟨k, hik, hkj⟩ := hsteps
        exact ⟨k, h.step hmore hi hik, fewer, by omega, hkj⟩

end

/-! ### Rounds -/

section

variable {related : ℕ → ℕ → Prop} {last : ℕ} {step : Places → Places}
  (hinside : ∀ i j, i ≤ last → related i j → j ≤ last)
  (hstep : ∀ starts, Within last starts → Image related starts (step starts))

include hinside hstep

/-- What is reached in a number of steps. A set without places stays so, and one that does not change
never does. -/
lemma image_iterate (count : ℕ) {starts : Places} (hstarts : Within last starts) :
    Image (Steps related count) starts (iterate step count starts) := by
  induction count generalizing starts with
  | zero => exact fun j => by simp [Steps, iterate]
  | succ count ih =>
      have himage := hstep starts hstarts
      rw [iterate]
      by_cases hnone : starts = 0
      · rw [if_pos hnone, hnone]
        exact image_zero
      · rw [if_neg hnone]
        by_cases hsame : step starts = starts
        · rw [if_pos hsame]
          rw [hsame] at himage
          exact himage.steps (count + 1)
        · rw [if_neg hsame]
          exact himage.comp (ih (himage.within hinside hstarts))

/-- What is reached in at most so many steps. -/
lemma image_reach (count : ℕ) {reached new : Places} (hreached : Within last reached)
    (hexplored : Explored related reached new) :
    Image (fun i j => ∃ fewer ≤ count, Steps related fewer i j) reached
      (reach step count reached new) := by
  induction count generalizing reached new with
  | zero => exact fun j => by simp [Steps, reach]
  | succ count ih =>
      rw [reach]
      by_cases hnone : new = 0
      · rw [if_pos hnone]
        rw [hnone] at hexplored
        intro j
        constructor
        · exact fun hj => ⟨j, hj, 0, Nat.zero_le _, rfl⟩
        · rintro ⟨i, hi, fewer, -, hsteps⟩
          exact hsteps.closed (fun i j hi hij => hexplored.2 i j hi (Nat.zero_testBit i) hij) hi
      · have hnew : Within last new := fun i hi => hreached i (hexplored.1 i hi)
        have hmore := hstep new hnew
        have hall : Within last (reached ||| step new) := by
          intro i hi
          rw [Nat.testBit_or, Bool.or_eq_true] at hi
          exact hi.elim (hreached i) (hmore.within hinside hnew i)
        rw [if_neg hnone]
        intro j
        exact (ih hall (hexplored.further hmore) j).trans (hexplored.steps_further hmore)

end

/-! ### The search -/

/-- From a set of places, a pattern gets to the places where a match ends. -/
theorem image_ends (text : List Char) (p : Pattern) {starts : Places} (hstarts : Within text.length starts) :
    Image (p.Matches text) starts (p.ends text starts) := by
  induction p generalizing starts with
  | empty => exact fun j => by simp [Matches, ends]
  | chars set =>
      intro j
      rw [ends, Nat.testBit_shiftLeft]
      cases j with
      | zero => simp [Matches]
      | succ j =>
          rw [Nat.add_sub_cancel, Nat.testBit_and, testBit_places]
          simp only [Nat.le_add_left, decide_true, Bool.true_and, Bool.and_eq_true, Option.any_eq_true]
          constructor
          · rintro ⟨hj, c, hc, hset⟩
            exact ⟨j, hj, rfl, c, hc, hset⟩
          · rintro ⟨i, hi, hij, c, hc, hset⟩
            obtain rfl := Nat.succ.inj hij
            exact ⟨hi, c, hc, hset⟩
  | look l =>
      intro j
      rw [ends, Nat.testBit_and, testBit_places, getElem?_neighbours]
      constructor
      · intro h
        obtain ⟨hj, hholds⟩ := Bool.and_eq_true_iff.mp h
        rw [if_pos (hstarts j hj)] at hholds
        exact ⟨j, hj, rfl, hholds⟩
      · rintro ⟨_, hj, rfl, hholds⟩
        rw [hj, if_pos (hstarts _ hj)]
        exact hholds
  | captured body ih => exact ih hstarts
  | sequence p q ihp ihq =>
      exact (ihp hstarts).comp (ihq ((ihp hstarts).within (fun i j hi h => h.le hi) hstarts))
  | either p q ihp ihq =>
      intro j
      rw [ends, Nat.testBit_or, Bool.or_eq_true, ihp hstarts j, ihq hstarts j, ← exists_or]
      simp only [← and_or_left, Matches]
  | repeated least most body ih =>
      have hinside : ∀ i j, i ≤ text.length → body.Matches text i j → j ≤ text.length :=
        fun i j hi h => h.le hi
      have hfirst := image_iterate hinside (fun _ => ih) least hstarts
      have hwithin := hfirst.within (fun i j hi h => h.closed hinside hi) hstarts
      have hmore := image_reach hinside (fun _ => ih) ((most.map (· - least)).getD (text.length + 1)) hwithin
        (explored_self _ _)
      intro j
      refine ((hfirst.comp hmore) j).trans (exists_congr fun i => and_congr_right fun hi => ?_)
      exact steps_between_iff hinside (hstarts i hi)

/-- A pattern is found in a text exactly where it matches. -/
theorem isIn_iff (p : Pattern) (text : String) :
    p.isIn text = true ↔ ∃ i j, i ≤ text.toList.length ∧ p.Matches text.toList i j := by
  have heverywhere : ∀ i, (everywhere text.toList).testBit i = true ↔ i ≤ text.toList.length := by
    intro i
    rw [everywhere, testBit_places, getElem?_neighbours]
    split <;> simp_all
  have himage := image_ends text.toList p fun i hi => (heverywhere i).mp hi
  rw [isIn, decide_eq_true_iff]
  constructor
  · intro h
    obtain ⟨j, hj⟩ := Nat.exists_testBit_of_ne_zero h
    obtain ⟨i, hi, hmatches⟩ := (himage j).mp hj
    exact ⟨i, j, (heverywhere i).mp hi, hmatches⟩
  · rintro ⟨i, j, hi, hmatches⟩ hnone
    have hj := (himage j).mpr ⟨i, (heverywhere i).mpr hi, hmatches⟩
    rw [hnone, Nat.zero_testBit] at hj
    exact absurd hj Bool.false_ne_true

end LaneKernels.Pattern
