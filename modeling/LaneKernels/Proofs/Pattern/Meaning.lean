import Mathlib.Tactic
import LaneKernels.Proofs.Pattern.Classes
import LaneKernels.Proofs.Pattern.Forms

/-!
A pattern matches what it is written with.

* `Tree.Meets` says what a tree matches between two places of a text, read in some mode. Flags change the mode
  for what stands behind them up to the end of the group (`Tree.modeAfter`).
* `readAs_meaning`: the pattern that is made of a tree matches exactly that, if its counts and the ranges of
  its classes do not end before they start (`Tree.Sound`).
-/

namespace LaneKernels.Pattern

/-! ### What trees mean -/

/-- A character of a text has a code point of a class. -/
def OneChar (text : List Char) (inClass : ℕ → Prop) (i j : ℕ) : Prop :=
  j = i + 1 ∧ ∃ c, text[i]? = some c ∧ inClass c.toNat

/-- A code point is one that a literal character stands for. -/
def Mode.Same (mode : Mode) (literal : Char) (code : ℕ) : Prop :=
  mode.Folded (· = literal.toNat) code

/-- A code point is one that a dot stands for. -/
def Mode.Dotted (mode : Mode) (code : ℕ) : Prop :=
  mode.dotAll = true ∨ code ≠ '\n'.toNat ∧ (mode.carriageReturn = true → code ≠ '\r'.toNat)

mutual

/-- The mode behind a tree. -/
def Tree.modeAfter : Tree → Mode → Mode
  | .flags _ settings, mode => mode.after settings
  | .repetition _ _ body, mode => body.modeAfter mode
  | .alternation _ branches, mode => Tree.modeAfterAll branches mode
  | .sequence _ items, mode => Tree.modeAfterAll items mode
  | _, mode => mode

/-- The mode behind some trees, one after the other. -/
def Tree.modeAfterAll : List Tree → Mode → Mode
  | [], mode => mode
  | tree :: rest, mode => Tree.modeAfterAll rest (tree.modeAfter mode)

end

mutual

/-- What a tree matches between two places of a text. -/
def Tree.Meets (text : List Char) : Tree → Mode → ℕ → ℕ → Prop
  | .empty, _, i, j | .flags _ _, _, i, j => i = j
  | .literal l, mode, i, j => OneChar text (mode.Same l.char) i j
  | .dot _, mode, i, j => OneChar text mode.Dotted i j
  | .assertion _ place, mode, i, j => i = j ∧ (mode.look place).holds (before text i) text[i]? = true
  | .shorthand _ kind _, _, i, j => OneChar text (kind.set.contains · = true) i j
  | .property _ _, _, _, _ => False
  | .bracketed _ negated body, mode, i, j => OneChar text (mode.Finished negated (body.Holds mode)) i j
  | .repetition _ count body, mode, i, j =>
    ∃ rounds, Between count.min count.max rounds ∧ Steps (body.Meets text mode) rounds i j
  | .group _ settings _ body, mode, i, j => body.Meets text (mode.after settings) i j
  | .alternation _ branches, mode, i, j => Tree.AnyMeets text branches mode i j
  | .sequence _ items, mode, i, j => Tree.AllMeet text items mode i j

/-- What one of some trees matches, of which each is read in the mode behind those before it. -/
def Tree.AnyMeets (text : List Char) : List Tree → Mode → ℕ → ℕ → Prop
  | [], _, _, _ => False
  | tree :: rest, mode, i, j => tree.Meets text mode i j ∨ Tree.AnyMeets text rest (tree.modeAfter mode) i j

/-- What some trees match, one behind the other. -/
def Tree.AllMeet (text : List Char) : List Tree → Mode → ℕ → ℕ → Prop
  | [], _, i, j => i = j
  | tree :: rest, mode, i, j =>
    ∃ k, tree.Meets text mode i k ∧ Tree.AllMeet text rest (tree.modeAfter mode) k j

end

mutual

/-- No count of a tree and no range of its classes ends before it starts. -/
def Tree.Sound : Tree → Prop
  | .bracketed _ _ body => body.Ordered
  | .repetition _ count body => count.isValid = true ∧ body.Sound
  | .group _ _ _ body => body.Sound
  | .alternation _ branches => Tree.AllSound branches
  | .sequence _ items => Tree.AllSound items
  | _ => True

/-- No count of some trees and no range of their classes ends before it starts. -/
def Tree.AllSound : List Tree → Prop
  | [] => True
  | tree :: rest => tree.Sound ∧ Tree.AllSound rest

end

/-! ### Single characters -/

section

variable {mode : Mode} {text : List Char} {i j : ℕ}

lemma toNat_le_lastCode (c : Char) : c.toNat ≤ CharSet.lastCode := by
  have := c.valid
  simp only [UInt32.isValidChar, Nat.isValidChar] at this
  simp only [Char.toNat, CharSet.lastCode]
  omega

/-- A set that stands for a class matches one of its characters. -/
lemma Stands.matches {set : CharSet} {inClass : ℕ → Prop} (h : Stands set inClass) :
    (chars set).Matches text i j ↔ OneChar text inClass i j := by
  simp only [Matches, OneChar, h.2 _ (toNat_le_lastCode _)]

lemma stands_dotSet (mode : Mode) :
    Stands mode.dotSet mode.Dotted := by
  unfold Mode.Dotted
  rw [Mode.dotSet, lineFeed]
  cases hall : mode.dotAll with
  | true =>
      refine ⟨CharSet.Proper.complement _, fun code hcode => ?_⟩
      rw [if_pos rfl, CharSet.contains_complement (by decide) hcode]
      simp [CharSet.contains, CharSet.empty]
  | false =>
      cases hreturn : mode.carriageReturn with
      | true =>
          have hends := (stands_single '\n').union (stands_single '\r')
          refine ⟨CharSet.Proper.complement _, fun code hcode => ?_⟩
          simp [CharSet.contains_complement hends.1 hcode, hends.2 code hcode]
      | false =>
          have hend := stands_single '\n'
          refine ⟨CharSet.Proper.complement _, fun code hcode => ?_⟩
          simp [CharSet.contains_complement hend.1 hcode, hend.2 code hcode]

lemma stands_literal {l : Literal} {p : Pattern} (h : mode.literal l = .ok p) :
    ∃ set, p = chars set ∧ Stands set (mode.Same l.char) := by
  have hsingle := stands_single l.char
  rw [Mode.literal] at h
  split at h
  · split at h
    · cases h
    · rename_i hcase
      cases h
      exact ⟨_, rfl, hsingle.1, fun code hcode => by simp [Mode.Same, Mode.Folded, hcase, hsingle.2 code hcode]⟩
  · split at h
    · cases h
    · split at h
      · rename_i hcase
        cases h
        refine ⟨_, rfl, hsingle.1.withOtherCase, fun code hcode => ?_⟩
        rw [CharSet.contains_withOtherCase, hsingle.2 code hcode, hsingle.2 _ (otherCase_le hcode)]
        simp [Mode.Same, Mode.Folded, hcase]
      · rename_i hcase
        cases h
        exact ⟨_, rfl, hsingle.1, fun code hcode => by simp [Mode.Same, Mode.Folded, hcase, hsingle.2 code hcode]⟩

end

/-! ### Trees -/

lemma meaning_bind_ok {α β : Type} {x : Meaning α} {f : α → Meaning β} {mode after : Mode} {b : β} :
    (x >>= f) mode = .ok (b, after) ↔
      ∃ a middle, x mode = .ok (a, middle) ∧ f a middle = .ok (b, after) := by
  refine bind_eq_ok.trans ⟨?_, ?_⟩
  · rintro ⟨⟨a, middle⟩, hx, hf⟩
    exact ⟨a, middle, hx, hf⟩
  · rintro ⟨a, middle, hx, hf⟩
    exact ⟨(a, middle), hx, hf⟩

lemma meaning_lift_ok {α : Type} {x : Meant α} {mode after : Mode} {a : α} :
    (liftM x : Meaning α) mode = .ok (a, after) ↔ x = .ok a ∧ after = mode := by
  cases x <;> simp [liftM, monadLift, MonadLift.monadLift, StateT.lift, bind, Except.bind, pure, Except.pure,
    eq_comm]

/-- A tree is read in some mode as a pattern that matches what the tree does, and leaves the mode behind it. -/
def Tree.ReadAs (tree : Tree) (mode : Mode) (p : Pattern) (after : Mode) : Prop :=
  after = tree.modeAfter mode ∧ p.Tidy ∧ ∀ text i j, p.Matches text i j ↔ tree.Meets text mode i j

mutual

/-- The pattern of a tree matches what the tree does. -/
lemma readAs_meaning : ∀ (tree : Tree) {mode : Mode} {p : Pattern} {after : Mode}, tree.Sound →
    tree.meaning mode = .ok (p, after) → tree.ReadAs mode p after
  | .empty, _, _, _, _, h => by
      cases h
      exact ⟨rfl, trivial, fun _ _ _ => Iff.rfl⟩
  | .flags _ _, _, _, _, _, h => by
      cases h
      exact ⟨rfl, trivial, fun _ _ _ => Iff.rfl⟩
  | .literal l, mode, _, _, _, h => by
      obtain ⟨_, _, hget, hliteral⟩ := meaning_bind_ok.mp h
      cases hget
      obtain ⟨hliteral, rfl⟩ := meaning_lift_ok.mp hliteral
      obtain ⟨set, rfl, hset⟩ := stands_literal hliteral
      exact ⟨rfl, trivial, fun _ _ _ => hset.matches⟩
  | .dot _, mode, _, _, _, h => by
      obtain ⟨_, _, hget, hrest⟩ := meaning_bind_ok.mp h
      cases hget
      cases hunicode : mode.unicode with
      | false =>
          simp only [hunicode] at hrest
          exact nomatch hrest
      | true =>
          simp only [hunicode] at hrest
          cases hrest
          exact ⟨rfl, trivial, fun _ _ _ => (stands_dotSet mode).matches⟩
  | .assertion _ _, _, _, _, _, h => by
      cases h
      exact ⟨rfl, trivial, fun _ _ _ => Iff.rfl⟩
  | .shorthand span kind negated, mode, _, _, _, h => by
      obtain ⟨_, _, hget, hrest⟩ := meaning_bind_ok.mp h
      cases hget
      obtain ⟨set, _, hset, hrest⟩ := meaning_bind_ok.mp hrest
      cases hrest
      obtain ⟨hset, rfl⟩ := meaning_lift_ok.mp hset
      exact ⟨rfl, trivial, fun _ _ _ => (stands_set (.shorthand span kind negated) trivial hset).matches⟩
  | .property span name, mode, _, _, _, h => by
      obtain ⟨_, _, hget, hrest⟩ := meaning_bind_ok.mp h
      cases hget
      obtain ⟨hrest, rfl⟩ := meaning_lift_ok.mp hrest
      exact absurd hrest (property_ne_ok span name)
  | .bracketed span negated body, mode, _, _, hsound, h => by
      obtain ⟨_, _, hget, hrest⟩ := meaning_bind_ok.mp h
      cases hget
      obtain ⟨inner, _, hinner, hfinish⟩ := meaning_bind_ok.mp hrest
      obtain ⟨hinner, rfl⟩ := meaning_lift_ok.mp hinner
      obtain ⟨set, _, hset, hpattern⟩ := meaning_bind_ok.mp hfinish
      obtain ⟨hset, rfl⟩ := meaning_lift_ok.mp hset
      cases hpattern
      exact ⟨rfl, trivial, fun _ _ _ => ((stands_set body hsound hinner).finish hset).matches⟩
  | .repetition _ count body, mode, _, _, hsound, h => by
      obtain ⟨inner, middle, hinner, hrest⟩ := meaning_bind_ok.mp h
      cases hrest
      obtain ⟨hafter, htidy, hmatches⟩ := readAs_meaning body hsound.2 hinner
      refine ⟨hafter, htidy.times hsound.1, fun text i j => ?_⟩
      have hbody : inner.Matches text = body.Meets text mode :=
        funext fun i => funext fun j => propext (hmatches text i j)
      rw [matches_times hsound.1, hbody]
      rfl
  | .group _ settings captures body, mode, _, _, hsound, h => by
      obtain ⟨_, _, hget, hrest⟩ := meaning_bind_ok.mp h
      cases hget
      obtain ⟨_, _, hset, hrest⟩ := meaning_bind_ok.mp hrest
      cases hset
      obtain ⟨inner, _, hinner, hrest⟩ := meaning_bind_ok.mp hrest
      obtain ⟨_, _, hset, hrest⟩ := meaning_bind_ok.mp hrest
      cases hset
      cases hrest
      obtain ⟨-, htidy, hmatches⟩ := readAs_meaning body hsound hinner
      cases captures <;> exact ⟨rfl, htidy, hmatches⟩
  | .alternation _ branches, _, _, _, hsound, h => by
      obtain ⟨patterns, _, hpatterns, hrest⟩ := meaning_bind_ok.mp h
      cases hrest
      obtain ⟨hafter, htidy, -, hany⟩ := readAs_meanings branches hsound hpatterns
      exact ⟨hafter, tidy_anyOf htidy, hany⟩
  | .sequence _ items, _, _, _, hsound, h => by
      obtain ⟨patterns, _, hpatterns, hrest⟩ := meaning_bind_ok.mp h
      cases hrest
      obtain ⟨hafter, htidy, hall, -⟩ := readAs_meanings items hsound hpatterns
      exact ⟨hafter, tidy_inOrder htidy, hall⟩

/-- The patterns of some trees match what the trees do, one behind the other or side by side. -/
lemma readAs_meanings : ∀ (trees : List Tree) {mode : Mode} {patterns : List Pattern} {after : Mode},
    Tree.AllSound trees → Tree.meanings trees mode = .ok (patterns, after) →
    after = Tree.modeAfterAll trees mode ∧ (∀ p ∈ patterns, p.Tidy) ∧
      (∀ text i j, (inOrder patterns).Matches text i j ↔ Tree.AllMeet text trees mode i j) ∧
      ∀ text i j, (anyOf patterns).Matches text i j ↔ Tree.AnyMeets text trees mode i j
  | [], _, _, _, _, h => by
      cases h
      refine ⟨rfl, by simp, fun _ _ _ => Iff.rfl, fun text i j => ?_⟩
      simp [matches_anyOf, Tree.AnyMeets]
  | tree :: rest, _, _, _, hsound, h => by
      obtain ⟨first, _, hfirst, hrest⟩ := meaning_bind_ok.mp h
      obtain ⟨more, _, hmore, hrest⟩ := meaning_bind_ok.mp hrest
      cases hrest
      obtain ⟨rfl, htidy, hmatches⟩ := readAs_meaning tree hsound.1 hfirst
      obtain ⟨rfl, htidy', hall, hany⟩ := readAs_meanings rest hsound.2 hmore
      refine ⟨rfl, List.forall_mem_cons.mpr ⟨htidy, htidy'⟩, fun text i j => ?_, fun text i j => ?_⟩
      · rw [matches_inOrder_cons]
        simp only [hmatches, hall]
        rfl
      · rw [matches_anyOf, List.exists_mem_cons_iff, ← matches_anyOf, hmatches, hany]
        rfl

end

end LaneKernels.Pattern
