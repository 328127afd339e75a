import Mathlib.Tactic
import LaneKernels.Pattern.Meaning
import LaneKernels.Proofs.Pattern.CharSet

/-!
A class has the characters that it is written with.

* `ClassTree.Holds` says which code points a class means in some mode: a mode that ignores case also means the
  other case of a letter (`Mode.Folded`), and a negated part all but what stands in it.
* `stands_set`: the set that is made of a class has exactly these code points, if no range of the class ends
  before it starts (`ClassTree.Ordered`).
-/

namespace LaneKernels.Pattern

lemma bind_eq_ok {α β : Type} {x : Meant α} {f : α → Meant β} {b : β} :
    x >>= f = .ok b ↔ ∃ a, x = .ok a ∧ f a = .ok b := by
  cases x <;> simp [bind, Except.bind]

/-! ### What classes mean -/

/-- The code points of a class, and those that differ from one in case where that is ignored. -/
def Mode.Folded (mode : Mode) (inClass : ℕ → Prop) (code : ℕ) : Prop :=
  inClass code ∨ mode.ignoreCase = true ∧ inClass (CharSet.otherCase code)

/-- The same, or all others. -/
def Mode.Finished (mode : Mode) (negated : Bool) (inClass : ℕ → Prop) (code : ℕ) : Prop :=
  if negated then ¬ mode.Folded inClass code else mode.Folded inClass code

mutual

/-- A code point is one that a class means. -/
def ClassTree.Holds (mode : Mode) : ClassTree → ℕ → Prop
  | .empty _, _ | .property _ _, _ => False
  | .literal l, code => code = l.char.toNat
  | .range _ first last, code => first.char.toNat ≤ code ∧ code ≤ last.char.toNat
  | .named _ kind negated, code => mode.Finished negated (kind.set.contains · = true) code
  | .shorthand _ kind _, code => kind.set.contains code = true
  | .bracketed _ negated body, code => mode.Finished negated (body.Holds mode) code
  | .union _ items, code => ClassTree.AnyHolds mode items code
  | .operation _ op lhs rhs, code =>
    CharSet.means op (mode.Folded (lhs.Holds mode) code) (mode.Folded (rhs.Holds mode) code)

/-- A code point is one that one of some classes means. -/
def ClassTree.AnyHolds (mode : Mode) : List ClassTree → ℕ → Prop
  | [], _ => False
  | item :: rest, code => item.Holds mode code ∨ ClassTree.AnyHolds mode rest code

end

mutual

/-- No range of a class ends before it starts. -/
def ClassTree.Ordered : ClassTree → Prop
  | .range _ first last => first.char ≤ last.char
  | .bracketed _ _ body => body.Ordered
  | .union _ items => ClassTree.AllOrdered items
  | .operation _ _ lhs rhs => lhs.Ordered ∧ rhs.Ordered
  | _ => True

/-- No range of some classes ends before it starts. -/
def ClassTree.AllOrdered : List ClassTree → Prop
  | [] => True
  | item :: rest => item.Ordered ∧ ClassTree.AllOrdered rest

end

/-! ### Sets for classes -/

/-- A set has the code points of a class. -/
def Stands (set : CharSet) (inClass : ℕ → Prop) : Prop :=
  set.Proper ∧ ∀ code ≤ CharSet.lastCode, set.contains code = true ↔ inClass code

section

variable {mode : Mode} {set folded other : CharSet} {inClass inOther : ℕ → Prop}

lemma stands_between {first last : Char} (h : first ≤ last) :
    Stands (.between first last) fun code => first.toNat ≤ code ∧ code ≤ last.toNat := by
  refine ⟨fun range hrange => ?_, fun code _ => ?_⟩
  · rw [List.mem_singleton.mp hrange]
    exact h
  · simp [CharSet.contains, CharSet.between]

lemma stands_single (c : Char) : Stands (.single c) (· = c.toNat) := by
  refine ⟨fun range hrange => ?_, fun code _ => ?_⟩
  · rw [List.mem_singleton.mp hrange]
  · simp only [CharSet.contains, CharSet.single, List.any_cons, List.any_nil, Bool.or_false, Bool.and_eq_true,
      decide_eq_true_eq]
    omega

lemma stands_named (kind : NamedClass) : Stands kind.set (kind.set.contains · = true) := by
  refine ⟨?_, fun _ _ => Iff.rfl⟩
  cases kind <;> decide

lemma Stands.union (h : Stands set inClass) (h' : Stands other inOther) :
    Stands (set.union other) fun code => inClass code ∨ inOther code :=
  ⟨h.1.union h'.1, fun code hcode =>
    CharSet.contains_union.trans (or_congr (h.2 code hcode) (h'.2 code hcode))⟩

lemma Stands.apply (op : ClassOp) (h : Stands set inClass) (h' : Stands other inOther) :
    Stands (CharSet.apply op set other) fun code => CharSet.means op (inClass code) (inOther code) := by
  refine ⟨CharSet.Proper.apply op set other, fun code hcode => ?_⟩
  rw [CharSet.contains_apply op h'.1 hcode, propext (h.2 code hcode), propext (h'.2 code hcode)]

lemma otherCase_le {code : ℕ} (h : code ≤ CharSet.lastCode) : CharSet.otherCase code ≤ CharSet.lastCode := by
  rw [CharSet.otherCase, CharSet.lastCode] at *
  split_ifs <;> omega

lemma Stands.fold {span : Span} (h : Stands set inClass) (hfold : mode.fold span set = .ok folded) :
    Stands folded (mode.Folded inClass) := by
  rw [Mode.fold] at hfold
  cases hcase : mode.ignoreCase with
  | false =>
      rw [hcase] at hfold
      cases hfold
      refine ⟨h.1, fun code hcode => ?_⟩
      simp [Mode.Folded, hcase, h.2 code hcode]
  | true =>
      rw [hcase] at hfold
      cases hunicode : mode.unicode with
      | false =>
          rw [hunicode] at hfold
          cases hfold
          refine ⟨h.1.withOtherCase, fun code hcode => ?_⟩
          rw [CharSet.contains_withOtherCase, h.2 code hcode, h.2 _ (otherCase_le hcode)]
          simp [Mode.Folded, hcase]
      | true =>
          -- without tables for case only a class without characters is folded
          rw [hunicode] at hfold
          cases hempty : set.isEmpty with
          | false =>
              rw [hempty] at hfold
              exact nomatch hfold
          | true =>
              rw [hempty] at hfold
              cases hfold
              have hnone : ∀ code ≤ CharSet.lastCode, ¬ inClass code := by
                intro code hcode hin
                have hin := (h.2 code hcode).mpr hin
                rw [CharSet.contains, List.isEmpty_iff.mp hempty] at hin
                exact absurd hin Bool.false_ne_true
              refine ⟨h.1, fun code hcode => ?_⟩
              rw [h.2 code hcode, Mode.Folded]
              exact (or_iff_left fun hother => hnone _ (otherCase_le hcode) hother.2).symm

lemma Stands.finish {span : Span} {negated : Bool} {finished : CharSet} (h : Stands set inClass)
    (hfinish : mode.finish span negated set = .ok finished) :
    Stands finished (mode.Finished negated inClass) := by
  obtain ⟨folded, hfold, hrest⟩ := bind_eq_ok.mp hfinish
  have hfolded := h.fold hfold
  cases negated with
  | false =>
      cases hrest
      exact hfolded
  | true =>
      cases hunicode : mode.unicode with
      | false =>
          simp only [hunicode] at hrest
          exact nomatch hrest
      | true =>
          simp only [hunicode] at hrest
          cases hrest
          refine ⟨CharSet.Proper.complement folded, fun code hcode => ?_⟩
          rw [CharSet.contains_complement hfolded.1 hcode, hfolded.2 code hcode]
          rfl

lemma property_ne_ok {α : Type} {a : α} (span : Span) (name : String) : mode.property span name ≠ .ok a := by
  intro h
  rw [Mode.property] at h
  split at h
  · exact nomatch h
  · split at h <;> exact nomatch h

lemma classChar_eq {l : Literal} {c : Char} (h : mode.classChar l = .ok c) : c = l.char := by
  rw [Mode.classChar] at h
  split at h
  · cases h
    rfl
  · split at h <;> exact nomatch h

end

/-! ### The set of a class -/

mutual

/-- The set of a class has the code points that the class means. -/
lemma stands_set {mode : Mode} : ∀ (tree : ClassTree) {set : CharSet}, tree.Ordered → tree.set mode = .ok set →
    Stands set (tree.Holds mode)
  | .empty _, _, _, h => by
      cases h
      exact ⟨by decide, fun _ _ => by simp [CharSet.contains, CharSet.empty, ClassTree.Holds]⟩
  | .literal l, _, _, h => by
      obtain ⟨c, hc, hset⟩ := bind_eq_ok.mp h
      cases hset
      exact classChar_eq hc ▸ stands_single c
  | .range _ first last, _, horder, h => by
      obtain ⟨low, hlow, hrest⟩ := bind_eq_ok.mp h
      obtain ⟨high, hhigh, hset⟩ := bind_eq_ok.mp hrest
      cases hset
      rw [classChar_eq hlow, classChar_eq hhigh]
      exact stands_between horder
  | .named _ kind negated, _, _, h => (stands_named kind).finish h
  | .shorthand _ kind negated, _, _, h => by
      rw [ClassTree.set, Mode.shorthand] at h
      split at h
      · exact nomatch h
      · split at h
        · exact nomatch h
        · cases h
          cases kind <;> exact stands_named _
  | .property span name, _, _, h => absurd h (property_ne_ok span name)
  | .bracketed _ negated body, _, horder, h => by
      obtain ⟨inner, hinner, hfinish⟩ := bind_eq_ok.mp h
      exact (stands_set body horder hinner).finish hfinish
  | .union _ items, _, horder, h => stands_setOfAll items horder h
  | .operation _ op lhs rhs, _, horder, h => by
      obtain ⟨left, hleft, hrest⟩ := bind_eq_ok.mp h
      obtain ⟨right, hright, hrest⟩ := bind_eq_ok.mp hrest
      obtain ⟨right', hright', hrest⟩ := bind_eq_ok.mp hrest
      obtain ⟨left', hleft', hset⟩ := bind_eq_ok.mp hrest
      cases hset
      exact ((stands_set lhs horder.1 hleft).fold hleft').apply op
        ((stands_set rhs horder.2 hright).fold hright')

/-- The set of some classes together has the code points that one of them means. -/
lemma stands_setOfAll {mode : Mode} : ∀ (items : List ClassTree) {set : CharSet}, ClassTree.AllOrdered items →
    ClassTree.setOfAll mode items = .ok set → Stands set (ClassTree.AnyHolds mode items)
  | [], _, _, h => by
      cases h
      exact ⟨by decide, fun _ _ => by simp [CharSet.contains, CharSet.empty, ClassTree.AnyHolds]⟩
  | item :: rest, _, horder, h => by
      obtain ⟨first, hfirst, hrest⟩ := bind_eq_ok.mp h
      obtain ⟨more, hmore, hset⟩ := bind_eq_ok.mp hrest
      cases hset
      exact (stands_set item horder.1 hfirst).union (stands_setOfAll rest horder.2 hmore)

end

end LaneKernels.Pattern
