import Mathlib.Tactic
import LaneKernels.Pattern
import LaneKernels.Proofs.Pattern.Forms
import LaneKernels.Proofs.Pattern.Meaning
import LaneKernels.Proofs.Stateful

/-!
Patterns without signs.

`compile_ordinary`: a text of ordinary characters is a pattern that is found in exactly the texts that contain
it. It is only rejected if it is too long, at 32 bytes for each byte of its encoding.
-/

namespace LaneKernels.Pattern

open Parsing

/-- A character stands for itself. -/
def IsOrdinary (c : Char) : Prop :=
  c ∉ ['\\', '.', '^', '$', '(', ')', '|', '[', '\x7b', '?', '*', '+']

/-! ### Reading -/

/-- The characters of a text as trees, from a place on. -/
def literals : Position → List Char → List Tree
  | _, [] => []
  | position, c :: rest => .literal ⟨⟨position, position.after c⟩, c, false⟩ :: literals (position.after c) rest

/-- One ordinary character more is read. -/
lemma simpleItem_ordinary {c : Char} (hc : IsOrdinary c) {scan : Scan} {rest : List Char}
    (hrest : scan.rest = c :: rest) :
    simpleItem c scan = .ok (.literal ⟨⟨scan.position, scan.position.after c⟩, c, false⟩) scan.forward := by
  simp only [IsOrdinary, List.mem_cons, not_or] at hc
  obtain ⟨hslash, hdot, hcaret, hdollar, -⟩ := hc
  have hspan : spanNext scan = .ok ⟨scan.position, scan.position.after c⟩ scan := by
    have hforward : scan.forward.position = scan.position.after c := by
      rw [Scan.forward, hrest]
    rw [← hforward]
    rfl
  have hbump : bump scan = .ok (!scan.forward.rest.isEmpty) scan.forward := rfl
  rw [simpleItem, if_neg hslash, run_bind_ok hspan, run_bind_ok hbump]
  split
  · exact absurd rfl hdot
  · exact absurd rfl hcaret
  · exact absurd rfl hdollar
  · rfl

lemma current?_eq (scan : Scan) : current? scan = .ok scan.rest.head? scan := rfl

section

variable {scan : Scan} (hverbose : scan.verbose = false) {fuel : ℕ} {level : Level}

include hverbose

lemma skipSpace_of_not_verbose : skipSpace scan = .ok () scan := by
  show EStateM.Result.ok () scan.skipSpace = _
  rw [Scan.skipSpace, hverbose]
  rfl

lemma branchesFrom_nil (hrest : scan.rest = []) :
    branchesFrom (fuel + 1) [] level scan = .ok (level.tree scan.position) scan := by
  have hnone : current? scan = .ok none scan := by
    rw [current?_eq, hrest]
    rfl
  rw [branchesFrom, run_bind_ok (skipSpace_of_not_verbose hverbose), run_bind_ok hnone]
  rfl

lemma branchesFrom_cons {c : Char} (hc : IsOrdinary c) {rest : List Char} (hrest : scan.rest = c :: rest) :
    branchesFrom (fuel + 1) [] level scan =
      branchesFrom fuel [] (level.push (.literal ⟨⟨scan.position, scan.position.after c⟩, c, false⟩))
        scan.forward := by
  have hnext : current? scan = .ok (some c) scan := by
    rw [current?_eq, hrest]
    rfl
  have hitem := simpleItem_ordinary hc hrest
  simp only [IsOrdinary, List.mem_cons, List.not_mem_nil, or_false, not_or] at hc
  obtain ⟨-, -, -, -, hopen, hclose, hbar, hbracket, hbrace, hquestion, hstar, hplus⟩ := hc
  rw [branchesFrom, run_bind_ok (skipSpace_of_not_verbose hverbose), run_bind_ok hnext]
  generalize hsome : some c = next
  split
  · exact nomatch hsome
  · exact absurd (Option.some.inj hsome) hopen
  · exact absurd (Option.some.inj hsome) hclose
  · exact absurd (Option.some.inj hsome) hbar
  · exact absurd (Option.some.inj hsome) hbracket
  · obtain rfl := Option.some.inj hsome
    have hcount : countOf? c = none := by
      rw [countOf?.eq_def]
      split
      · exact absurd rfl hquestion
      · exact absurd rfl hstar
      · exact absurd rfl hplus
      · rfl
    rw [if_neg (by simp [hcount, hbrace]), run_bind_ok hitem]

end

/-- A pattern of ordinary characters is read as these characters, one behind the other. -/
lemma branchesFrom_ordinary {text : List Char} (htext : ∀ c ∈ text, IsOrdinary c) {fuel : ℕ}
    (hfuel : text.length < fuel) {level : Level} {scan : Scan} (hrest : scan.rest = text)
    (hverbose : scan.verbose = false) :
    ∃ stop after, branchesFrom fuel [] level scan =
      .ok (Level.tree { level with items := (literals scan.position text).reverse ++ level.items } stop)
        after := by
  induction text generalizing fuel level scan with
  | nil =>
      obtain ⟨fuel, rfl⟩ := Nat.exists_eq_add_one_of_ne_zero (Nat.ne_zero_of_lt hfuel)
      exact ⟨scan.position, scan, branchesFrom_nil hverbose hrest⟩
  | cons c rest ih =>
      obtain ⟨fuel, rfl⟩ := Nat.exists_eq_add_one_of_ne_zero (Nat.ne_zero_of_lt hfuel)
      obtain ⟨hc, hmore⟩ := List.forall_mem_cons.mp htext
      have hforward : scan.forward = { scan with position := scan.position.after c, rest } := by
        rw [Scan.forward, hrest]
      rw [branchesFrom_cons hverbose hc hrest, hforward]
      obtain ⟨stop, after, hrun⟩ := @ih hmore fuel (Nat.lt_of_succ_lt_succ hfuel)
        (level.push (.literal ⟨⟨scan.position, scan.position.after c⟩, c, false⟩))
        { scan with position := scan.position.after c, rest } rfl hverbose
      refine ⟨stop, after, hrun.trans ?_⟩
      simp [literals, Level.push]

lemma tooDeep?_literals (limit depth : ℕ) (position : Position) (text : List Char) :
    Tree.anyTooDeep? limit depth (literals position text) = none := by
  induction text generalizing position with
  | nil => rfl
  | cons c rest ih => exact ih _

lemma tooDeep?_ofItems (span : Span) (position : Position) (text : List Char) :
    (Tree.ofItems span (literals position text)).tooDeep? depthLimit 0 = none := by
  cases text with
  | nil => rfl
  | cons c rest =>
      cases rest with
      | nil => rfl
      | cons next rest => exact tooDeep?_literals depthLimit 1 position (c :: next :: rest)

/-- The tree of a pattern of ordinary characters. -/
lemma read_ordinary {text : String} (htext : ∀ c ∈ text.toList, IsOrdinary c) :
    ∃ span, Tree.read text = .ok (Tree.ofItems span (literals .start text.toList)) := by
  have hfuel : text.toList.length < text.length + 1 := by
    rw [String.length_toList]
    exact Nat.lt_succ_self _
  obtain ⟨stop, after, hrun⟩ :=
    @branchesFrom_ordinary _ htext _ hfuel (Level.startingAt .start) (Scan.start text) rfl rfl
  refine ⟨⟨.start, stop⟩, ?_⟩
  have hread : branchesFrom (text.length + 1) [] (Level.startingAt .start) (Scan.start text) =
      .ok (Tree.ofItems ⟨.start, stop⟩ (literals .start text.toList)) after := by
    rw [hrun]
    simp [Level.tree, Level.branch, Level.startingAt, Scan.start]
  simp only [Tree.read, hread, tooDeep?_ofItems]

/-! ### Meaning -/

/-- The pattern of some characters, one behind the other. -/
def exactly (text : List Char) : Pattern :=
  inOrder (text.map fun c => chars (.single c))

lemma followedBy_empty (p : Pattern) : p.followedBy empty = p := by
  cases p <;> rfl

lemma meaning_ofItems {items : List Tree} {mode after : Mode} {patterns : List Pattern} (span : Span)
    (h : Tree.meanings items mode = .ok (patterns, after)) :
    (Tree.ofItems span items).meaning mode = .ok (inOrder patterns, after) := by
  cases items with
  | nil =>
      cases h
      rfl
  | cons item rest =>
      cases rest with
      | nil =>
          obtain ⟨p, _, hp, hrest⟩ := meaning_bind_ok.mp h
          cases hrest
          rw [inOrder, List.foldr_cons, List.foldr_nil, followedBy_empty]
          exact hp
      | cons => exact meaning_bind_ok.mpr ⟨patterns, after, h, rfl⟩

lemma meanings_literals (position : Position) (text : List Char) :
    Tree.meanings (literals position text) Mode.start =
      .ok (text.map fun c => chars (.single c), Mode.start) := by
  induction text generalizing position with
  | nil => rfl
  | cons c rest ih =>
      exact meaning_bind_ok.mpr ⟨_, _, rfl, meaning_bind_ok.mpr ⟨_, _, ih _, rfl⟩⟩

lemma matches_exactly {word text : List Char} {i j : ℕ} :
    (exactly word).Matches text i j ↔ word <+: text.drop i ∧ j = i + word.length := by
  induction word generalizing i with
  | nil => simp [exactly, inOrder, Matches, eq_comm]
  | cons c word ih =>
      have hfirst : ∀ k, (chars (.single c)).Matches text i k ↔ text[i]? = some c ∧ k = i + 1 := by
        intro k
        rw [(stands_single c).matches, OneChar]
        constructor
        · rintro ⟨rfl, c', hc', heq⟩
          obtain rfl := Char.toNat_inj.mp heq
          exact ⟨hc', rfl⟩
        · rintro ⟨hc, rfl⟩
          exact ⟨rfl, c, hc, rfl⟩
      have hprefix : c :: word <+: text.drop i ↔ text[i]? = some c ∧ word <+: text.drop (i + 1) := by
        rw [← List.head?_drop, ← List.tail_drop]
        cases text.drop i <;> simp [eq_comm]
      rw [exactly, List.map_cons, matches_inOrder_cons, hprefix]
      simp only [hfirst]
      constructor
      · rintro ⟨_, ⟨hc, rfl⟩, hrest⟩
        obtain ⟨hword, rfl⟩ := ih.mp hrest
        exact ⟨⟨hc, hword⟩, by rw [List.length_cons]; omega⟩
      · rintro ⟨⟨hc, hword⟩, rfl⟩
        exact ⟨i + 1, ⟨hc, rfl⟩, ih.mpr ⟨hword, by rw [List.length_cons]; omega⟩⟩

/-! ### Size -/

lemma size_single (c : Char) (direction : ReadDirection) :
    (CharSet.single c).size direction = stateBytes * c.utf8Size := by
  have honly : (CharSet.single c).only? = some c.toNat := if_pos rfl
  simp only [CharSet.size, honly, CodeRange.encoding, Char.ofNat_toNat, List.length_map,
    String.length_utf8EncodeChar]

/-- Two characters or more are a sequence of the first one and the others. -/
lemma exactly_cons_cons (c next : Char) (rest : List Char) :
    exactly (c :: next :: rest) = sequence (chars (.single c)) (exactly (next :: rest)) := by
  have hmore : ∀ q : Pattern, (chars (.single next)).followedBy q ≠ empty := by
    intro q h
    cases q <;> cases h
  rw [exactly, List.map_cons, inOrder, List.foldr_cons, ← inOrder, followedBy.eq_def]
  split
  · rename_i h
    cases h
  · rename_i h _
    exact absurd h (hmore _)
  · rfl

/-- A pattern of characters takes so many bytes for each byte of their encoding. -/
lemma partSize_exactly {word : List Char} (hne : word ≠ []) (direction : ReadDirection) :
    (exactly word).partSize direction = stateBytes * (String.ofList word).utf8ByteSize := by
  induction word with
  | nil => exact absurd rfl hne
  | cons c rest ih =>
      have hbytes :
          (String.ofList (c :: rest)).utf8ByteSize = c.utf8Size + (String.ofList rest).utf8ByteSize := by
        rw [← List.singleton_append, String.ofList_append, String.utf8ByteSize_append,
          ← String.singleton_eq_ofList, String.utf8ByteSize_singleton]
      rw [hbytes, Nat.mul_add, ← size_single c direction]
      cases rest with
      | nil => rfl
      | cons next rest => rw [exactly_cons_cons, partSize, ih (List.cons_ne_nil _ _), partSize]

lemma usesUnicodeWord_exactly (word : List Char) : (exactly word).usesUnicodeWord = false := by
  induction word with
  | nil => rfl
  | cons c rest ih =>
      cases rest with
      | nil => rfl
      | cons next rest =>
          rw [exactly_cons_cons, usesUnicodeWord, ih]
          rfl

lemma tidy_exactly (word : List Char) : (exactly word).Tidy := by
  refine tidy_inOrder fun p hp => ?_
  obtain ⟨c, -, rfl⟩ := List.mem_map.mp hp
  trivial

/-! ### Compiling -/

lemma meaningOf_ordinary {text : String} (htext : ∀ c ∈ text.toList, IsOrdinary c) :
    meaningOf text = .ok (exactly text.toList) := by
  obtain ⟨span, htree⟩ := read_ordinary htext
  refine bind_eq_ok.mpr ⟨_, htree, bind_eq_ok.mpr ⟨(exactly text.toList, Mode.start), ?_, rfl⟩⟩
  exact meaning_ofItems span (meanings_literals .start text.toList)

/-- A text of characters that stand for themselves is found in the texts that contain it, unless it is too long
to be accepted. -/
theorem compile_ordinary {text : String} (hne : text ≠ "") (htext : ∀ c ∈ text.toList, IsOrdinary c) :
    (sizeLimit < 32 * text.utf8ByteSize + 212 → compile text = .error .tooLarge) ∧
      (32 * text.utf8ByteSize + 212 ≤ sizeLimit →
        ∃ p, compile text = .ok p ∧
          ∀ message : String, p.isIn message = true ↔ text.toList <:+: message.toList) := by
  have hsize : ∀ direction, (exactly text.toList).partSize direction = 32 * text.utf8ByteSize := by
    intro direction
    rw [partSize_exactly (by simpa using hne), String.ofList_toList]
    rfl
  have hforward : (exactly text.toList).forwardSize = 32 * text.utf8ByteSize + 212 := by
    rw [forwardSize, hsize]
    rfl
  have hbackward : (exactly text.toList).backwardSize = 32 * text.utf8ByteSize + 148 := by
    rw [backwardSize, hsize]
    rfl
  rw [compile, meaningOf_ordinary htext]
  simp only [hforward, hbackward, usesUnicodeWord_exactly]
  refine ⟨fun hlarge => if_pos hlarge, fun hfits => ⟨(exactly text.toList).condensed, ?_, fun message => ?_⟩⟩
  · rw [if_neg (by omega), if_neg Bool.false_ne_true, if_neg (by omega)]
  · rw [isIn_iff]
    simp only [matches_condensed (tidy_exactly _), matches_exactly]
    constructor
    · rintro ⟨i, _, -, hword, -⟩
      exact hword.isInfix.trans (List.drop_suffix i _).isInfix
    · rintro ⟨front, behind, hsplit⟩
      refine ⟨front.length, _, ?_, ?_, rfl⟩
      · rw [← hsplit, List.append_assoc, List.length_append]
        exact Nat.le_add_right _ _
      · rw [← hsplit, List.append_assoc, List.drop_left]
        exact List.prefix_append _ _

end LaneKernels.Pattern
