import Mathlib.Tactic
import LaneKernels.Pattern
import LaneKernels.Proofs.Pattern.Meaning
import LaneKernels.Proofs.Stateful

/-!
A pattern that is accepted is found where its tree matches.

* `Gives` says what holds of everything that some reading may give. Where a range or a count is read it is
  checked (`gives_classRange`, `gives_repetition`), so that every tree that is read is sound (`sound_of_read`).
* `isIn_of_compile`: what `Pattern.compile` accepts is found in exactly those texts in which its tree matches
  between two places.
-/

namespace LaneKernels.Pattern

open Parsing

/-- Whatever the reading gives has a property. -/
def Gives {α : Type} (holds : α → Prop) (reading : Parsing α) : Prop :=
  ∀ scan a after, reading scan = .ok a after → holds a

section

variable {α β : Type} {holds : α → Prop} {holds' : β → Prop} {first : Parsing α} {next : α → Parsing β}

lemma gives_pure {a : α} (h : holds a) : Gives holds (pure a) := by
  intro scan b after hrun
  cases hrun
  exact h

lemma gives_fail (flaw : Flaw) (span : Span) : Gives holds (fail flaw span) :=
  fun _ _ _ hrun => nomatch hrun

lemma Gives.bind (hfirst : Gives holds first) (hnext : ∀ a, holds a → Gives holds' (next a)) :
    Gives holds' (first >>= next) := by
  intro scan b after hrun
  cases h : first scan with
  | ok a middle =>
      rw [run_bind_ok h] at hrun
      exact hnext a (hfirst scan a middle h) middle b after hrun
  | error finding middle =>
      rw [run_bind_error h] at hrun
      exact nomatch hrun

/-- Nothing is read behind a flaw. -/
lemma gives_fail_bind (flaw : Flaw) (span : Span) {next : α → Parsing β} :
    Gives holds' (fail flaw span >>= next) := by
  have hnone : Gives (fun _ => False) (fail flaw span : Parsing α) := gives_fail flaw span
  exact hnone.bind fun _ => False.elim

/-- What is read first may be anything. -/
lemma gives_bind (hnext : ∀ a, Gives holds' (next a)) : Gives holds' (first >>= next) := by
  have hfirst : Gives (fun _ => True) first := fun _ _ _ _ => trivial
  exact hfirst.bind fun a _ => hnext a

/-- What is read behind a check need be as said only where the check is passed. -/
lemma gives_check {flawed : Prop} [Decidable flawed] {flaw : Flaw} {span : Span} {next : Unit → Parsing β}
    (hnext : ¬ flawed → Gives holds' (next ())) :
    Gives holds' (if flawed then do next (← fail flaw span) else next ()) := by
  split
  · exact gives_fail_bind flaw span
  · exact hnext ‹_›

/-- The same for a flaw with a span that is found first. -/
lemma gives_checkAt {flawed : Prop} [Decidable flawed] {flaw : Flaw} {found : Parsing α} {span : α → Span}
    {next : Unit → Parsing β} (hnext : ¬ flawed → Gives holds' (next ())) :
    Gives holds' (if flawed then do next (← fail flaw (span (← found))) else next ()) := by
  split
  · exact gives_bind fun _ => gives_fail_bind flaw _
  · exact hnext ‹_›

/-- Something that is sometimes read before the rest. -/
lemma gives_rest {isNext : Prop} [Decidable isNext] {whole rest : Parsing β} (hrest : Gives holds' rest)
    (hwhole : Gives holds' rest → Gives holds' whole) : Gives holds' (if isNext then whole else rest) := by
  split
  · exact hwhole hrest
  · exact hrest

end

/-! ### Classes -/

lemma gives_classItem (part : Tree) : Gives ClassTree.Ordered (classItem part) := by
  rw [classItem]
  split
  · rename_i item hitem
    refine gives_pure ?_
    cases part <;> cases hitem <;> trivial
  · exact gives_fail _ _

lemma gives_classRange (bracket : OpenClass) : Gives ClassTree.Ordered (classRange bracket) := by
  unfold classRange
  refine gives_bind fun first => gives_bind fun _ => gives_bind fun more => gives_check fun _ => ?_
  refine gives_bind fun _ => gives_bind fun _ => ?_
  split
  · exact gives_classItem first
  · refine gives_bind fun _ => gives_check fun _ => ?_
    refine gives_bind fun last => gives_bind fun low => gives_bind fun high => gives_check fun horder => ?_
    exact gives_pure (show low.char ≤ high.char from Char.not_lt.mp horder)

/-- Every class that stands in a bracket so far is ordered. -/
def OpenClass.Ordered (bracket : OpenClass) : Prop :=
  ClassTree.AllOrdered bracket.items ∧ ∀ left ∈ bracket.left, left.1.Ordered

lemma allOrdered_iff {items : List ClassTree} : ClassTree.AllOrdered items ↔ ∀ item ∈ items, item.Ordered := by
  induction items with
  | nil => simp [ClassTree.AllOrdered]
  | cons item rest ih => rw [ClassTree.AllOrdered, ih, List.forall_mem_cons]

lemma OpenClass.Ordered.push {bracket : OpenClass} {item : ClassTree} (h : bracket.Ordered)
    (hitem : item.Ordered) : (bracket.push item).Ordered :=
  ⟨⟨hitem, h.1⟩, h.2⟩

lemma OpenClass.Ordered.union {bracket : OpenClass} (h : bracket.Ordered) : bracket.union.Ordered := by
  have hitems := allOrdered_iff.mp h.1
  rw [OpenClass.union]
  split
  · trivial
  · rename_i item hitem
    exact hitems item (hitem ▸ List.mem_cons_self)
  · exact allOrdered_iff.mpr fun item hitem => hitems item (List.mem_reverse.mp hitem)

lemma OpenClass.Ordered.body {bracket : OpenClass} (h : bracket.Ordered) : bracket.body.Ordered := by
  rw [OpenClass.body]
  split
  · exact h.union
  · rename_i lhs op hleft
    exact ⟨h.2 (lhs, op) hleft, h.union⟩

lemma OpenClass.Ordered.operate {bracket : OpenClass} (h : bracket.Ordered) (op : ClassOp)
    (position : Position) : (bracket.operate op position).Ordered := by
  refine ⟨trivial, ?_⟩
  rintro _ ⟨rfl⟩
  exact h.body

lemma gives_leadingDashes (start : Position) (count : ℕ) :
    Gives ClassTree.AllOrdered (leadingDashes start count) := by
  induction count with
  | zero => exact gives_pure trivial
  | succ count ih =>
      unfold leadingDashes
      refine gives_bind fun _ => ?_
      split
      · exact gives_pure trivial
      · refine gives_bind fun _ => gives_bind fun _ => gives_check fun _ => ?_
        exact ih.bind fun dashes hdashes => gives_pure ⟨trivial, hdashes⟩

lemma gives_leadingBracket (start : Position) : Gives ClassTree.AllOrdered (leadingBracket start) := by
  unfold leadingBracket
  refine gives_bind fun _ => ?_
  split
  · exact gives_pure trivial
  · exact gives_bind fun _ => gives_bind fun _ => gives_checkAt fun _ => gives_pure ⟨trivial, trivial⟩

lemma gives_openClass : Gives OpenClass.Ordered openClass := by
  unfold openClass
  refine gives_bind fun start => gives_bind fun _ => gives_checkAt fun _ => gives_bind fun _ => ?_
  refine gives_rest ?_ fun hrest => gives_bind fun _ => gives_checkAt fun _ => hrest
  refine gives_bind fun _ => gives_bind fun _ => (gives_leadingDashes start _).bind fun dashes hdashes => ?_
  have hreversed : ∀ {leading : List ClassTree}, ClassTree.AllOrdered leading →
      ClassTree.AllOrdered leading.reverse := fun hleading =>
    allOrdered_iff.mpr fun item hitem => allOrdered_iff.mp hleading item (List.mem_reverse.mp hitem)
  split
  · exact (gives_leadingBracket start).bind fun leading hleading =>
      gives_bind fun _ => gives_pure ⟨hreversed hleading, by simp⟩
  · exact (gives_pure hdashes).bind fun leading hleading =>
      gives_bind fun _ => gives_pure ⟨hreversed hleading, by simp⟩

lemma gives_readNamedClass? : Gives (fun named => ∀ item ∈ named, item.Ordered) readNamedClass? := by
  unfold readNamedClass?
  refine gives_bind fun _ => ?_
  split
  · exact gives_pure (by simp)
  · refine gives_bind fun _ => gives_bind fun _ => gives_bind fun _ => gives_pure ?_
    rintro _ ⟨rfl⟩
    trivial

lemma gives_classFrom {fuel : ℕ} {bracket : OpenClass} {outer : List OpenClass} (hbracket : bracket.Ordered)
    (houter : ∀ parent ∈ outer, parent.Ordered) : Gives Tree.Sound (classFrom fuel bracket outer) := by
  induction fuel generalizing bracket outer with
  | zero => exact gives_fail _ _
  | succ fuel ih =>
      unfold classFrom
      refine gives_bind fun _ => gives_bind fun next => ?_
      split
      · exact gives_fail _ _
      · refine gives_readNamedClass?.bind fun named hnamed => ?_
        split
        · rename_i item
          exact ih (hbracket.push (hnamed item rfl)) houter
        · exact gives_openClass.bind fun inner hinner => ih hinner (List.forall_mem_cons.mpr ⟨hbracket, houter⟩)
      · refine gives_bind fun _ => gives_bind fun _ => ?_
        split
        · exact gives_pure hbracket.body
        · rename_i parent outer
          obtain ⟨hparent, houter⟩ := List.forall_mem_cons.mp houter
          exact ih (hparent.push hbracket.body) houter
      · refine gives_bind fun op => ?_
        split
        · exact gives_bind fun _ => gives_bind fun _ => ih (hbracket.operate _ _) houter
        · exact (gives_classRange bracket).bind fun item hitem => ih (hbracket.push hitem) houter

lemma gives_bracketClass : Gives Tree.Sound bracketClass := by
  unfold bracketClass
  refine gives_bind fun _ => gives_openClass.bind fun bracket hbracket => ?_
  exact gives_classFrom hbracket (by simp)

/-! ### Escapes and repetitions -/

lemma gives_propertyEscape (start : Position) : Gives Tree.Sound (propertyEscape start) := by
  unfold propertyEscape
  refine gives_bind fun _ => gives_checkAt fun _ => gives_bind fun _ => ?_
  split
  · refine gives_bind fun _ => gives_bind fun _ => gives_bind fun _ => gives_checkAt fun _ => ?_
    exact gives_bind fun _ => gives_bind fun _ => gives_pure trivial
  · exact gives_bind fun _ => gives_fail _ _
  · exact gives_bind fun _ => gives_bind fun _ => gives_pure trivial

lemma gives_simpleEscape (start : Position) (c : Char) : Gives Tree.Sound (simpleEscape start c) := by
  unfold simpleEscape
  refine gives_bind fun _ => gives_bind fun _ => ?_
  split
  · refine gives_bind fun _ => ?_
    split
    · exact gives_bind fun _ => gives_pure trivial
    · exact gives_pure trivial
  · exact gives_pure trivial
  · split
    · exact gives_pure trivial
    · split
      · exact gives_pure trivial
      · exact gives_fail _ _

lemma gives_escape : Gives Tree.Sound escape := by
  unfold escape
  refine gives_bind fun start => gives_bind fun _ => gives_bind fun next => ?_
  split
  · exact gives_bind fun _ => gives_fail _ _
  · rename_i c
    refine gives_checkAt fun _ => ?_
    split
    · exact gives_propertyEscape start
    · split
      · exact gives_bind fun _ => gives_pure trivial
      · split
        · exact gives_bind fun _ => gives_bind fun _ => gives_pure trivial
        · exact gives_simpleEscape start c

lemma gives_repetitionCount (sign : Char) : Gives (·.isValid = true) (repetitionCount sign) := by
  unfold repetitionCount
  split
  · rename_i count hcount
    have hvalid : count.isValid = true := by
      rw [countOf?.eq_def] at hcount
      split at hcount <;> cases hcount <;> rfl
    exact gives_bind fun _ => gives_bind fun _ => gives_pure hvalid
  · unfold bracedCount
    refine gives_bind fun _ => gives_bind fun _ => gives_checkAt fun _ => gives_bind fun count => ?_
    refine gives_bind fun _ => gives_checkAt fun _ => gives_bind fun _ => gives_bind fun _ => ?_
    exact gives_checkAt fun hvalid => gives_pure (by simpa using hvalid)

lemma gives_repetition (sign : Char) {items : List Tree} (h : Tree.AllSound items) :
    Gives Tree.AllSound (repetition sign items) := by
  unfold repetition
  split
  · refine gives_checkAt fun _ => (gives_repetitionCount sign).bind fun count hcount => ?_
    exact gives_bind fun _ => gives_pure ⟨⟨hcount, h.1⟩, h.2⟩
  · exact gives_bind fun _ => gives_fail _ _

/-! ### Whole patterns -/

lemma allSound_iff {trees : List Tree} : Tree.AllSound trees ↔ ∀ tree ∈ trees, tree.Sound := by
  induction trees with
  | nil => simp [Tree.AllSound]
  | cons tree rest ih => rw [Tree.AllSound, ih, List.forall_mem_cons]

/-- Every tree of the branches of a group so far is sound. -/
def Level.Sound (level : Level) : Prop :=
  Tree.AllSound level.items ∧ Tree.AllSound level.branches

lemma Level.Sound.push {level : Level} {item : Tree} (h : level.Sound) (hitem : item.Sound) :
    (level.push item).Sound :=
  ⟨⟨hitem, h.1⟩, h.2⟩

lemma Level.Sound.branch {level : Level} (h : level.Sound) (stop : Position) : (level.branch stop).Sound := by
  have hitems : Tree.AllSound level.items.reverse :=
    allSound_iff.mpr fun item hitem => allSound_iff.mp h.1 item (List.mem_reverse.mp hitem)
  rw [Level.branch, Tree.ofItems.eq_def]
  split
  · trivial
  · rename_i item hitem
    exact (hitem ▸ hitems).1
  · exact hitems

lemma Level.Sound.tree {level : Level} (h : level.Sound) (stop : Position) : (level.tree stop).Sound := by
  rw [Level.tree]
  split
  · exact h.branch stop
  · refine allSound_iff.mpr fun tree htree => ?_
    obtain htree | htree := List.mem_append.mp htree
    · exact allSound_iff.mp h.2 tree (List.mem_reverse.mp htree)
    · exact List.mem_singleton.mp htree ▸ h.branch stop

lemma Level.sound_startingAt (position : Position) : (Level.startingAt position).Sound :=
  ⟨trivial, trivial⟩

lemma gives_simpleItem (c : Char) : Gives Tree.Sound (simpleItem c) := by
  unfold simpleItem
  split
  · exact gives_escape
  · refine gives_bind fun _ => gives_bind fun _ => ?_
    split <;> exact gives_pure trivial

lemma gives_branchesFrom {fuel : ℕ} {groups : List OpenGroup} {level : Level} (hlevel : level.Sound)
    (hgroups : ∀ group ∈ groups, group.outer.Sound) : Gives Tree.Sound (branchesFrom fuel groups level) := by
  induction fuel generalizing groups level with
  | zero => exact gives_bind fun _ => gives_pure (hlevel.tree _)
  | succ fuel ih =>
      unfold branchesFrom
      refine gives_bind fun _ => gives_bind fun next => ?_
      split
      · split
        · exact gives_bind fun _ => gives_pure (hlevel.tree _)
        · exact gives_fail _ _
      · refine gives_bind fun _ => gives_bind fun head => ?_
        split
        · exact gives_bind fun _ => ih (hlevel.push trivial) hgroups
        · exact gives_bind fun _ => gives_bind fun _ =>
            ih (Level.sound_startingAt _) (List.forall_mem_cons.mpr ⟨hlevel, hgroups⟩)
      · split
        · exact gives_bind fun _ => gives_fail _ _
        · rename_i group groups
          obtain ⟨hgroup, hgroups⟩ := List.forall_mem_cons.mp hgroups
          refine gives_bind fun _ => gives_bind fun _ => gives_bind fun _ => gives_bind fun _ => ?_
          exact ih (hgroup.push (hlevel.tree _)) hgroups
      · refine gives_bind fun stop => gives_bind fun _ => gives_bind fun _ => ?_
        exact ih ⟨trivial, hlevel.branch stop, hlevel.2⟩ hgroups
      · exact gives_bracketClass.bind fun item hitem => ih (hlevel.push hitem) hgroups
      · split
        · exact (gives_repetition _ hlevel.1).bind fun items hitems => ih ⟨hitems, hlevel.2⟩ hgroups
        · exact (gives_simpleItem _).bind fun item hitem => ih (hlevel.push hitem) hgroups

/-- No count and no range of a tree that is read ends before it starts. -/
theorem sound_of_read {pattern : String} {tree : Tree} (h : Tree.read pattern = .ok tree) : tree.Sound := by
  rw [Tree.read] at h
  split at h
  · exact nomatch h
  · rename_i read after hread
    split at h
    · exact nomatch h
    · cases h
      exact gives_branchesFrom (Level.sound_startingAt _) (by simp) _ _ _ hread

/-- A pattern that is accepted is found in a text if and only if its tree matches somewhere in it. -/
theorem isIn_of_compile {pattern : String} {p : Pattern} (h : compile pattern = .ok p) :
    ∃ tree, Tree.read pattern = .ok tree ∧ ∀ text : String, p.isIn text = true ↔
      ∃ i j, i ≤ text.toList.length ∧ tree.Meets text.toList Mode.start i j := by
  rw [compile] at h
  split at h
  · exact nomatch h
  · rename_i meaning hmeaning
    have hp : p = meaning.condensed := by
      split_ifs at h
      cases h
      rfl
    obtain ⟨tree, htree, hrest⟩ := bind_eq_ok.mp hmeaning
    obtain ⟨⟨_, after⟩, hrun, hpure⟩ := bind_eq_ok.mp hrest
    cases hpure
    obtain ⟨-, htidy, hmatches⟩ := readAs_meaning tree (sound_of_read htree) hrun
    refine ⟨tree, htree, fun text => ?_⟩
    rw [hp, isIn_iff]
    simp only [matches_condensed htidy, hmatches]

end LaneKernels.Pattern
