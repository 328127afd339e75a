import Mathlib.Tactic
import LaneKernels.Text.Pieces

/-!
Brackets of a text that close in the order in which they open.

* `Nested` says of a text that every bracket in it has its partner, and that what stands between two
  partners is nested itself.
* `openedBy` reads a text from the left and keeps the brackets that are still open. A nested text leaves
  the brackets open that were open before, and a text that does so without any before is nested
  (`nested_iff`).
* A text without brackets is nested (`nested_of_forall`).
-/

namespace LaneKernels.Text

/-- The bracket that closes another one. -/
def closer? : Char → Option Char
  | '(' => some ')'
  | '[' => some ']'
  | '\x7b' => some '\x7d'
  | _ => none

/-- Whether a character closes a bracket. -/
def isCloser (c : Char) : Bool :=
  c = ')' || c = ']' || c = '\x7d'

/-- Whether a character is a bracket. -/
def isBracket (c : Char) : Bool :=
  (closer? c).isSome || isCloser c

/-- A text in which every bracket has its partner, with a nested text between the two. -/
inductive Nested : List Char → Prop
  | nil : Nested []
  | plain {c : Char} {rest : List Char} : isBracket c = false → Nested rest → Nested (c :: rest)
  | enclose {opening closing : Char} {inner rest : List Char} : closer? opening = some closing →
      Nested inner → Nested rest → Nested (opening :: (inner ++ closing :: rest))

/-! ### Reading from the left -/

/-- The open brackets behind a character, innermost first and each by what closes it. No bracket closes
another one than the innermost. -/
def openedNext (opened : List Char) (c : Char) : Option (List Char) :=
  match closer? c with
  | some closing => some (closing :: opened)
  | none =>
    if isCloser c then
      if opened.head? = some c then some opened.tail else none
    else some opened

/-- The open brackets behind a text, given those before it. -/
def openedBy (opened text : List Char) : Option (List Char) :=
  text.foldlM openedNext opened

lemma openedBy_append (opened text more : List Char) :
    openedBy opened (text ++ more) = (openedBy opened text).bind (openedBy · more) :=
  List.foldlM_append

lemma openedBy_cons (opened text : List Char) (c : Char) :
    openedBy opened (c :: text) = (openedNext opened c).bind (openedBy · text) :=
  List.foldlM_cons

lemma isCloser_of_closer {c closing : Char} (h : closer? c = some closing) :
    isCloser closing = true := by
  unfold closer? at h
  split at h <;> cases h <;> rfl

lemma closer?_of_isCloser {c : Char} (h : isCloser c = true) : closer? c = none := by
  simp only [isCloser, Bool.or_eq_true, decide_eq_true_eq] at h
  obtain (rfl | rfl) | rfl := h <;> rfl

lemma openedNext_plain {c : Char} (h : isBracket c = false) (opened : List Char) :
    openedNext opened c = some opened := by
  rw [isBracket, Bool.or_eq_false_iff, Option.isSome_eq_false_iff, Option.isNone_iff_eq_none] at h
  rw [openedNext, h.1, h.2]
  rfl

lemma openedNext_opening {c closing : Char} (h : closer? c = some closing) (opened : List Char) :
    openedNext opened c = some (closing :: opened) := by
  rw [openedNext, h]

lemma openedNext_closing {c : Char} (h : isCloser c = true) (opened : List Char) :
    openedNext (c :: opened) c = some opened := by
  rw [openedNext, closer?_of_isCloser h, h]
  simp

/-- A nested text leaves the brackets open that were open before. -/
lemma Nested.openedBy {text : List Char} (h : Nested text) (opened : List Char) :
    openedBy opened text = some opened := by
  induction h generalizing opened with
  | nil => rfl
  | plain hc _ ih => rw [openedBy_cons, openedNext_plain hc, Option.bind_some, ih]
  | enclose hopening _ _ ihinner ihrest =>
      rw [openedBy_cons, openedNext_opening hopening, Option.bind_some, openedBy_append, ihinner,
        Option.bind_some, openedBy_cons, openedNext_closing (isCloser_of_closer hopening),
        Option.bind_some, ihrest]

lemma Nested.append {text more : List Char} (h : Nested text) (hmore : Nested more) :
    Nested (text ++ more) := by
  induction h with
  | nil => exact hmore
  | plain hc _ ih => exact .plain hc ih
  | enclose hopening hinner _ _ ihrest =>
      rw [List.cons_append, List.append_assoc, List.cons_append]
      exact .enclose hopening hinner ihrest

/-- A character that closes a bracket closes the innermost one. -/
lemma openedNext_eq_some_of_isCloser {c : Char} {opened left : List Char} (hc : isCloser c = true)
    (h : openedNext opened c = some left) : opened = c :: left := by
  rw [openedNext, closer?_of_isCloser hc, hc, if_pos rfl] at h
  cases opened with
  | nil => cases h
  | cons closing opened =>
      rw [List.head?_cons, List.tail_cons, Option.ite_none_right_eq_some] at h
      rw [Option.some.inj h.1, Option.some.inj h.2]

/-- A text that closes some brackets, innermost first, with nested texts between them. -/
def Unwinds : List Char → List Char → Prop
  | [], text => Nested text
  | closing :: opened, text =>
    ∃ inner rest, text = inner ++ closing :: rest ∧ Nested inner ∧ Unwinds opened rest

/-- A nested text may stand before. -/
lemma Unwinds.prepend {opened text front : List Char} (hfront : Nested front)
    (h : Unwinds opened text) : Unwinds opened (front ++ text) := by
  cases opened with
  | nil => exact hfront.append h
  | cons closing opened =>
      obtain ⟨inner, rest, rfl, hinner, hrest⟩ := h
      exact ⟨front ++ inner, rest, (List.append_assoc ..).symm, hfront.append hinner, hrest⟩

lemma unwinds_of_openedBy {opened text : List Char} (h : openedBy opened text = some []) :
    Unwinds opened text := by
  -- an opening bracket adds to what the rest unwinds, so the open brackets vary in the induction
  induction text generalizing opened with
  | nil =>
      cases h
      exact .nil
  | cons c text ih =>
      rw [openedBy_cons] at h
      cases hopening : closer? c with
      | some closing =>
          rw [openedNext_opening hopening, Option.bind_some] at h
          obtain ⟨inner, rest, rfl, hinner, hrest⟩ := ih h
          have hfront := Unwinds.prepend (.enclose hopening hinner .nil) hrest
          rwa [List.cons_append, List.append_assoc] at hfront
      | none =>
          cases hcloser : isCloser c with
          | false =>
              have hplain : isBracket c = false := by rw [isBracket, hopening, hcloser]; rfl
              rw [openedNext_plain hplain, Option.bind_some] at h
              exact Unwinds.prepend (.plain hplain .nil) (ih h)
          | true =>
              obtain ⟨left, hnext, hrest⟩ := Option.bind_eq_some_iff.mp h
              rw [openedNext_eq_some_of_isCloser hcloser hnext]
              exact ⟨[], text, rfl, .nil, ih hrest⟩

/-- Nested texts are those that leave nothing open, if nothing was. -/
lemma nested_iff {text : List Char} : Nested text ↔ openedBy [] text = some [] :=
  ⟨fun h => h.openedBy [], unwinds_of_openedBy⟩

instance (text : List Char) : Decidable (Nested text) :=
  decidable_of_iff _ nested_iff.symm

/-- Brackets of different kinds may stand inside of each other, but not cross. -/
example : Nested "f([a], [b])".toList ∧ ¬Nested "f([a)]".toList := by decide

/-! ### Texts without brackets -/

/-- A text without brackets is nested. -/
lemma nested_of_forall {text : List Char} (h : ∀ c ∈ text, isBracket c = false) : Nested text := by
  induction text with
  | nil => exact .nil
  | cons c text ih =>
      rw [List.forall_mem_cons] at h
      exact .plain h.1 (ih h.2)

/-- The characters of a line are characters of the text. -/
lemma mem_of_mem_lines {text line : List Char} (h : line ∈ lines text) {c : Char} (hc : c ∈ line) :
    c ∈ text := by
  fun_induction lines text generalizing line with
  | case1 => exact absurd h List.not_mem_nil
  | case2 rest ih =>
      rcases List.mem_cons.mp h with rfl | h
      · exact absurd hc List.not_mem_nil
      · exact List.mem_cons_of_mem _ (ih h hc)
  | case3 rest ih =>
      rcases List.mem_cons.mp h with rfl | h
      · exact absurd hc List.not_mem_nil
      · exact List.mem_cons_of_mem _ (List.mem_cons_of_mem _ (ih h hc))
  | case4 d rest _ _ _ _ =>
      rw [List.mem_singleton.mp h, List.mem_singleton] at hc
      exact List.mem_cons.mpr (.inl hc)
  | case5 d rest _ _ first more hlines ih =>
      rw [hlines] at ih
      rcases List.mem_cons.mp h with rfl | h
      · rcases List.mem_cons.mp hc with rfl | hc
        · exact List.mem_cons_self
        · exact List.mem_cons_of_mem _ (ih List.mem_cons_self hc)
      · exact List.mem_cons_of_mem _ (ih (List.mem_cons_of_mem _ h) hc)

end LaneKernels.Text
