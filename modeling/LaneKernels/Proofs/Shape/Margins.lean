import Mathlib.Tactic
import LaneKernels.Proofs.Regions.Bodies
import LaneKernels.Proofs.Shape.Brackets

/-!
Margins that follow the open braces.

* `Fits` says of a line what its margin has to be under the brackets that are open before it: four
  blanks for each open brace, and none for what the line closes itself. A marker stands where nothing is
  open.
* `WellShaped` says of a text that its brackets are nested and that each of its lines fits.
* `Spans` goes through lines and keeps the open brackets; a text whose lines span from nothing open to
  nothing open is well shaped (`wellShaped_text`).
* `Tidy` is the grammar of the steps that open and close as many braces as levels; their lines span from
  the braces of a level back to them, at whichever level they are written (`Tidy.spans`).
-/

namespace LaneKernels

open Layout (Line Step Buffer linesAt margin blockHead docLines)
open Text (Nested openedBy openedNext isBracket)
open Region (Bare apart)

/-! ### Lines and texts that are well shaped -/

/-- A line behind the blanks that it begins with. -/
def unindented (line : List Char) : List Char :=
  line.dropWhile (· = ' ')

/-- The blanks that a line begins with. -/
def indentation (line : List Char) : ℕ :=
  (line.takeWhile (· = ' ')).length

/-- Whether the margin of a line agrees with the brackets that are open before it. -/
structure Fits (opened : List Char) (line : String) : Prop where
  /-- A marker, whatever its margin, stands where no bracket is open. -/
  marker : Region.isMarkerLine (String.ofList (unindented line.toList)) = true → opened = []
  /-- There are four blanks for each open brace, but not for one that the line begins by closing. -/
  margin : line ≠ "" →
    indentation line.toList + (if (unindented line.toList).head? = some '\x7d' then 4 else 0) =
      4 * opened.count '\x7d'

/-- A text with nested brackets, each of whose lines fits the brackets that are open before it. -/
structure WellShaped (text : String) : Prop where
  nested : Nested text.toList
  fits : ∀ {before : List String} {line : String} {after : List String},
    Region.textLines text = before ++ line :: after →
      ∃ opened, openedBy [] (before.flatMap fun line => line.toList ++ ['\n']) = some opened ∧
        Fits opened line

/-! ### Going through lines -/

/-- The lines fit one after the other, from some open brackets on, and leave others open. -/
def Spans : List Char → List String → List Char → Prop
  | opened, [], left => opened = left
  | opened, line :: rest, left =>
    Fits opened line ∧ ∃ middle, openedBy opened line.toList = some middle ∧ Spans middle rest left

section

variable {opened middle left : List Char} {lines more : List String}

lemma Spans.cons {line : String} (hfits : Fits opened line)
    (hline : openedBy opened line.toList = some middle) (h : Spans middle lines left) :
    Spans opened (line :: lines) left :=
  ⟨hfits, middle, hline, h⟩

lemma Spans.append (h : Spans opened lines middle) (hmore : Spans middle more left) :
    Spans opened (lines ++ more) left := by
  induction lines generalizing opened with
  | nil =>
      cases h
      exact hmore
  | cons line rest ih =>
      obtain ⟨hfits, next, hline, hrest⟩ := h
      exact .cons hfits hline (ih hrest)

/-- A line feed is no bracket. -/
lemma openedBy_ended {line : List Char} (h : openedBy opened line = some middle) (rest : List Char) :
    openedBy opened (line ++ ['\n'] ++ rest) = openedBy middle rest := by
  rw [Text.openedBy_append, Text.openedBy_append, h]
  rfl

/-- What lines leave open, each of them ended by a line feed. -/
lemma Spans.openedBy_eq (h : Spans opened lines left) :
    openedBy opened (lines.flatMap fun line => line.toList ++ ['\n']) = some left := by
  induction lines generalizing opened with
  | nil => exact congrArg some h
  | cons line rest ih =>
      obtain ⟨-, next, hline, hrest⟩ := h
      rw [List.flatMap_cons, openedBy_ended hline, ih hrest]

/-- Each of the lines fits what those before it leave open. -/
lemma Spans.fits {before after : List String} {line : String}
    (h : Spans opened (before ++ line :: after) left) :
    ∃ middle, openedBy opened (before.flatMap fun line => line.toList ++ ['\n']) = some middle ∧
      Fits middle line := by
  induction before generalizing opened with
  | nil => exact ⟨opened, rfl, h.1⟩
  | cons first before ih =>
      obtain ⟨-, next, hfirst, hrest⟩ := h
      obtain ⟨middle, hmiddle, hfits⟩ := ih hrest
      refine ⟨middle, ?_, hfits⟩
      rw [List.flatMap_cons, openedBy_ended hfirst, hmiddle]

end

/-- An empty line fits everywhere. -/
lemma fits_empty (opened : List Char) : Fits opened "" :=
  ⟨fun h => absurd h (by decide), fun h => absurd rfl h⟩

/-- A text is well shaped if its lines close all that they open. -/
lemma wellShaped_text {buffer : Buffer} (hne : buffer.writtenLines ≠ [])
    (hlines : Region.textLines buffer.text = buffer.writtenLines ++ [""])
    (h : Spans [] buffer.writtenLines []) : WellShaped buffer.text where
  nested := by
    rw [Text.nested_iff, Buffer.text, Layout.toList_joined hne]
    exact h.openedBy_eq
  fits {before line after} heq := by
    have hall : Spans [] (before ++ line :: after) [] := by
      rw [← heq, hlines]
      exact h.append (.cons (fits_empty []) rfl rfl)
    exact hall.fits

/-! ### Written lines -/

/-- Some open braces, given by what closes them. -/
def braces (n : ℕ) : List Char :=
  List.replicate n '\x7d'

/-- Whether some characters are enough to tell that what begins with them begins neither with a blank
nor with a closing brace, and is no marker. -/
def isStart (chars : List Char) : Bool :=
  chars.head?.any (fun c => c ≠ ' ' && c ≠ '\x7d') &&
    apart chars ['/', '/', ' ', 'r'] && apart chars ['/', '/', ' ', 'e']

/-- A text that begins neither with a blank nor with a closing brace, and that is no marker. -/
def Starts (text : String) : Prop :=
  ∃ chars, isStart chars = true ∧ Heads chars text

namespace Starts

/-- A text that is given by its characters. -/
lemma ofChars (chars : List Char) (h : isStart chars = true) : Starts (String.ofList chars) :=
  ⟨chars, h, [], by rw [String.toList_ofList, List.append_nil]⟩

lemma append {text : String} (h : Starts text) (more : String) : Starts (text ++ more) := by
  obtain ⟨chars, hstart, hheads⟩ := h
  exact ⟨chars, hstart, hheads.append more⟩

lemma head?_ne {text : String} (h : Starts text) :
    text.toList ≠ [] ∧ text.toList.head? ≠ some ' ' ∧ text.toList.head? ≠ some '\x7d' := by
  obtain ⟨chars, hstart, rest, hrest⟩ := h
  simp only [isStart, Bool.and_eq_true] at hstart
  cases chars with
  | nil => exact absurd hstart.1.1 Bool.false_ne_true
  | cons c chars =>
      rw [hrest]
      simpa using hstart.1.1

lemma bare {text : String} (h : Starts text) : Bare text := by
  obtain ⟨chars, hstart, rest, hrest⟩ := h
  simp only [isStart, Bool.and_eq_true] at hstart
  have hnot : ∀ start more : List Char, apart chars start = true →
      ¬start ++ more <+: text.toList := by
    intro start more hapart hprefix
    rw [hrest] at hprefix
    exact Region.not_prefix_of_apart hapart ((List.prefix_append _ _).trans hprefix)
  rw [Bare, Region.isMarkerLine, Bool.or_eq_false_iff, String.startsWith_string_eq_false_iff,
    String.startsWith_string_eq_false_iff]
  exact ⟨hnot _ "egion:".toList hstart.1.2, hnot _ "ndregion:".toList hstart.2⟩

end Starts

/-- Blanks at the start of a line, in front of another character. -/
lemma indentation_blanks (n : ℕ) {rest : List Char} (h : rest.head? ≠ some ' ') :
    indentation (List.replicate n ' ' ++ rest) = n ∧
      unindented (List.replicate n ' ' ++ rest) = rest := by
  have hrest : rest.takeWhile (· = ' ') = [] ∧ rest.dropWhile (· = ' ') = rest := by
    cases rest with
    | nil => exact ⟨rfl, rfl⟩
    | cons c rest =>
        have hc : ¬decide (c = ' ') = true := by simpa using h
        exact ⟨List.takeWhile_cons_of_neg hc, List.dropWhile_cons_of_neg hc⟩
  rw [indentation, unindented, List.takeWhile_append_of_pos, List.dropWhile_append_of_pos, hrest.1,
    hrest.2, List.append_nil, List.length_replicate]
  · exact ⟨rfl, rfl⟩
  all_goals
    intro c hc
    rw [List.eq_of_mem_replicate hc]
    rfl

/-- A margin leaves the open brackets as they are. -/
lemma openedBy_blanks (opened : List Char) (n : ℕ) (rest : List Char) :
    openedBy opened (List.replicate n ' ' ++ rest) = openedBy opened rest := by
  have hblanks : Nested (List.replicate n ' ') := by
    induction n with
    | zero => exact .nil
    | succ n ih => exact .plain rfl ih
  rw [Text.openedBy_append, hblanks.openedBy, Option.bind_some]

lemma toList_written {content : String} (hne : content.toList ≠ []) (level : ℕ) :
    (Line.text level content).written.toList = List.replicate (4 * level) ' ' ++ content.toList := by
  have hempty : content.isEmpty = false := by
    rw [Bool.eq_false_iff]
    intro h
    exact hne (String.toList_eq_nil_iff.mpr (String.isEmpty_iff.mp h))
  rw [Line.written, hempty, if_neg Bool.false_ne_true, margin, String.toList_append,
    String.toList_ofList]

/-- A line that starts like a statement fits at the level of the braces around it. -/
lemma fits_written {content : String} (h : Starts content) (level : ℕ) :
    Fits (braces level) (Line.text level content).written := by
  obtain ⟨hne, hblank, hbrace⟩ := h.head?_ne
  obtain ⟨hindentation, hunindented⟩ := indentation_blanks (4 * level) hblank
  rw [← toList_written hne] at hindentation hunindented
  refine ⟨fun hmarker => ?_, fun _ => ?_⟩
  · rw [hunindented, String.ofList_toList, h.bare] at hmarker
    exact absurd hmarker Bool.false_ne_true
  · rw [hindentation, hunindented, if_neg hbrace, braces, List.count_replicate_self, Nat.add_zero]

/-- A line that closes a brace fits one level further out. -/
lemma fits_closing {content : String} {rest : List Char} (h : content.toList = '\x7d' :: rest)
    (level : ℕ) : Fits (braces (level + 1)) (Line.text level content).written := by
  have hblank : content.toList.head? ≠ some ' ' := by
    rw [h, List.head?_cons]
    decide
  obtain ⟨hindentation, hunindented⟩ := indentation_blanks (4 * level) hblank
  rw [← toList_written (h ▸ List.cons_ne_nil _ _)] at hindentation hunindented
  refine ⟨fun hmarker => ?_, fun _ => ?_⟩
  · rw [hunindented, String.ofList_toList] at hmarker
    rw [Bare.of_first (by decide) ⟨rest, h⟩] at hmarker
    exact absurd hmarker Bool.false_ne_true
  · rw [hindentation, hunindented, h, List.head?_cons, if_pos rfl, braces, List.count_replicate_self,
      Nat.mul_succ]

/-- A marker at the margin fits where nothing is open. -/
lemma fits_marker (m : Region.Marker) : Fits [] (Line.marker 0 m).written := by
  have hslash : ∃ rest, m.text.toList = '/' :: rest := by
    cases m with
    | opening name => exact (Heads.ofChars ['/'] _).append name
    | closing => exact Heads.ofChars ['/'] _
  obtain ⟨rest, hrest⟩ := hslash
  have hblank : ('/' :: rest).head? ≠ some ' ' := by simp
  obtain ⟨hindentation, hunindented⟩ := indentation_blanks 0 hblank
  rw [Inventory.written_marker, Region.written_margin]
  refine ⟨fun _ => rfl, fun _ => ?_⟩
  rw [List.replicate_zero, List.nil_append] at hindentation hunindented
  rw [hrest, hindentation, hunindented]
  rfl

/-! ### Steps with a brace for each level -/

/-- A statement of one line. -/
structure IsStatement (text : String) : Prop where
  starts : Starts text
  nested : Nested text.toList

/-- A line that closes a brace and opens none. -/
def Closes (text : String) : Prop :=
  ∃ rest, text.toList = '\x7d' :: rest ∧ Nested rest

/-- Steps that go one level deeper where they open a brace, and back where they close it. -/
inductive Tidy : List Step → Prop
  | nil : Tidy []
  | line {text : String} {rest : List Step} : IsStatement text → Tidy rest → Tidy (.line text :: rest)
  | blank {rest : List Step} : Tidy rest → Tidy (.blank :: rest)
  | doc {text : String} {rest : List Step} : (∀ c ∈ text.toList, isBracket c = false) → Tidy rest →
      Tidy (.doc text :: rest)
  | block {head tail : String} {body rest : List Step} : IsStatement head → Closes tail → Tidy body →
      Tidy rest → Tidy (.block head tail body :: rest)
  /-- The line between the branches closes one brace and opens another one. -/
  | branches {head : String} {first second rest : List Step} : IsStatement head → Tidy first →
      Tidy second → Tidy rest →
      Tidy (.block head "\x7d else \x7b" first :: .indent second :: .line "\x7d" :: rest)

lemma Tidy.append {steps more : List Step} (h : Tidy steps) (hmore : Tidy more) :
    Tidy (steps ++ more) := by
  induction h with
  | nil => exact hmore
  | line htext _ ih => exact .line htext ih
  | blank _ ih => exact .blank ih
  | doc htext _ ih => exact .doc htext ih
  | block hhead htail hbody _ _ ih => exact .block hhead htail hbody ih
  | branches hhead hfirst hsecond _ _ _ ih => exact .branches hhead hfirst hsecond ih

lemma Tidy.flatMap {α : Type} {steps : α → List Step} {xs : List α} (h : ∀ x ∈ xs, Tidy (steps x)) :
    Tidy (xs.flatMap steps) := by
  induction xs with
  | nil => exact .nil
  | cons x xs ih =>
      rw [List.forall_mem_cons] at h
      exact h.1.append (ih h.2)

/-- The written lines of steps at a level. -/
def writtenAt (steps : List Step) (level : ℕ) : List String :=
  (linesAt steps level).map Line.written

section

variable {text : String} {lines : List String} {opened : List Char}

lemma Spans.single {left : List Char} {line : String} (hfits : Fits opened line)
    (hline : openedBy opened line.toList = some left) : Spans opened [line] left :=
  .cons hfits hline rfl

/-- Lines each of which leaves the open brackets as they are do so together. -/
lemma spans_of_forall (h : ∀ line ∈ lines, Spans opened [line] opened) : Spans opened lines opened := by
  induction lines with
  | nil => rfl
  | cons line rest ih =>
      rw [List.forall_mem_cons] at h
      exact h.1.append (ih h.2)

lemma spans_empty (opened : List Char) : Spans opened [""] opened :=
  .single (fits_empty opened) rfl

lemma spans_marker {m : Region.Marker} (h : Nested m.text.toList) :
    Spans [] [(Line.marker 0 m).written] [] := by
  refine .single (fits_marker m) ?_
  rw [Inventory.written_marker, Region.written_margin, h.openedBy]

lemma spans_statement (h : IsStatement text) (level : ℕ) :
    Spans (braces level) [(Line.text level text).written] (braces level) := by
  refine .single (fits_written h.starts level) ?_
  rw [toList_written h.starts.head?_ne.1, openedBy_blanks]
  exact h.nested.openedBy _

lemma spans_head (h : IsStatement text) (level : ℕ) :
    Spans (braces level) [(Line.text level (blockHead text)).written] (braces (level + 1)) := by
  have hstarts : Starts (blockHead text) := h.starts.append _
  refine .single (fits_written hstarts level) ?_
  rw [toList_written hstarts.head?_ne.1, openedBy_blanks,
    show blockHead text = text ++ " \x7b" from rfl, String.toList_append, Text.openedBy_append,
    h.nested.openedBy]
  rfl

lemma spans_tail (h : Closes text) (level : ℕ) :
    Spans (braces (level + 1)) [(Line.text level text).written] (braces level) := by
  obtain ⟨rest, hrest, hnested⟩ := h
  refine .single (fits_closing hrest level) ?_
  rw [toList_written (hrest ▸ List.cons_ne_nil _ _), openedBy_blanks, hrest]
  exact hnested.openedBy (braces level)

/-- Between two branches a brace is closed and another one opened. -/
lemma spans_between (level : ℕ) :
    Spans (braces (level + 1)) [(Line.text level "\x7d else \x7b").written] (braces (level + 1)) := by
  have hchars : "\x7d else \x7b".toList = ['\x7d', ' ', 'e', 'l', 's', 'e', ' ', '\x7b'] :=
    String.toList_ofList
  refine .single (fits_closing hchars level) ?_
  rw [toList_written (hchars ▸ List.cons_ne_nil _ _), openedBy_blanks, hchars]
  rfl

/-- Documentation without brackets is made of statements. -/
lemma isStatement_docLines (h : ∀ c ∈ text.toList, isBracket c = false) {line : String}
    (hline : line ∈ docLines text) : IsStatement line := by
  refine ⟨⟨_, by decide, Inventory.heads_docLines hline⟩, ?_⟩
  obtain ⟨prose, hprose, rfl⟩ := List.mem_map.mp hline
  have hnested : Nested (String.ofList prose).toList := by
    rw [String.toList_ofList]
    exact Text.nested_of_forall fun c hc => h c (Text.mem_of_mem_lines hprose hc)
  rw [Layout.docLine]
  split
  · decide
  · rw [String.toList_append]
    exact .append (by decide) hnested

end

/-- Tidy steps span from the braces of the level at which they are written back to them. -/
lemma Tidy.spans {steps : List Step} (h : Tidy steps) (level : ℕ) :
    Spans (braces level) (writtenAt steps level) (braces level) := by
  induction h generalizing level with
  | nil => rfl
  | line htext _ ih => exact (spans_statement htext level).append (ih level)
  | blank _ ih => exact (spans_empty _).append (ih level)
  | @doc text rest htext _ ih =>
      rw [writtenAt, linesAt, List.map_append]
      refine .append (spans_of_forall ?_) (ih level)
      rw [Step.linesAt, List.map_map, List.forall_mem_map]
      exact fun line hline => spans_statement (isStatement_docLines htext hline) level
  | @block head tail body rest hhead htail _ _ ihbody ih =>
      have htails := (spans_tail htail level).append (ih level)
      have hall := (spans_head hhead level).append ((ihbody (level + 1)).append htails)
      simp only [writtenAt, linesAt, Step.linesAt, List.map_append, List.map_cons, List.append_assoc,
        List.cons_append, List.nil_append] at hall ⊢
      exact hall
  | @branches head first second rest hhead _ _ _ ihfirst ihsecond ih =>
      -- the second branch is one level deeper because the line before it has opened a brace again
      have hclosing : Closes "\x7d" := ⟨[], String.toList_ofList, .nil⟩
      have htails := (spans_tail hclosing level).append (ih level)
      have hseconds := (spans_between level).append ((ihsecond (level + 1)).append htails)
      have hall := (spans_head hhead level).append ((ihfirst (level + 1)).append hseconds)
      simp only [writtenAt, linesAt, Step.linesAt, List.map_append, List.map_cons, List.append_assoc,
        List.cons_append, List.nil_append] at hall ⊢
      exact hall

/-! ### Statements piece by piece -/

/-- A text that starts like a statement, and a word with the same open brackets in it. -/
structure Phrase (text : String) (word : List Char) : Prop where
  starts : Starts text
  openedBy_eq : ∀ opened, openedBy opened text.toList = openedBy opened word

namespace Phrase

/-- A text that is given by its characters. -/
lemma ofChars (chars : List Char) (h : isStart chars = true) : Phrase (String.ofList chars) chars :=
  ⟨.ofChars chars h, fun opened => by rw [String.toList_ofList]⟩

section

variable {text more : String} {word chars : List Char}

/-- A nested text behind leaves open what was open. -/
lemma append (h : Phrase text word) (hmore : Nested more.toList) : Phrase (text ++ more) word where
  starts := h.starts.append more
  openedBy_eq opened := by
    rw [String.toList_append, Text.openedBy_append, h.openedBy_eq]
    cases openedBy opened word with
    | none => rfl
    | some left => exact hmore.openedBy left

/-- Characters behind are characters of the word. -/
lemma extend (h : Phrase text word) (chars : List Char) :
    Phrase (text ++ String.ofList chars) (word ++ chars) where
  starts := h.starts.append _
  openedBy_eq opened := by
    rw [String.toList_append, String.toList_ofList, Text.openedBy_append, Text.openedBy_append,
      h.openedBy_eq]

/-- A nested text between characters. -/
lemma fill (h : Phrase text word) (hmore : Nested more.toList) :
    Phrase (text ++ more ++ String.ofList chars) (word ++ chars) :=
  (h.append hmore).extend chars

/-- A text whose word is nested is a statement. -/
lemma statement (h : Phrase text word) (hword : openedBy [] word = some []) : IsStatement text :=
  ⟨h.starts, Text.nested_iff.mpr (h.openedBy_eq [] ▸ hword)⟩

end

end Phrase

/-- A statement that is given by its characters. -/
lemma IsStatement.ofChars (chars : List Char) (hstart : isStart chars = true)
    (hnested : openedBy [] chars = some []) : IsStatement (String.ofList chars) :=
  (Phrase.ofChars chars hstart).statement hnested

end LaneKernels
