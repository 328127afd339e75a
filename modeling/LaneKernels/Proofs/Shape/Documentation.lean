import Mathlib.Tactic
import LaneKernels.Proofs.Inventory.Mentions

/-!
Documentation that can be read back.

* `Text.ConsistsOf` says which lines a text consists of, and what may stand at the end of each. Every text
  consists of the lines that are read from it, and of no others (`consistsOf_iff`).
* `Buffer.physicalLines` are the lines of the text of a buffer. Lines without line feeds are added to them
  as they are written (`physicalLines_extend`).
* `IsDocumentation` is the form of a documentation line, and `prose?` reads the prose of one. A line is read
  as some prose if and only if it is the line that is written for it (`prose?_eq_some_iff`).
* `run_doc_readable` puts it together for every text and every buffer.
-/

namespace LaneKernels

namespace Text

/-! ### The lines of a text -/

/-- What ends a line. -/
inductive Terminator where
  | lineFeed
  /-- A carriage return and a line feed. -/
  | returnAndFeed
  deriving DecidableEq

/-- The characters that end a line. -/
def Terminator.chars : Terminator → List Char
  | lineFeed => ['\n']
  | returnAndFeed => ['\r', '\n']

/-- The text consists of some lines and of what ends them. -/
inductive ConsistsOf : List Char → List (List Char) → Prop where
  | nil : ConsistsOf [] []
  /-- What stands behind the last end is a line, unless nothing does. -/
  | unended {line : List Char} (hne : line ≠ []) (hline : '\n' ∉ line) : ConsistsOf line [line]
  /-- A line with its end. A carriage return before a line feed belongs to the end, and any other one to
  the line. -/
  | ended {line rest : List Char} {more : List (List Char)} (terminator : Terminator)
      (hline : '\n' ∉ line) (hlast : terminator = .lineFeed → line.getLast? ≠ some '\r')
      (hrest : ConsistsOf rest more) :
      ConsistsOf (line ++ (terminator.chars ++ rest)) (line :: more)

section

variable {c : Char} {text line tail rest first : List Char} {found more : List (List Char)}

lemma lines_terminator (terminator : Terminator) (rest : List Char) :
    lines (terminator.chars ++ rest) = [] :: lines rest := by
  cases terminator <;> rfl

/-- What stands before a text belongs to its first line, unless it has a line feed in it or a carriage
return meets a line feed at the joint. -/
lemma lines_append (hline : '\n' ∉ line)
    (hjoint : tail.head? = some '\n' → line.getLast? ≠ some '\r') (htail : lines tail = first :: more) :
    lines (line ++ tail) = (line ++ first) :: more := by
  induction line with
  | nil => exact htail
  | cons c rest ih =>
      rw [List.mem_cons, not_or] at hline
      have hrest : tail.head? = some '\n' → rest.getLast? ≠ some '\r' := by
        intro hfeed hreturn
        exact hjoint hfeed (by rw [List.getLast?_cons, hreturn]; rfl)
      rw [List.cons_append, lines, ih hline.2 hrest]
      · rfl
      · exact fun hc => hline.1 hc.symm
      · -- `c` is a carriage return and the text behind it starts with a line feed
        intro behind hc hfeed
        cases rest with
        | nil => exact hjoint (by rw [← List.nil_append tail, hfeed]; rfl) (by rw [hc]; rfl)
        | cons d rest =>
            rw [List.cons_append, List.cons.injEq] at hfeed
            exact hline.2 (hfeed.1 ▸ List.mem_cons_self)

/-- The lines that a text consists of are read from it. -/
lemma ConsistsOf.lines_eq (h : ConsistsOf text found) : lines text = found := by
  induction h with
  | nil => rfl
  | @unended line hne hline =>
      obtain ⟨front, c, rfl⟩ := (List.eq_nil_or_concat' line).resolve_left hne
      rw [List.mem_append, List.mem_singleton, not_or] at hline
      have hc : lines [c] = [[c]] := by
        rw [lines]
        · rfl
        · exact fun h => hline.2 h.symm
        · exact fun _ _ h => List.cons_ne_nil _ _ h.symm
      exact lines_append hline.1 (fun h => absurd (Option.some.inj h).symm hline.2) hc
  | @ended line rest more terminator hline hlast _ ih =>
      have hend : lines (terminator.chars ++ rest) = [] :: more := by rw [lines_terminator, ih]
      have hjoint : (terminator.chars ++ rest).head? = some '\n' → line.getLast? ≠ some '\r' := by
        cases terminator with
        | lineFeed => exact fun _ => hlast rfl
        | returnAndFeed => exact fun h => absurd (Option.some.inj h) (by decide)
      rw [lines_append hline hjoint hend, List.append_nil]

/-- What ends a line ends an empty one at the start of a text. -/
lemma ConsistsOf.blank (terminator : Terminator) (h : ConsistsOf rest found) :
    ConsistsOf (terminator.chars ++ rest) ([] :: found) :=
  @ended [] rest found terminator List.not_mem_nil (fun _ h => Option.some_ne_none _ h.symm) h

/-- A character before a text belongs to the first line. -/
lemma ConsistsOf.cons (hc : c ≠ '\n') (hreturn : c = '\r' → rest.head? ≠ some '\n')
    (h : ConsistsOf rest (first :: more)) : ConsistsOf (c :: rest) ((c :: first) :: more) := by
  have hmem : '\n' ∉ first → '\n' ∉ c :: first := fun hfirst hmem =>
    (List.mem_cons.mp hmem).elim (fun h => hc h.symm) hfirst
  cases h with
  | unended _ hline => exact .unended (List.cons_ne_nil _ _) (hmem hline)
  | ended terminator hline hlast hrest =>
      refine .ended terminator (hmem hline) (fun hfeed => ?_) hrest
      cases first with
      | nil =>
          subst hfeed
          exact fun h => hreturn (Option.some.inj h) rfl
      | cons d first => exact hlast hfeed

/-- A text consists of the lines that are read from it. -/
lemma consistsOf_lines (text : List Char) : ConsistsOf text (lines text) := by
  fun_induction lines text with
  | case1 => exact .nil
  | case2 rest ih => exact ih.blank .lineFeed
  | case3 rest ih => exact ih.blank .returnAndFeed
  | case4 c rest hc _ hnil ih =>
      rw [hnil] at ih
      cases ih
      exact .unended (List.cons_ne_nil _ _) fun h => hc (List.mem_singleton.mp h).symm
  | case5 c rest hc hreturn first more hlines ih =>
      rw [hlines] at ih
      refine ih.cons hc fun h hfeed => ?_
      obtain ⟨behind, hbehind⟩ := List.head?_eq_some_iff.mp hfeed
      exact hreturn behind h hbehind

/-- A text consists of the lines that are read from it, and of no others. -/
lemma consistsOf_iff : ConsistsOf text found ↔ lines text = found :=
  ⟨ConsistsOf.lines_eq, fun h => h ▸ consistsOf_lines text⟩

end

end Text

open Text (ConsistsOf)

namespace Layout

/-! ### The lines of a buffer -/

/-- The lines of the text of a buffer, each up to its line feed. A buffer to which nothing was written has
none, although its text is one line feed. -/
def Buffer.physicalLines (buffer : Buffer) : List String :=
  if buffer.lines.isEmpty then [] else (Region.textLines buffer.text).dropLast

lemma physicalLines_eq (buffer : Buffer) :
    buffer.physicalLines = buffer.writtenLines.flatMap Region.textLines := by
  rw [Buffer.physicalLines]
  split
  case isTrue hempty =>
    rw [Buffer.writtenLines, Array.isEmpty_iff.mp hempty]
    rfl
  case isFalse hne =>
    rw [textLines_text_eq_flatMap, List.dropLast_concat]
    simpa [Buffer.writtenLines] using hne

/-- Lines without line feeds are added to the text of a buffer as they are written. -/
lemma physicalLines_extend (buffer : Buffer) {lines : List Line} (h : ∀ line ∈ lines, OneLine line.content) :
    (buffer.extend lines).physicalLines = buffer.physicalLines ++ lines.map Line.written := by
  have hwritten : (buffer.extend lines).writtenLines = buffer.writtenLines ++ lines.map Line.written := by
    simp [Buffer.extend, Buffer.writtenLines]
  have hadded : (lines.map Line.written).flatMap Region.textLines = lines.map Line.written := by
    rw [List.flatMap_map, List.flatMap_congr fun line hline =>
      textLines_of_oneLine (Line.oneLine_written (h line hline)), ← List.map_eq_flatMap]
  rw [physicalLines_eq, physicalLines_eq, hwritten, List.flatMap_append, hadded]

/-! ### Documentation lines -/

/-- The form of a documentation line at a level: four blanks for each level and three slashes, and behind
them nothing, or a blank and something more. -/
def IsDocumentation (level : ℕ) (line : String) : Prop :=
  ∃ rest, line.toList = List.replicate (4 * level) ' ' ++ ['/', '/', '/'] ++ rest ∧
    (rest = [] ∨ ∃ prose ≠ [], rest = ' ' :: prose)

/-- The prose of a line at a level, if it is a documentation line. -/
def prose? (level : ℕ) (line : String) : Option (List Char) :=
  match Inventory.after? (List.replicate (4 * level) ' ' ++ ['/', '/', '/']) line.toList with
  | some [] => some []
  | some (' ' :: c :: rest) => some (c :: rest)
  | _ => none

/-- The documentation line for a line of prose, with its margin. -/
def documentationLine (level : ℕ) (prose : List Char) : String :=
  margin level ++ docLine prose

lemma toList_documentationLine (level : ℕ) (prose : List Char) :
    (documentationLine level prose).toList =
      List.replicate (4 * level) ' ' ++ ['/', '/', '/'] ++ if prose = [] then [] else ' ' :: prose := by
  cases prose with
  | nil => simp [documentationLine, margin, docLine]
  | cons c rest => simp [documentationLine, margin, docLine, toString]

lemma isDocumentation_documentationLine (level : ℕ) (prose : List Char) :
    IsDocumentation level (documentationLine level prose) := by
  refine ⟨_, toList_documentationLine level prose, ?_⟩
  by_cases h : prose = []
  · exact .inl (if_pos h)
  · exact .inr ⟨prose, h, if_neg h⟩

/-- A line is read as some prose if and only if it is the documentation line for it. -/
lemma prose?_eq_some_iff {level : ℕ} {line : String} {prose : List Char} :
    prose? level line = some prose ↔ line = documentationLine level prose := by
  constructor
  · intro h
    rw [← String.toList_inj, toList_documentationLine]
    rw [prose?] at h
    split at h
    case h_1 hafter =>
      rw [← Option.some.inj h, Inventory.eq_append_of_after? hafter, if_pos rfl]
    case h_2 c rest hafter =>
      rw [← Option.some.inj h, Inventory.eq_append_of_after? hafter, if_neg (List.cons_ne_nil c rest)]
    case h_3 => cases h
  · rintro rfl
    rw [prose?, toList_documentationLine, Inventory.after?_append]
    cases prose <;> rfl

lemma documentationLine_injective (level : ℕ) : Function.Injective (documentationLine level) := by
  intro prose other h
  have hread : prose? level (documentationLine level prose) = some prose := prose?_eq_some_iff.mpr rfl
  rw [prose?_eq_some_iff.mpr h] at hread
  exact (Option.some.inj hread).symm

lemma written_docLine (level : ℕ) (prose : List Char) :
    (Line.text level (docLine prose)).written = documentationLine level prose := by
  have hne : (docLine prose).isEmpty = false := by
    cases prose <;> simp [docLine, toString]
  rw [Line.written, hne]
  rfl

/-! ### Writing documentation -/

section

variable (text : String) (before : Buffer)

/-- Documentation never crashes. -/
lemma run_doc : (Step.doc text).run before =
    .ok () (before.extend ((docLines text).map (.text before.level))) :=
  gives_forM (docLines text) before.level before.lines

/-- Documentation adds one line for each line of the text. -/
lemma physicalLines_doc :
    (before.extend ((docLines text).map (.text before.level))).physicalLines =
      before.physicalLines ++ (Text.lines text.toList).map (documentationLine before.level) := by
  have honeLine : ∀ line ∈ (docLines text).map (Line.text before.level), OneLine line.content :=
    List.forall_mem_map.mpr fun _ => oneLine_docLines
  rw [physicalLines_extend before honeLine, docLines, List.map_map, List.map_map]
  exact congrArg _ (List.map_congr_left fun prose _ => written_docLine before.level prose)

/-- Two texts are written alike if and only if they have the same lines. -/
lemma run_doc_eq_iff (other : String) :
    (Step.doc other).run before = (Step.doc text).run before ↔
      Text.lines other.toList = Text.lines text.toList := by
  rw [run_doc, run_doc]
  constructor
  · intro h
    have hlines := congrArg Buffer.physicalLines (EStateM.Result.ok.inj h).2
    rw [physicalLines_doc, physicalLines_doc, List.append_cancel_left_eq] at hlines
    exact (documentationLine_injective before.level).list_map hlines
  · intro h
    rw [docLines, docLines, h]

end

/-- A text is written as documentation at every level and behind every buffer without a crash. The lines
that it adds to the text of the buffer are documentation lines, one for each of the lines that it consists
of, and these are what is read from them, in order. So it can be told from any text that consists of other
lines, and what ends the lines is all that is lost. -/
theorem run_doc_readable (text : String) (before : Buffer) : ∃ after added found,
    (Step.doc text).run before = .ok () after ∧ after.level = before.level ∧
      after.physicalLines = before.physicalLines ++ added ∧
      (∀ line ∈ added, IsDocumentation before.level line) ∧
      added.map (prose? before.level) = found.map some ∧
      (∀ lines, ConsistsOf text.toList lines ↔ lines = found) ∧
      ∀ other, (Step.doc other).run before = .ok () after ↔ ConsistsOf other.toList found := by
  refine ⟨_, (Text.lines text.toList).map (documentationLine before.level), Text.lines text.toList,
    run_doc text before, rfl, physicalLines_doc text before, ?_, ?_, ?_, ?_⟩
  · rw [List.forall_mem_map]
    exact fun prose _ => isDocumentation_documentationLine before.level prose
  · rw [List.map_map]
    exact List.map_congr_left fun prose _ => prose?_eq_some_iff.mpr rfl
  · exact fun lines => Text.consistsOf_iff.trans eq_comm
  · intro other
    rw [← run_doc, run_doc_eq_iff, Text.consistsOf_iff]

/-- Both kinds of ends are lost, a lone carriage return is kept, and there is no line behind the last
end. -/
example : docLines "a\r\n\nb\rc\n" = ["/// a", "///", "/// b\rc"] := by
  decide +kernel

end Layout

end LaneKernels
