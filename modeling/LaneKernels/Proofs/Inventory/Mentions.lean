import Mathlib.Tactic
import LaneKernels.Proofs.Inventory.Texts

/-!
The functions that the trait text and the array text name by a path.

* `mentions` lists the names that stand behind a path in a text, wherever the path occurs in a line.
* A `Clear` text has no `e` before a colon, and none at its end. Every path to a function has one, so a
  line of clear parts mentions nothing (`mentionsIn_of_clear`).
* `mentions_kernels_traits`, `mentions_arrays_traits` and `mentions_kernels_arrays` list what the two
  texts mention: a kernel for every cell, and in the trait text a function for arrays.
  `mentions_arrays_arrays` says that the array text names no function of its own.
-/

namespace LaneKernels

open Layout (Line linesAt blockHead)
open Inventory Source

namespace Inventory

/-! ### Mentions -/

/-- The names that stand behind a path in a line. -/
def mentionsIn (path : List Char) : List Char → List String
  | [] => []
  | c :: rest => ((after? path (c :: rest)).map nameAt).toList ++ mentionsIn path rest

/-- The names that stand behind a path in a text. -/
def mentions (path text : String) : List String :=
  (Region.textLines text).flatMap fun line => mentionsIn path.toList line.toList

lemma after?_append (start text : List Char) : after? start (start ++ text) = some text := by
  induction start with
  | nil => rfl
  | cons c start ih => rw [List.cons_append, after?, if_pos rfl, ih]

lemma eq_append_of_after? {start text rest : List Char} (h : after? start text = some rest) :
    text = start ++ rest := by
  fun_induction after? start text with
  | case1 text =>
      rw [Option.some.inj h]
      rfl
  | case2 c start => cases h
  | case3 c start text ih => rw [ih h, List.cons_append]
  | case4 c start d text hne => cases h

end Inventory

/-! ### Clear texts -/

/-- Whether no `e` stands before a colon or at the end. -/
def isClear : List Char → Bool
  | [] => true
  | [c] => c ≠ 'e'
  | c :: d :: rest => !(c = 'e' && d = ':') && isClear (d :: rest)

/-- A text in which no `e` stands before a colon or at the end. -/
def Clear (text : String) : Prop :=
  isClear text.toList = true

lemma isClear_tail {c : Char} {rest : List Char} (h : isClear (c :: rest) = true) :
    isClear rest = true := by
  cases rest with
  | nil => rfl
  | cons d rest =>
      rw [isClear, Bool.and_eq_true] at h
      exact h.2

lemma isClear_append {left right : List Char} (hleft : isClear left = true)
    (hright : isClear right = true) :
    isClear (left ++ right) = true := by
  fun_induction isClear left with
  | case1 => exact hright
  | case2 c =>
      cases right with
      | nil => exact hleft
      | cons d rest =>
          have hc : c ≠ 'e' := of_decide_eq_true hleft
          simp only [List.singleton_append, isClear, hc, decide_false, Bool.false_and, Bool.not_false,
            Bool.true_and]
          exact hright
  | case3 c d rest ih =>
      rw [Bool.and_eq_true] at hleft
      rw [List.cons_append, List.cons_append, isClear, Bool.and_eq_true]
      exact ⟨hleft.1, ih hleft.2⟩

namespace Clear

lemma append {left right : String} (hleft : Clear left) (hright : Clear right) :
    Clear (left ++ right) := by
  rw [Clear, String.toList_append]
  exact isClear_append hleft hright

/-- A clear text that is given by its characters. -/
lemma ofChars (chars : List Char) (h : isClear chars = true) : Clear (String.ofList chars) := by
  rw [Clear, String.toList_ofList]
  exact h

/-- A clear text between two texts that are given by their characters. -/
lemma between {text : String} {left right : List Char} (h : Clear text) (hleft : isClear left = true)
    (hright : isClear right = true) : Clear (String.ofList left ++ text ++ String.ofList right) :=
  ((ofChars left hleft).append h).append (ofChars right hright)

end Clear

namespace Inventory

/-! ### Lines without mentions -/

/-- The path of a module in the library that the texts belong to. -/
def cratePath (c : Char) (more : List Char) : List Char :=
  ['c', 'r', 'a', 't', 'e', ':', ':'] ++ c :: more

section

variable {c d : Char} {more before rest : List Char}

/-- A clear text has no room for a path, which has an `e` before a colon. -/
lemma mentionsIn_of_isClear {text : List Char} (h : isClear text = true) :
    mentionsIn (cratePath c more) text = [] := by
  have hpath : ∀ rest, isClear (cratePath c more ++ rest) = false := fun _ => rfl
  induction text with
  | nil => rfl
  | cons first text ih =>
      have hnone : after? (cratePath c more) (first :: text) = none := by
        cases hafter : after? (cratePath c more) (first :: text) with
        | none => rfl
        | some name =>
            rw [eq_append_of_after? hafter, hpath] at h
            cases h
      rw [mentionsIn, hnone, ih (isClear_tail h)]
      rfl

lemma mentionsIn_of_clear {text : String} (h : Clear text) :
    mentionsIn (cratePath c more) text.toList = [] :=
  mentionsIn_of_isClear h

/-- What stands before the first character of a path is passed over. -/
lemma mentionsIn_skip (h : 'c' ∉ before) (rest : List Char) :
    mentionsIn (cratePath c more) (before ++ rest) = mentionsIn (cratePath c more) rest := by
  induction before with
  | nil => rfl
  | cons first before ih =>
      rw [List.mem_cons, not_or] at h
      have hnone : after? (cratePath c more) (first :: (before ++ rest)) = none := if_neg h.1
      rw [List.cons_append, mentionsIn, hnone, ih h.2]
      rfl

/-- No other path begins inside of the first part of a path. -/
lemma mentionsIn_cratePath (d : Char) (rest : List Char) :
    mentionsIn (cratePath c more) (cratePath d rest) =
      ((after? (cratePath c more) (cratePath d rest)).map nameAt).toList ++
        mentionsIn (cratePath c more) (d :: rest) := by
  have hskip : mentionsIn (cratePath c more) (['r', 'a', 't', 'e', ':', ':'] ++ d :: rest) =
      mentionsIn (cratePath c more) (d :: rest) := mentionsIn_skip (by decide) _
  rw [← hskip]
  rfl

/-- The path of another module mentions nothing. -/
lemma mentionsIn_other (hbefore : 'c' ∉ before) (hne : c ≠ d) (h : isClear (d :: rest) = true) :
    mentionsIn (cratePath c more) (before ++ cratePath d rest) = [] := by
  have hnone : after? (cratePath c more) (cratePath d rest) = none := if_neg hne
  rw [mentionsIn_skip hbefore, mentionsIn_cratePath, hnone, mentionsIn_of_isClear h]
  rfl

/-- A call by the path mentions the function that is called. -/
lemma mentionsIn_call {name : String} (hbefore : 'c' ∉ before) (hmore : 'c' ∉ c :: more)
    (hname : IsName name) (h : isClear (name.toList ++ '(' :: rest) = true) :
    mentionsIn (cratePath c more) (before ++ (cratePath c more ++ (name.toList ++ '(' :: rest))) =
      [name] := by
  have hafter : after? (cratePath c more) (cratePath c (more ++ (name.toList ++ '(' :: rest))) =
      some (name.toList ++ '(' :: rest) := after?_append (cratePath c more) _
  rw [mentionsIn_skip hbefore]
  calc mentionsIn (cratePath c more) (cratePath c more ++ (name.toList ++ '(' :: rest))
      = mentionsIn (cratePath c more) (cratePath c (more ++ (name.toList ++ '(' :: rest))) := rfl
    _ = [name] ++ mentionsIn (cratePath c more) (c :: more ++ (name.toList ++ '(' :: rest)) := by
        rw [mentionsIn_cratePath, hafter, Option.map_some, nameAt_append hname (by decide)]
        rfl
    _ = [name] := by rw [mentionsIn_skip hmore, mentionsIn_of_isClear h, List.append_nil]

end

end Inventory

/-! ### Names and documentation -/

lemma ArithOp.clear_name (op : ArithOp) : Clear op.name := by
  cases op <;> exact .ofChars _ rfl

lemma ArithOp.clear_traitName (op : ArithOp) : Clear op.traitName := by
  cases op <;> exact .ofChars _ rfl

lemma ArithOp.clear_macroName (op : ArithOp) : Clear op.macroName := by
  cases op <;> exact .ofChars _ rfl

lemma ArithOp.clear_symbol (op : ArithOp) : Clear op.symbol := by
  cases op <;> exact .ofChars _ rfl

lemma ElementType.clear_shortName (type : ElementType) : Clear type.shortName := by
  cases type <;> exact .ofChars _ rfl

lemma clear_kernelName (op : ArithOp) (type : ElementType) : Clear (kernelName op type) :=
  (op.clear_name.append (.ofChars _ rfl)).append type.clear_shortName

lemma clear_arrayName (op : ArithOp) (type : ElementType) : Clear (arrayName op type) :=
  (clear_kernelName op type).append (.ofChars _ rfl)

/-- Documentation is clear if its lines are. -/
lemma clear_docLines {chars : List Char} (h : ∀ prose ∈ Text.lines chars, isClear prose = true) :
    ∀ line ∈ Layout.docLines (String.ofList chars), Clear line := by
  rw [Layout.docLines, String.toList_ofList, List.forall_mem_map]
  intro prose hprose
  rw [Layout.docLine]
  split
  · exact .ofChars _ rfl
  · exact .append (.ofChars _ rfl) (.ofChars _ (h prose hprose))

namespace Inventory

/-! ### What lines mention -/

/-- The names that stand behind a path in some lines. -/
def mentionsOf (path : List Char) (lines : List Line) : List String :=
  lines.flatMap fun line => mentionsIn path line.content.toList

section

variable {c : Char} {more : List Char} {lines : List Line}

lemma mentionsOf_append (path : List Char) (lines others : List Line) :
    mentionsOf path (lines ++ others) = mentionsOf path lines ++ mentionsOf path others :=
  List.flatMap_append

lemma mentionsOf_flatMap {α : Type} (path : List Char) (lines : α → List Line) (xs : List α) :
    mentionsOf path (xs.flatMap lines) = xs.flatMap fun x => mentionsOf path (lines x) :=
  List.flatMap_assoc

lemma mentionsOf_cons (path : List Char) (line : Line) (lines : List Line) :
    mentionsOf path (line :: lines) =
      mentionsIn path line.content.toList ++ mentionsOf path lines := rfl

/-- Clear lines mention nothing. -/
lemma mentionsOf_of_clear (h : ∀ line ∈ lines, Clear line.content) :
    mentionsOf (cratePath c more) lines = [] :=
  List.flatMap_eq_nil_iff.mpr fun line hline => mentionsIn_of_clear (h line hline)

/-- The margin of a line mentions nothing. -/
lemma mentionsIn_written (line : Line) :
    mentionsIn (cratePath c more) line.written.toList =
      mentionsIn (cratePath c more) line.content.toList := by
  have hmargin : ∀ level, 'c' ∉ (Layout.margin level).toList := fun level hmem => by
    rw [Layout.margin, String.toList_ofList] at hmem
    exact absurd (List.eq_of_mem_replicate hmem) (by decide)
  cases line with
  | text level content =>
      rw [Line.written, Line.content]
      split
      · rfl
      · rw [String.toList_append, mentionsIn_skip (hmargin level)]
  | marker level marker =>
      rw [Line.written, Line.content, String.toList_append, mentionsIn_skip (hmargin level)]

/-- What a text mentions is what its lines mention. -/
lemma mentions_libraryTexts {chapters : List Chapter} (artifact : Artifact) {path : String}
    (hpath : path.toList = cratePath c more)
    (hlines : ∀ routine ∈ plannedRoutines chapters, routine.OneLine) :
    mentions path ((libraryTexts chapters).get artifact) =
      mentionsOf (cratePath c more) (libraryLines chapters artifact) := by
  rw [mentions, textLines_libraryTexts hlines, List.flatMap_append, List.flatMap_map, hpath]
  simp only [mentionsIn_written]
  exact List.append_nil _

/-- The markers of a region mention nothing. -/
lemma mentionsOf_regionLines {name : String} (hname : Clear name) (body : List Line) :
    mentionsOf (cratePath c more) (regionLines name body) = mentionsOf (cratePath c more) body := by
  have hopening : Clear (Line.marker 0 (.opening name)).content := .append (.ofChars _ rfl) hname
  have hclosing : ∀ line ∈ [Line.marker 0 .closing, .text 0 ""], Clear line.content := by
    simp only [List.forall_mem_cons, Line.content]
    exact ⟨.ofChars _ rfl, .ofChars [] rfl, fun _ hline => absurd hline List.not_mem_nil⟩
  rw [regionLines, mentionsOf_cons, mentionsOf_append, mentionsIn_of_clear hopening,
    mentionsOf_of_clear hclosing, List.nil_append, List.append_nil]

/-- The header mentions nothing. -/
lemma mentionsOf_header (artifact : Artifact) :
    mentionsOf (cratePath c more) ((Draft.Step.header about).linesOf artifact) = [] := by
  have habout : Clear (about.get artifact) := by
    cases artifact <;> exact .ofChars _ rfl
  refine mentionsOf_of_clear ?_
  simp only [Draft.Step.linesOf, List.forall_mem_cons, Line.content]
  refine ⟨.ofChars _ rfl, .append (.ofChars _ rfl) habout, .ofChars [] rfl, ?_⟩
  exact fun _ hline => absurd hline List.not_mem_nil

/-! ### What steps mention -/

section

variable {level : ℕ} {rest : List Layout.Step}

lemma mentionsOf_line (content : String) :
    mentionsOf (cratePath c more) (linesAt (.line content :: rest) level) =
      mentionsIn (cratePath c more) content.toList ++
        mentionsOf (cratePath c more) (linesAt rest level) := by
  rw [linesAt, Layout.Step.linesAt, List.singleton_append, mentionsOf_cons, Line.content]

lemma mentionsOf_clearLine {content : String} (h : Clear content) :
    mentionsOf (cratePath c more) (linesAt (.line content :: rest) level) =
      mentionsOf (cratePath c more) (linesAt rest level) := by
  rw [mentionsOf_line, mentionsIn_of_clear h, List.nil_append]

lemma mentionsOf_blank :
    mentionsOf (cratePath c more) (linesAt (.blank :: rest) level) =
      mentionsOf (cratePath c more) (linesAt rest level) :=
  mentionsOf_clearLine (.ofChars [] rfl)

lemma mentionsOf_doc {text : String} (h : ∀ line ∈ Layout.docLines text, Clear line) :
    mentionsOf (cratePath c more) (linesAt (.doc text :: rest) level) =
      mentionsOf (cratePath c more) (linesAt rest level) := by
  have hlines : ∀ line ∈ (Layout.docLines text).map (Line.text level), Clear line.content := by
    rw [List.forall_mem_map]
    exact h
  rw [linesAt, Layout.Step.linesAt, mentionsOf_append, mentionsOf_of_clear hlines, List.nil_append]

/-- A block mentions what its body mentions. -/
lemma mentionsOf_block {head tail : String} {body : List Layout.Step} (hhead : Clear head)
    (htail : Clear tail) :
    mentionsOf (cratePath c more) (linesAt (.block head tail body :: rest) level) =
      mentionsOf (cratePath c more) (linesAt body (level + 1)) ++
        mentionsOf (cratePath c more) (linesAt rest level) := by
  have hopening : Clear (Line.text level (blockHead head)).content := hhead.append (.ofChars _ rfl)
  have hclosing : ∀ line ∈ [Line.text level tail], Clear line.content :=
    List.forall_mem_singleton.mpr htail
  rw [linesAt, Layout.Step.linesAt, mentionsOf_append, mentionsOf_cons, mentionsOf_append,
    mentionsIn_of_clear hopening, mentionsOf_of_clear hclosing, List.nil_append, List.append_nil]

end

set_option maxRecDepth 2000 in
/-- A trait mentions no function by its path. -/
lemma mentionsOf_traitSteps (op : ArithOp) :
    mentionsOf (cratePath c more) (linesAt (traitSteps op) 0) = [] := by
  rw [traitSteps, mentionsOf_clearLine, mentionsOf_clearLine, mentionsOf_clearLine, mentionsOf_block,
    mentionsOf_blank, mentionsOf_doc, mentionsOf_clearLine, mentionsOf_blank, mentionsOf_doc,
    mentionsOf_block, mentionsOf_blank, mentionsOf_doc, mentionsOf_clearLine, mentionsOf_clearLine,
    mentionsOf_clearLine, mentionsOf_clearLine, mentionsOf_clearLine]
  · rfl
  -- the lines that are left, from the last one on
  · exact op.clear_name.between rfl rfl
  · exact op.clear_name.between rfl rfl
  · exact .ofChars _ rfl
  · exact op.clear_name.between rfl rfl
  · exact op.clear_name.between rfl rfl
  · exact clear_docLines (by decide +kernel)
  · exact op.clear_name.between rfl rfl
  · exact .ofChars _ rfl
  · exact clear_docLines (by decide +kernel)
  · exact op.clear_name.between rfl rfl
  · exact clear_docLines (by decide +kernel)
  · exact op.clear_traitName.between rfl rfl
  · exact .ofChars _ rfl
  · exact .ofChars _ rfl
  · exact .ofChars _ rfl
  · exact ((op.clear_name.between rfl rfl).append op.clear_symbol).append (.ofChars _ rfl)

/-- The macro of an operation reaches its trait by a path, which is no path to a kernel. -/
lemma mentionsOf_macroSteps (hne : c ≠ 'S') (op : ArithOp) :
    mentionsOf (cratePath c more) (linesAt (macroSteps op) 0) = [] := by
  have hcall : mentionsIn (cratePath c more)
      s!"$crate::{op.traitName}::{op.name}_array(&$a, &$b, &mut $c)".toList = [] := by
    have hclear : Clear (op.traitName ++ ("::" ++ op.name ++ "_array(&$a, &$b, &mut $c)")) :=
      op.clear_traitName.append (op.clear_name.between rfl rfl)
    have htrait : ∃ rest, op.traitName.toList = 'S' :: rest := by
      cases op <;> exact ⟨_, String.toList_ofList⟩
    obtain ⟨rest, hrest⟩ := htrait
    rw [Clear, String.toList_append, hrest, List.cons_append] at hclear
    have htext : s!"$crate::{op.traitName}::{op.name}_array(&$a, &$b, &mut $c)".toList =
        ['$'] ++ cratePath 'S' (rest ++ ("::" ++ op.name ++ "_array(&$a, &$b, &mut $c)").toList) := by
      simp only [toString, String.toList_append, hrest, cratePath, List.append_assoc, List.cons_append,
        List.nil_append]
      rfl
    rw [htext]
    exact mentionsIn_other (by decide) hne hclear
  rw [macroSteps, mentionsOf_clearLine, mentionsOf_clearLine, mentionsOf_block, mentionsOf_block,
    mentionsOf_line, hcall, mentionsOf_blank]
  · rfl
  · exact .ofChars _ rfl
  · exact .ofChars _ rfl
  · exact .append (.ofChars _ rfl) op.clear_macroName
  · exact .ofChars _ rfl
  · exact .ofChars _ rfl
  · exact ((op.clear_macroName.between rfl rfl).append op.clear_name).append (.ofChars _ rfl)

/-- An implementation mentions what its two calls mention. -/
lemma mentionsOf_implSteps (op : ArithOp) (type : ElementType) :
    mentionsOf (cratePath c more) (linesAt (implSteps op type) 0) =
      mentionsIn (cratePath c more) s!"crate::kernels::{kernelName op type}(a, b, c, len)".toList ++
        mentionsIn (cratePath c more) s!"crate::arrays::{arrayName op type}(a, b, c)".toList := by
  unfold implSteps
  rw [mentionsOf_block, mentionsOf_block, mentionsOf_line, mentionsOf_blank, mentionsOf_block,
    mentionsOf_line]
  · simp only [linesAt, mentionsOf, List.flatMap_nil, List.append_nil]
  · exact ((((((op.clear_name.between rfl rfl).append type.clear_shortName).append
      (.ofChars _ rfl)).append type.clear_shortName).append (.ofChars _ rfl)).append
      type.clear_shortName).append (.ofChars _ rfl)
  · exact .ofChars _ rfl
  · exact ((((((op.clear_name.between rfl rfl).append type.clear_shortName).append
      (.ofChars _ rfl)).append type.clear_shortName).append (.ofChars _ rfl)).append
      type.clear_shortName).append (.ofChars _ rfl)
  · exact .ofChars _ rfl
  · exact (op.clear_traitName.between rfl rfl).append type.clear_shortName
  · exact .ofChars _ rfl

/-- A function for arrays mentions what its call mentions. -/
lemma mentionsOf_arraySteps (op : ArithOp) (type : ElementType) :
    mentionsOf (cratePath c more) (linesAt (arraySteps op type) 0) = mentionsIn (cratePath c more)
      s!"unsafe \x7b crate::kernels::{kernelName op type}(a.as_ptr(), b.as_ptr(), c.as_mut_ptr(), N) \x7d".toList := by
  unfold arraySteps
  rw [mentionsOf_clearLine, mentionsOf_block, mentionsOf_clearLine, mentionsOf_line]
  · simp only [linesAt, mentionsOf, List.flatMap_nil, List.append_nil]
  · exact .ofChars _ rfl
  · exact (((((((clear_arrayName op type).between rfl rfl).append type.clear_shortName).append
      (.ofChars _ rfl)).append type.clear_shortName).append (.ofChars _ rfl)).append
      type.clear_shortName).append (.ofChars _ rfl)
  · exact .ofChars _ rfl
  · exact ((op.clear_name.between rfl rfl).append type.clear_shortName).append (.ofChars _ rfl)

/-- A call in a text, with clear text before its path and behind it. -/
lemma mentionsIn_callText (before : List Char) {rest : List Char} {name : String}
    (hbefore : 'c' ∉ before) (hmore : 'c' ∉ c :: more) (hname : IsName name) (hclear : Clear name)
    (hrest : isClear ('(' :: rest) = true) :
    mentionsIn (cratePath c more)
      (String.ofList (before ++ cratePath c more) ++ name ++ String.ofList ('(' :: rest)).toList =
        [name] := by
  rw [String.toList_append, String.toList_append, String.toList_ofList, String.toList_ofList,
    List.append_assoc, List.append_assoc]
  exact mentionsIn_call hbefore hmore hname (isClear_append hclear hrest)

/-- A call of another module in a text. -/
lemma mentionsIn_otherText {d : Char} (before : List Char) {other rest : List Char} {name : String}
    (hbefore : 'c' ∉ before) (hne : c ≠ d) (hother : isClear (d :: other) = true)
    (hclear : Clear name) (hrest : isClear rest = true) :
    mentionsIn (cratePath c more)
      (String.ofList (before ++ cratePath d other) ++ name ++ String.ofList rest).toList = [] := by
  rw [String.toList_append, String.toList_append, String.toList_ofList, String.toList_ofList,
    List.append_assoc, List.append_assoc]
  exact mentionsIn_other hbefore hne (isClear_append hother (isClear_append hclear hrest))

/-- A text other than the kernel text mentions what its cells mention. -/
lemma mentionsOf_libraryLines {chapters : List Chapter} {artifact : Artifact}
    {names : Cell → List String} (hartifact : artifact ≠ .kernels) (hne : c ≠ 'S')
    (hcell : ∀ cell, mentionsOf (cratePath c more) (cellLines cell artifact) = names cell) :
    mentionsOf (cratePath c more) (libraryLines chapters artifact) =
      (plannedCells chapters).flatMap names := by
  have hopening : mentionsOf (cratePath c more) (openingLines artifact) = [] := by
    rw [openingLines, if_neg hartifact, List.append_nil, mentionsOf_header]
  have hchapter : ∀ op, mentionsOf (cratePath c more) (chapterLines op artifact) = [] := by
    intro op
    rw [chapterLines]
    split
    · rw [Layout.linesAt_append, mentionsOf_append, mentionsOf_traitSteps,
        mentionsOf_macroSteps hne]
      rfl
    · rfl
  have hregion : ∀ cell : Cell, Clear (cellRegion cell.op cell.type) := fun cell =>
    (cell.op.clear_name.append (.ofChars _ rfl)).append cell.type.clear_shortName
  rw [libraryLines_eq, mentionsOf_append, hopening, List.nil_append, mentionsOf_flatMap, plannedCells,
    List.flatMap_assoc]
  refine List.flatMap_congr fun chapter _ => ?_
  rw [mentionsOf_regionLines chapter.op.clear_name, mentionsOf_append, hchapter, List.nil_append,
    mentionsOf_flatMap]
  refine List.flatMap_congr fun cell _ => ?_
  rw [mentionsOf_regionLines (hregion cell), hcell]

end

/-! ### The trait text and the array text -/

/-- The path of the module of kernels. -/
def kernelsPath : String :=
  "crate::kernels::"

/-- The path of the module of functions for arrays. -/
def arraysPath : String :=
  "crate::arrays::"

lemma toList_kernelsPath :
    kernelsPath.toList = cratePath 'k' ['e', 'r', 'n', 'e', 'l', 's', ':', ':'] :=
  String.toList_ofList

lemma toList_arraysPath : arraysPath.toList = cratePath 'a' ['r', 'r', 'a', 'y', 's', ':', ':'] :=
  String.toList_ofList

section

variable {chapters : List Chapter}
  (hlines : ∀ routine ∈ plannedRoutines chapters, routine.OneLine)

include hlines

/-- The trait text names a kernel for every cell. -/
lemma mentions_kernels_traits : mentions kernelsPath ((libraryTexts chapters).get .traits) =
    (plannedCells chapters).map fun cell => kernelName cell.op cell.type := by
  rw [mentions_libraryTexts _ toList_kernelsPath hlines, List.map_eq_flatMap]
  refine mentionsOf_libraryLines (by decide) (by decide) fun cell => ?_
  rw [cellLines, mentionsOf_implSteps]
  exact congrArg₂ (· ++ ·)
    (mentionsIn_callText [] (by decide) (by decide) (isName_kernelName _ _) (clear_kernelName _ _)
      (by decide))
    (mentionsIn_otherText [] (by decide) (by decide) (by decide) (clear_arrayName _ _) (by decide))

/-- The trait text names a function for arrays for every cell. -/
lemma mentions_arrays_traits : mentions arraysPath ((libraryTexts chapters).get .traits) =
    (plannedCells chapters).map fun cell => arrayName cell.op cell.type := by
  rw [mentions_libraryTexts _ toList_arraysPath hlines, List.map_eq_flatMap]
  refine mentionsOf_libraryLines (by decide) (by decide) fun cell => ?_
  rw [cellLines, mentionsOf_implSteps]
  exact congrArg₂ (· ++ ·)
    (mentionsIn_otherText [] (by decide) (by decide) (by decide) (clear_kernelName _ _) (by decide))
    (mentionsIn_callText [] (by decide) (by decide) (isName_arrayName _ _) (clear_arrayName _ _)
      (by decide))

/-- The array text names a kernel for every cell. -/
lemma mentions_kernels_arrays : mentions kernelsPath ((libraryTexts chapters).get .arrays) =
    (plannedCells chapters).map fun cell => kernelName cell.op cell.type := by
  rw [mentions_libraryTexts _ toList_kernelsPath hlines, List.map_eq_flatMap]
  refine mentionsOf_libraryLines (by decide) (by decide) fun cell => ?_
  rw [cellLines, mentionsOf_arraySteps]
  exact mentionsIn_callText "unsafe \x7b ".toList (by decide) (by decide) (isName_kernelName _ _)
    (clear_kernelName _ _) (by decide)

/-- The array text names no function for arrays. -/
lemma mentions_arrays_arrays : mentions arraysPath ((libraryTexts chapters).get .arrays) = [] := by
  have hcells : (plannedCells chapters).flatMap (fun _ => []) = ([] : List String) :=
    List.flatMap_eq_nil_iff.mpr fun _ _ => rfl
  rw [mentions_libraryTexts _ toList_arraysPath hlines, ← hcells]
  refine mentionsOf_libraryLines (by decide) (by decide) fun cell => ?_
  rw [cellLines, mentionsOf_arraySteps]
  exact mentionsIn_otherText "unsafe \x7b ".toList (by decide) (by decide) (by decide)
    (clear_kernelName _ _) (by decide)

end

end Inventory

end LaneKernels
