import Mathlib.Tactic
import Mathlib.Data.List.ModifyLast
import LaneKernels.Proofs.Inventory.LineBreaks

/-!
Reading what a generated text defines, line by line.

* `read` says what a line is behind its blanks: a guard, the start of a region, the first line of a
  definition, an entry of a list of variants, something that belongs to the next line, or other code.
* `Survey.step` takes in one line. Only lines at the margin and lines of one level are looked at. A
  guard at the margin stands for the definition that follows, a guard inside for the entry that
  follows.
* `Quiet` lines leave a survey as it is when no guard is open. Deeper lines are quiet, whatever they
  hold (`quiet_deep`), and so are lines that begin like a comment or like a statement.
-/

namespace LaneKernels

/-- The text begins with some characters. -/
def Heads (chars : List Char) (text : String) : Prop :=
  ∃ rest, text.toList = chars ++ rest

lemma Heads.append {chars : List Char} {text : String} (h : Heads chars text) (more : String) :
    Heads chars (text ++ more) := by
  obtain ⟨rest, hrest⟩ := h
  exact ⟨rest ++ more.toList, by rw [String.toList_append, hrest, List.append_assoc]⟩

/-- A text that is given by its characters begins with the first ones. -/
lemma Heads.ofChars (chars rest : List Char) : Heads chars (String.ofList (chars ++ rest)) :=
  ⟨rest, String.toList_ofList⟩

namespace Inventory

/-! ### Single lines -/

/-- The characters of names. -/
def isNameChar (c : Char) : Bool :=
  c.isAlphanum || c = '_'

/-- The name that a text begins with. -/
def nameAt (text : List Char) : String :=
  String.ofList (text.takeWhile isNameChar)

/-- The rest of a text behind a start, if the text begins with it. -/
def after? : List Char → List Char → Option (List Char)
  | [], text => some text
  | _ :: _, [] => none
  | c :: start, d :: text => if c = d then after? start text else none

/-- The text without a start, if it begins with it. -/
def skip (start : String) (text : List Char) : List Char :=
  (after? start.toList text).getD text

/-- What a line can be. -/
inductive Reading where
  /-- The line depends on a build symbol. -/
  | guard (symbol : String)
  | region (name : String)
  | definition (name : String)
  /-- A variant with its tier and its kernel. -/
  | entry (tier kernel : String)
  /-- A comment, an attribute or an empty line, which belongs to what follows. -/
  | attached
  | code
  deriving DecidableEq, Repr

/-- The words that introduce a definition. -/
def keywords : List String :=
  ["fn ", "enum ", "struct ", "trait ", "static ", "type "]

/-- The name that a line defines. -/
def definition? (text : List Char) : Option String :=
  let item := skip "unsafe " (skip "const " (skip "pub " text))
  keywords.findSome? fun keyword => (after? keyword.toList item).map nameAt

/-- The tier and the kernel that a line adds to a list of variants. -/
def listed? (text : List Char) : Option (String × String) := do
  let rest ← after? "variants.push(Variant::new(Tier::".toList text
  let next ← after? ", ".toList (rest.dropWhile isNameChar)
  return (nameAt rest, nameAt next)

/-- What a line is, from its first character that is no blank on. -/
def read (text : List Char) : Reading :=
  match after? "#[cfg(".toList text, after? "// region: ".toList text with
  | some symbol, _ => .guard (String.ofList (symbol.takeWhile (· ≠ ')')))
  | none, some name => .region (String.ofList name)
  | none, none =>
    if text.isEmpty || (after? "#".toList text).isSome || (after? "//".toList text).isSome then
      .attached
    else
      match definition? text, listed? text with
      | some name, _ => .definition name
      | none, some (tier, kernel) => .entry tier kernel
      | none, none => .code

/-! ### Whole texts -/

/-- An entry of a list of variants, with the build symbols that it depends on. -/
structure ListEntry where
  guards : List String
  tier : String
  kernel : String
  deriving DecidableEq, Repr

/-- A definition, with the build symbols that it depends on and the variants that it lists. -/
structure Definition where
  guards : List String
  name : String
  entries : List ListEntry
  deriving DecidableEq, Repr

/-- What was found so far. -/
structure Survey where
  definitions : List Definition
  /-- The names of the regions. -/
  regions : List String
  /-- The guards of the next definition. -/
  guards : List String
  /-- The guards of the next entry. -/
  entryGuards : List String
  deriving DecidableEq, Repr

namespace Survey

/-- The survey of no lines. -/
def empty : Survey :=
  ⟨[], [], [], []⟩

/-- Takes in a line at the margin. -/
def top (survey : Survey) : Reading → Survey
  | .guard symbol => { survey with guards := survey.guards ++ [symbol] }
  | .region name => { survey with regions := survey.regions ++ [name] }
  | .definition name =>
    { survey with definitions := survey.definitions ++ [⟨survey.guards, name, []⟩], guards := [] }
  | .attached => survey
  | .entry _ _ | .code => { survey with guards := [] }

/-- Takes in a line of one level. -/
def inner (survey : Survey) : Reading → Survey
  | .guard symbol => { survey with entryGuards := survey.entryGuards ++ [symbol] }
  | .entry tier kernel =>
    { survey with
      definitions := survey.definitions.modifyLast fun definition =>
        { definition with entries := definition.entries ++ [⟨survey.entryGuards, tier, kernel⟩] }
      entryGuards := [] }
  | .region _ | .attached => survey
  | .definition _ | .code => { survey with entryGuards := [] }

/-- Takes in a line. -/
def step (survey : Survey) (line : String) : Survey :=
  match (line.toList.takeWhile (· = ' ')).length with
  | 0 => survey.top (read line.toList)
  | 4 => survey.inner (read (line.toList.drop 4))
  | _ => survey

/-- Takes in some lines. -/
def take (survey : Survey) (lines : List String) : Survey :=
  lines.foldl step survey

/-- No guard waits for what it stands for. -/
def Settled (survey : Survey) : Prop :=
  survey.guards = [] ∧ survey.entryGuards = []

/-- The survey with a definition and some regions more. -/
def add (survey : Survey) (definitions : List Definition) (regions : List String) : Survey :=
  { survey with definitions := survey.definitions ++ definitions, regions := survey.regions ++ regions }

end Survey

/-- What a text holds. -/
def survey (text : String) : Survey :=
  Survey.empty.take (Region.textLines text)

/-! ### What written lines do to a survey -/

open Layout (Line margin)

lemma length_takeWhile_margin (level : ℕ) (text : List Char) :
    (((margin level).toList ++ text).takeWhile (· = ' ')).length =
      4 * level + (text.takeWhile (· = ' ')).length := by
  rw [margin, String.toList_ofList, List.takeWhile_append_of_pos, List.length_append,
    List.length_replicate]
  intro c hc
  exact decide_eq_true (List.eq_of_mem_replicate hc)

/-- A line at the margin is read from its first character on. -/
lemma step_margin {content : String} {c : Char} (hc : c ≠ ' ') (h : Heads [c] content)
    (survey : Survey) :
    survey.step (Line.text 0 content).written = survey.top (read content.toList) := by
  obtain ⟨rest, hrest⟩ := h
  have hwritten : (Line.text 0 content).written.toList = content.toList := by
    rw [Line.written]
    split
    · rfl
    · rw [String.toList_append, margin, String.toList_ofList, Nat.mul_zero, List.replicate_zero,
        List.nil_append]
  have hblanks : (content.toList.takeWhile (· = ' ')).length = 0 := by
    simp [hrest, hc]
  rw [Survey.step, hwritten, hblanks]
  rfl

/-- A line of one level is read from behind its four blanks on. -/
lemma step_inner {content : String} {c : Char} (hc : c ≠ ' ') (h : Heads [c] content)
    (survey : Survey) :
    survey.step (Line.text 1 content).written = survey.inner (read content.toList) := by
  obtain ⟨rest, hrest⟩ := h
  have hwritten : (Line.text 1 content).written.toList = (margin 1).toList ++ content.toList := by
    rw [Line.written, if_neg, String.toList_append]
    simp [String.isEmpty_iff, ← String.toList_inj, hrest]
  have hblanks : (((margin 1).toList ++ content.toList).takeWhile (· = ' ')).length = 4 := by
    rw [length_takeWhile_margin]
    simp [hrest, hc]
  have hdrop : ((margin 1).toList ++ content.toList).drop 4 = content.toList := by
    rw [margin, String.toList_ofList]
    rfl
  rw [Survey.step, hwritten, hblanks, hdrop]
  rfl

/-- An empty line changes nothing. -/
lemma step_empty (level : ℕ) (survey : Survey) :
    survey.step (Line.text level "").written = survey := rfl

/-- Lines further in change nothing. -/
lemma step_deep {level : ℕ} (hlevel : 2 ≤ level) (content : String) (survey : Survey) :
    survey.step (Line.text level content).written = survey := by
  by_cases hempty : content = ""
  · rw [hempty, step_empty]
  · have hwritten : (Line.text level content).written.toList =
        (margin level).toList ++ content.toList := by
      rw [Line.written, if_neg, String.toList_append]
      rwa [String.isEmpty_iff]
    have hblanks := length_takeWhile_margin level content.toList
    rw [Survey.step, hwritten]
    split
    · omega
    · omega
    · rfl

/-! ### What lines hold -/

/-- Reading the lines finds some definitions and regions, and leaves no guard open. -/
def Reads (lines : List Line) (definitions : List Definition) (regions : List String) : Prop :=
  ∀ survey : Survey, survey.Settled →
    survey.take (lines.map Line.written) = survey.add definitions regions

/-- A line that changes nothing while no guard is open. -/
def Quiet (line : Line) : Prop :=
  ∀ survey : Survey, survey.Settled → survey.step line.written = survey

section

variable {lines more : List Line} {definitions others : List Definition} {regions names : List String}

lemma Survey.take_append (survey : Survey) (lines more : List String) :
    survey.take (lines ++ more) = (survey.take lines).take more :=
  List.foldl_append

lemma Survey.take_cons (survey : Survey) (line : String) (lines : List String) :
    survey.take (line :: lines) = (survey.step line).take lines := rfl

lemma Reads.append (h : Reads lines definitions regions) (hmore : Reads more others names) :
    Reads (lines ++ more) (definitions ++ others) (regions ++ names) := by
  intro survey hsettled
  rw [List.map_append, Survey.take_append, h survey hsettled,
    hmore (survey.add definitions regions) hsettled]
  simp only [Survey.add, List.append_assoc]

lemma reads_nil : Reads [] [] [] := fun survey _ => by
  simp only [Survey.take, Survey.add, List.map_nil, List.foldl_nil, List.append_nil]

lemma reads_flatMap {α : Type} {xs : List α} {lines : α → List Line} {definitions : α → List Definition}
    {regions : α → List String} (h : ∀ x ∈ xs, Reads (lines x) (definitions x) (regions x)) :
    Reads (xs.flatMap lines) (xs.flatMap definitions) (xs.flatMap regions) := by
  induction xs with
  | nil => exact reads_nil
  | cons x xs ih =>
      simp only [List.flatMap_cons]
      rw [List.forall_mem_cons] at h
      exact h.1.append (ih h.2)

lemma reads_of_quiet (h : ∀ line ∈ lines, Quiet line) : Reads lines [] [] := by
  intro survey hsettled
  induction lines with
  | nil => exact reads_nil survey hsettled
  | cons line rest ih =>
      rw [List.forall_mem_cons] at h
      rw [List.map_cons, Survey.take_cons, h.1 survey hsettled]
      exact ih h.2

/-- Quiet lines behind what was found change nothing. -/
lemma Reads.append_quiet (h : Reads lines definitions regions) (hmore : ∀ line ∈ more, Quiet line) :
    Reads (lines ++ more) definitions regions := by
  have hall := h.append (reads_of_quiet hmore)
  rwa [List.append_nil, List.append_nil] at hall

end

lemma quiet_deep {level : ℕ} (hlevel : 2 ≤ level) (content : String) : Quiet (.text level content) :=
  fun survey _ => step_deep hlevel content survey

lemma quiet_empty (level : ℕ) : Quiet (.text level "") := fun survey _ => step_empty level survey

/-- A line at the margin that is a comment, an attribute or plain code. -/
lemma quiet_margin {content : String} {c : Char} (hc : c ≠ ' ') (h : Heads [c] content)
    (hread : read content.toList = .attached ∨ read content.toList = .code) :
    Quiet (.text 0 content) := by
  intro survey hsettled
  rw [step_margin hc h]
  obtain hattached | hcode := hread
  · rw [hattached, Survey.top]
  · rw [hcode, Survey.top, ← hsettled.1]

/-- A line of one level that begins neither like an attribute nor like an entry. -/
lemma quiet_inner {content : String} {c : Char} (hblank : c ≠ ' ') (hattribute : c ≠ '#')
    (hentry : c ≠ 'v') (h : Heads [c] content) : Quiet (.text 1 content) := by
  intro survey hsettled
  rw [step_inner hblank h]
  obtain ⟨rest, hrest⟩ := h
  have hguard : after? "#[cfg(".toList (c :: rest) = none := if_neg (Ne.symm hattribute)
  have hvariants : after? "variants.push(Variant::new(Tier::".toList (c :: rest) = none :=
    if_neg (Ne.symm hentry)
  have hnoEntry : listed? (c :: rest) = none := by
    rw [listed?, hvariants]
    rfl
  have hentries : { survey with entryGuards := [] } = survey := by rw [← hsettled.2]
  rw [hrest, List.singleton_append, read, hguard, hnoEntry]
  cases after? "// region: ".toList (c :: rest) with
  | some name => rfl
  | none =>
      dsimp only
      split
      · rfl
      · cases definition? (c :: rest) with
        | none => exact hentries
        | some name => exact hentries

/-! ### The kinds of lines -/

/-- Documentation belongs to what follows it. -/
lemma quiet_doc {content : String} (h : Heads ['/', '/', '/'] content) : Quiet (.text 0 content) := by
  obtain ⟨rest, hrest⟩ := h
  refine quiet_margin (by decide) ⟨'/' :: '/' :: rest, hrest⟩ (.inl ?_)
  rw [hrest]
  rfl

/-- A comment that does not open a region belongs to what follows it. -/
lemma quiet_comment {content : String} {c : Char} (hc : c ≠ 'r')
    (h : Heads ['/', '/', ' ', c] content) :
    Quiet (.text 0 content) := by
  obtain ⟨rest, hrest⟩ := h
  refine quiet_margin (by decide) ⟨'/' :: ' ' :: c :: rest, hrest⟩ (.inl ?_)
  have hregion : after? "// region: ".toList ('/' :: '/' :: ' ' :: c :: rest) = none :=
    if_neg (Ne.symm hc)
  rw [hrest]
  show read ('/' :: '/' :: ' ' :: c :: rest) = .attached
  rw [read, hregion]
  rfl

lemma written_marker (marker : Region.Marker) :
    (Line.marker 0 marker).written = (Line.text 0 marker.text).written := by
  have hmargin : margin 0 = "" := String.ofList_nil
  rw [Line.written, Line.written, hmargin, String.empty_append, ite_self]

lemma quiet_closing : Quiet (.marker 0 .closing) := by
  intro survey hsettled
  rw [written_marker]
  have hheads : Heads ['/', '/', ' ', 'e'] Region.Marker.closing.text := .ofChars ['/', '/', ' ', 'e'] _
  exact quiet_comment (by decide) hheads survey hsettled

/-- The opening of a region gives its name. -/
lemma reads_opening (name : String) : Reads [.marker 0 (.opening name)] [] [name] := by
  intro survey _
  have htext : (Region.Marker.opening name).text.toList = "// region: ".toList ++ name.toList :=
    String.toList_append
  have hheads : Heads ['/'] (Region.Marker.opening name).text :=
    .append (.ofChars ['/'] _) name
  have hread : read ("// region: ".toList ++ name.toList) = .region (String.ofList name.toList) := rfl
  rw [List.map_singleton, Survey.take_cons, written_marker, step_margin (by decide) hheads, htext,
    hread, String.ofList_toList]
  rw [Survey.top, Survey.add, List.append_nil]
  rfl

/-! ### Definitions -/

/-- A survey without an open guard is what it has found. -/
lemma Survey.Settled.eq {survey : Survey} (h : survey.Settled) :
    survey = ⟨survey.definitions, survey.regions, [], []⟩ := by
  obtain ⟨definitions, regions, guards, entryGuards⟩ := survey
  obtain ⟨hguards, hentryGuards⟩ := h
  change guards = [] at hguards
  change entryGuards = [] at hentryGuards
  rw [hguards, hentryGuards]

/-- A line that defines a name gives a definition without guards and entries. -/
lemma reads_definition {content name : String} {c : Char} (hc : c ≠ ' ') (h : Heads [c] content)
    (hread : read content.toList = .definition name) :
    Reads [.text 0 content] [⟨[], name, []⟩] [] := by
  intro survey hsettled
  rw [List.map_singleton, Survey.take_cons, step_margin hc h, hread, hsettled.eq]
  simp only [Survey.top, Survey.add, Survey.take, List.foldl_nil, List.append_nil]

/-- A guard, and attributes behind it, stand for the definition that follows. -/
lemma reads_guarded {guard symbol content name : String} {c : Char} {attributes : List Line}
    (hguard : Heads ['#'] guard) (hsymbol : read guard.toList = .guard symbol)
    (hattributes : ∀ line ∈ attributes, ∀ survey : Survey, survey.step line.written = survey)
    (hc : c ≠ ' ') (h : Heads [c] content) (hread : read content.toList = .definition name) :
    Reads (.text 0 guard :: (attributes ++ [.text 0 content])) [⟨[symbol], name, []⟩] [] := by
  have hskip : ∀ survey : Survey, survey.take (attributes.map Line.written) = survey := by
    intro survey
    induction attributes with
    | nil => rfl
    | cons line rest ih =>
        rw [List.forall_mem_cons] at hattributes
        rw [List.map_cons, Survey.take_cons, hattributes.1]
        exact ih hattributes.2
  intro survey hsettled
  rw [List.map_cons, List.map_append, List.map_singleton, Survey.take_cons, Survey.take_append, hskip,
    Survey.take_cons, step_margin (by decide) hguard, step_margin hc h, hsymbol, hread, hsettled.eq]
  simp only [Survey.top, Survey.add, Survey.take, List.foldl_nil, List.append_nil, List.nil_append]

/-- An attribute other than a guard belongs to what follows it. -/
lemma read_attribute {content : String} {c : Char} (hc : c ≠ 'c') (h : Heads ['#', '[', c] content) :
    read content.toList = .attached := by
  obtain ⟨rest, hrest⟩ := h
  have hguard : after? "#[cfg(".toList ('#' :: '[' :: c :: rest) = none := if_neg (Ne.symm hc)
  rw [hrest]
  show read ('#' :: '[' :: c :: rest) = .attached
  rw [read, hguard]
  rfl

lemma step_attribute {content : String} {c : Char} (hc : c ≠ 'c') (h : Heads ['#', '[', c] content)
    (survey : Survey) : survey.step (Line.text 0 content).written = survey := by
  have hread := read_attribute hc h
  obtain ⟨rest, hrest⟩ := h
  rw [step_margin (by decide) ⟨'[' :: c :: rest, hrest⟩, hread, Survey.top]

lemma quiet_attribute {content : String} {c : Char} (hc : c ≠ 'c') (h : Heads ['#', '[', c] content) :
    Quiet (.text 0 content) := fun survey _ => step_attribute hc h survey

/-- An attribute of one level. -/
lemma quiet_innerAttribute {content : String} {c : Char} (hc : c ≠ 'c')
    (h : Heads ['#', '[', c] content) :
    Quiet (.text 1 content) := by
  have hread := read_attribute hc h
  obtain ⟨rest, hrest⟩ := h
  intro survey _
  rw [step_inner (by decide) ⟨'[' :: c :: rest, hrest⟩, hread, Survey.inner]

/-! ### Entries -/

/-- Reading the lines adds some entries to the definition that was found last. -/
def Lists (lines : List Line) (entries : List ListEntry) : Prop :=
  ∀ found definition names,
    Survey.take ⟨found ++ [definition], names, [], []⟩ (lines.map Line.written) =
      ⟨found ++ [{ definition with entries := definition.entries ++ entries }], names, [], []⟩

section

variable {lines more : List Line} {entries others : List ListEntry}

lemma Lists.append (h : Lists lines entries) (hmore : Lists more others) :
    Lists (lines ++ more) (entries ++ others) := by
  intro found definition names
  rw [List.map_append, Survey.take_append, h, hmore]
  simp only [List.append_assoc]

lemma lists_of_quiet (h : ∀ line ∈ lines, Quiet line) : Lists lines [] := by
  intro found definition names
  rw [reads_of_quiet h _ ⟨rfl, rfl⟩]
  simp only [Survey.add, List.append_nil]

lemma lists_flatMap {α : Type} {xs : List α} {lines : α → List Line} {entries : α → List ListEntry}
    (h : ∀ x ∈ xs, Lists (lines x) (entries x)) : Lists (xs.flatMap lines) (xs.flatMap entries) := by
  induction xs with
  | nil => exact lists_of_quiet fun _ hline => absurd hline List.not_mem_nil
  | cons x xs ih =>
      simp only [List.flatMap_cons]
      rw [List.forall_mem_cons] at h
      exact h.1.append (ih h.2)

/-- A guard and the entry behind it. -/
lemma lists_entry {guard symbol content tier kernel : String} (hguard : Heads ['#'] guard)
    (hsymbol : read guard.toList = .guard symbol) (h : Heads ['v'] content)
    (hread : read content.toList = .entry tier kernel) :
    Lists [.text 1 guard, .text 1 content] [⟨[symbol], tier, kernel⟩] := by
  intro found definition names
  rw [List.map_cons, List.map_singleton, Survey.take_cons, Survey.take_cons,
    step_inner (by decide) hguard, step_inner (by decide) h, hsymbol, hread]
  simp only [Survey.inner, List.modifyLast_concat, List.nil_append]
  rfl

/-- The entries behind a definition belong to it. -/
lemma Reads.listing {head : Line} {guards : List String} {name : String}
    (h : Reads [head] [⟨guards, name, []⟩] []) (hbody : Lists lines entries) :
    Reads (head :: lines) [⟨guards, name, entries⟩] [] := by
  intro survey hsettled
  have hhead := h survey hsettled
  rw [List.map_singleton, Survey.take_cons] at hhead
  rw [List.map_cons, Survey.take_cons, show survey.step head.written = _ from hhead, hsettled.eq]
  simp only [Survey.add, List.append_nil]
  rw [hbody, List.nil_append]

end

end Inventory

end LaneKernels
