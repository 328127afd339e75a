import Mathlib.Tactic
import LaneKernels.Proofs.Generation.Planning
import LaneKernels.Proofs.Generation.Rendering

/-!
The lines of a generated text are the lines that were written.

* `OneLine` is a text without line feeds. Names and numbers are such texts.
* `textLines_text`: if no line of a buffer has a line feed in it, reading the text of the buffer
  gives back its lines, and the empty one behind the last line feed.
* `oneLine_libraryLines`: no line of a plan has a line feed in it, if the table has none in its
  paths and register types (`BindingTable.OneLine`), as the shipped table does
  (`BindingTable.oneLine_shipped`).
-/

namespace LaneKernels

/-- A text without line feeds. -/
def OneLine (text : String) : Prop :=
  '\n' ∉ text.toList

namespace OneLine

lemma append {left right : String} (hleft : OneLine left) (hright : OneLine right) :
    OneLine (left ++ right) := by
  rw [OneLine, String.toList_append, List.mem_append]
  exact not_or.mpr ⟨hleft, hright⟩

lemma ofList {chars : List Char} (h : '\n' ∉ chars) : OneLine (String.ofList chars) := by
  rw [OneLine, String.toList_ofList]
  exact h

/-- A text that is given by its characters. -/
lemma ofChars (chars : List Char) (h : chars.contains '\n' = false) : OneLine (String.ofList chars) :=
  ofList (by simpa using h)

end OneLine

lemma oneLine_append {left right : String} :
    OneLine (left ++ right) ↔ OneLine left ∧ OneLine right := by
  rw [OneLine, String.toList_append, List.mem_append, not_or]
  rfl

lemma OneLine.intercalate {separator : String} {parts : List String} (h : OneLine separator)
    (hparts : ∀ part ∈ parts, OneLine part) : OneLine (separator.intercalate parts) := by
  induction parts with
  | nil => exact .ofChars [] rfl
  | cons part rest ih =>
      rw [List.forall_mem_cons] at hparts
      cases rest with
      | nil =>
          rw [String.intercalate_singleton]
          exact hparts.1
      | cons next rest =>
          rw [String.intercalate_cons_cons]
          exact (hparts.1.append h).append (ih hparts.2)

/-! ### Names and numbers -/

@[simp] lemma oneLine_repr (n : ℕ) : OneLine n.repr := by
  intro hmem
  have hdigit : Char.isDigit '\n' = true :=
    Nat.isDigit_of_mem_toDigits (by decide) (by decide) (String.toList_ofList ▸ hmem)
  exact absurd hdigit (by decide)

@[simp] lemma ArithOp.oneLine_name (op : ArithOp) : OneLine op.name := by
  cases op <;> exact .ofChars _ rfl

@[simp] lemma ArithOp.oneLine_traitName (op : ArithOp) : OneLine op.traitName := by
  cases op <;> exact .ofChars _ rfl

@[simp] lemma ArithOp.oneLine_macroName (op : ArithOp) : OneLine op.macroName := by
  cases op <;> exact .ofChars _ rfl

@[simp] lemma ArithOp.oneLine_symbol (op : ArithOp) : OneLine op.symbol := by
  cases op <;> exact .ofChars _ rfl

@[simp] lemma ArithOp.oneLine_wrappingMethod (op : ArithOp) : OneLine op.wrappingMethod := by
  cases op <;> exact .ofChars _ rfl

@[simp] lemma ElementType.oneLine_shortName (type : ElementType) : OneLine type.shortName := by
  cases type <;> exact .ofChars _ rfl

@[simp] lemma Tier.oneLine_name (tier : Tier) : OneLine tier.name := by
  cases tier <;> exact .ofChars _ rfl

@[simp] lemma Tier.oneLine_enumName (tier : Tier) : OneLine tier.enumName := by
  cases tier <;> exact .ofChars _ rfl

@[simp] lemma Tier.oneLine_buildGuard (tier : Tier) : OneLine tier.buildGuard := by
  cases tier <;> exact .ofChars _ rfl

lemma Tier.oneLine_targetFeature {tier : Tier} {feature : String}
    (h : tier.targetFeature? = some feature) : OneLine feature := by
  cases tier <;> cases h <;> exact .ofChars _ rfl

/-! ### Reading a text gives back its lines -/

/-- A piece without the separator is cut off at the separator behind it. -/
lemma pieces_append_cons {separator : Char} {piece : List Char} (h : separator ∉ piece)
    (rest : List Char) :
    Text.pieces separator (piece ++ separator :: rest) = piece :: Text.pieces separator rest := by
  rw [Text.pieces_append_separator, Text.pieces_of_not_mem h, List.singleton_append]

namespace Layout

/-- What is written of a line behind its margin. -/
def Line.content : Line → String
  | .text _ content => content
  | .marker _ m => m.text

lemma oneLine_margin (level : ℕ) : OneLine (margin level) :=
  .ofList fun h => absurd (List.eq_of_mem_replicate h) (by decide)

lemma Line.oneLine_written {line : Line} (h : OneLine line.content) : OneLine line.written := by
  cases line with
  | text level content =>
      change OneLine content at h
      rw [written]
      split
      · exact h
      · exact (oneLine_margin level).append h
  | marker level m =>
      change OneLine m.text at h
      exact (oneLine_margin level).append h

/-- Joining lines and ending the last one is the same as ending each of them. -/
lemma toList_joined {lines : List String} (hne : lines ≠ []) :
    ("\n".intercalate lines ++ "\n").toList = lines.flatMap fun line => line.toList ++ ['\n'] := by
  rw [String.toList_append, String.toList_intercalate,
    show "\n".toList = ['\n'] from String.toList_ofList]
  induction lines with
  | nil => exact absurd rfl hne
  | cons line rest ih =>
      cases rest with
      | nil => simp
      | cons next rest =>
          have hrest := ih (by simp)
          rw [List.map_cons, List.map_cons, List.intercalate_cons_cons, List.append_assoc,
            List.append_assoc, ← List.map_cons, hrest]
          simp only [List.flatMap_cons, List.append_assoc]

/-- The lines of a text are those of the lines of its buffer, and the empty one behind the last line
feed. -/
lemma textLines_text_eq_flatMap {buffer : Buffer} (hne : buffer.writtenLines ≠ []) :
    Region.textLines buffer.text = buffer.writtenLines.flatMap Region.textLines ++ [""] := by
  rw [Region.textLines, Buffer.text, toList_joined hne]
  induction buffer.writtenLines with
  | nil => rfl
  | cons line rest ih =>
      rw [List.flatMap_cons, List.append_assoc, List.singleton_append, Text.pieces_append_separator,
        List.map_append, ih, List.flatMap_cons, List.append_assoc]
      rfl

lemma textLines_of_oneLine {line : String} (h : OneLine line) : Region.textLines line = [line] := by
  rw [Region.textLines, Text.pieces_of_not_mem h, List.map_singleton, String.ofList_toList]

/-- The lines of a text without other line feeds are the lines of its buffer. -/
lemma textLines_text {buffer : Buffer} (hne : buffer.writtenLines ≠ [])
    (h : ∀ line ∈ buffer.writtenLines, OneLine line) :
    Region.textLines buffer.text = buffer.writtenLines ++ [""] := by
  rw [textLines_text_eq_flatMap hne,
    List.flatMap_congr fun line hline => textLines_of_oneLine (h line hline), List.flatMap_singleton']

/-! ### Steps without line feeds -/

mutual

/-- Whether the texts of a step have no line feeds in them. -/
def Step.IsOneLine : Step → Prop
  | .push | .pop | .blank | .doc _ => True
  | .line text | .comment text => OneLine text
  | .indent body => AreOneLine body
  | .block head tail body => OneLine head ∧ OneLine tail ∧ AreOneLine body

/-- Whether the texts of steps have no line feeds in them. -/
def AreOneLine : List Step → Prop
  | [] => True
  | step :: rest => step.IsOneLine ∧ AreOneLine rest

end

lemma areOneLine_iff {steps : List Step} : AreOneLine steps ↔ ∀ step ∈ steps, step.IsOneLine := by
  induction steps with
  | nil => simp [AreOneLine]
  | cons step rest ih => rw [AreOneLine, ih, List.forall_mem_cons]

lemma areOneLine_append {steps more : List Step} :
    AreOneLine (steps ++ more) ↔ AreOneLine steps ∧ AreOneLine more := by
  rw [areOneLine_iff, areOneLine_iff, areOneLine_iff, List.forall_mem_append]

lemma oneLine_docLines {text line : String} (h : line ∈ docLines text) : OneLine line := by
  obtain ⟨prose, hprose, rfl⟩ := List.mem_map.mp h
  rw [docLine]
  split
  · exact .ofChars _ rfl
  · exact .append (.ofChars _ rfl) (.ofList (Text.not_mem_of_mem_lines hprose))

mutual

lemma Step.oneLine_linesAt : ∀ (step : Step) (level : ℕ), step.IsOneLine →
    ∀ line ∈ step.linesAt level, OneLine line.content
  | .push, _, _ | .pop, _, _ => fun line hline => absurd hline (List.not_mem_nil)
  | .line text, level, h => by
      intro line hline
      rw [List.mem_singleton.mp hline]
      exact h
  | .blank, level, _ => by
      intro line hline
      rw [List.mem_singleton.mp hline]
      exact .ofChars [] rfl
  | .comment text, level, h => by
      intro line hline
      rw [List.mem_singleton.mp hline]
      exact .append (.ofChars _ rfl) h
  | .doc text, level, _ => by
      intro line hline
      obtain ⟨prose, hprose, rfl⟩ := List.mem_map.mp hline
      exact oneLine_docLines hprose
  | .indent body, level, h => oneLine_linesAt body (level + 1) h
  | .block head tail body, level, h => by
      obtain ⟨hhead, htail, hbody⟩ := h
      simp only [Step.linesAt, List.forall_mem_cons, List.forall_mem_append]
      refine ⟨.append hhead (.ofChars _ rfl), oneLine_linesAt body (level + 1) hbody, htail, ?_⟩
      simp

lemma oneLine_linesAt : ∀ (steps : List Step) (level : ℕ), AreOneLine steps →
    ∀ line ∈ linesAt steps level, OneLine line.content
  | [], _, _ => fun line hline => absurd hline (List.not_mem_nil)
  | step :: rest, level, h => by
      rw [linesAt, List.forall_mem_append]
      exact ⟨step.oneLine_linesAt level h.1, oneLine_linesAt rest level h.2⟩

end

end Layout

/-! ### The steps of a plan -/

/-- The paths and the register types of a table have a property. -/
structure BindingTable.TextsHave (table : BindingTable) (holds : String → Prop) : Prop where
  binding : ∀ {tier slot type binding}, table.binding? tier slot type = some binding →
    holds binding.path
  register : ∀ {tier type register}, table.register? tier type = some register → holds register

/-- The paths and the register type of a kernel have a property. -/
structure Routine.TextsHave (routine : Routine) (holds : String → Prop) : Prop where
  register : holds routine.register
  alignedLoad : holds routine.alignedLoad.path
  unalignedLoad : holds routine.unalignedLoad.path
  compute : holds routine.compute.path
  alignedStore : holds routine.alignedStore.path
  unalignedStore : holds routine.unalignedStore.path

lemma Routine.TextsHave.mono {routine : Routine} {holds weaker : String → Prop}
    (h : routine.TextsHave holds) (hweaker : ∀ {text}, holds text → weaker text) :
    routine.TextsHave weaker :=
  ⟨hweaker h.register, hweaker h.alignedLoad, hweaker h.unalignedLoad, hweaker h.compute,
    hweaker h.alignedStore, hweaker h.unalignedStore⟩

namespace BindingTable

section

variable {table : BindingTable} {holds : String → Prop} (h : table.TextsHave holds)
  (hempty : holds "")

include h hempty

/-- What holds of the paths of a table, and of the empty one, holds of those of its callables. -/
lemma path_callable (tier : Tier) (slot : Slot) (type : ElementType) :
    holds (table.callable tier slot type).path := by
  rw [callable]
  cases hfound : table.binding? tier slot type with
  | none => exact hempty
  | some binding => exact h.binding hfound

/-- What holds of the register types of a table, and of the empty text, holds of their names. -/
lemma holds_registerName (tier : Tier) (type : ElementType) : holds (table.registerName tier type) := by
  rw [registerName]
  cases hfound : table.register? tier type with
  | none => exact hempty
  | some register => exact h.register hfound

lemma TextsHave.routine (op : ArithOp) (type : ElementType) (tier : Tier) :
    (table.routine op type tier).TextsHave holds :=
  ⟨holds_registerName h hempty tier type, path_callable h hempty tier _ _,
    path_callable h hempty tier _ _, path_callable h hempty tier _ _, path_callable h hempty tier _ _,
    path_callable h hempty tier _ _⟩

end

/-- No path and no register type of the table has a line feed in it. -/
abbrev OneLine (table : BindingTable) : Prop :=
  table.TextsHave LaneKernels.OneLine

end BindingTable

/-- No path and no register type of the kernel has a line feed in it. -/
abbrev Routine.OneLine (routine : Routine) : Prop :=
  routine.TextsHave LaneKernels.OneLine

namespace Source

open Layout

@[simp] lemma oneLine_tierPath (tier : Tier) : OneLine (tierPath tier) := by
  simp only [tierPath, oneLine_append, toString, Tier.oneLine_enumName, and_true]
  exact .ofChars _ rfl

@[simp] lemma oneLine_guardLine (tier : Tier) : OneLine (guardLine tier) := by
  simp only [guardLine, oneLine_append, toString, Tier.oneLine_buildGuard, and_true]
  and_intros <;> exact .ofChars _ rfl

lemma areOneLine_imports : AreOneLine imports := by
  simp only [imports, AreOneLine, Step.IsOneLine, oneLine_append, toString, List.flatMap_cons,
    List.flatMap_nil, List.cons_append, List.nil_append, and_true, true_and]
  and_intros <;> exact .ofChars _ rfl

lemma areOneLine_tierEnum : AreOneLine tierEnum := by
  simp only [tierEnum, Tier.all, List.map_cons, List.map_nil, AreOneLine, Step.IsOneLine,
    oneLine_append, toString, Tier.oneLine_enumName, and_true, true_and]
  and_intros <;> exact .ofChars _ rfl

lemma oneLine_tierList : OneLine tierList := by
  have hpaths : OneLine (", ".intercalate (Tier.all.map tierPath)) := by
    refine .intercalate (.ofChars _ rfl) ?_
    rw [List.forall_mem_map]
    exact fun tier _ => oneLine_tierPath tier
  have hstart : OneLine "pub const ALL: [Tier; " := .ofChars _ rfl
  have hmiddle : OneLine "] = [" := .ofChars _ rfl
  have hlast : OneLine "];" := .ofChars _ rfl
  exact (((hstart.append (oneLine_repr _)).append hmiddle).append hpaths).append hlast

lemma areOneLine_availabilityArm (tier : Tier) : AreOneLine (availabilityArm tier) := by
  rw [availabilityArm]
  cases tier <;>
    simp only [Tier.detection?, AreOneLine, Step.IsOneLine, oneLine_append, toString, oneLine_guardLine,
      oneLine_tierPath, and_true, true_and] <;>
    and_intros <;> exact .ofChars _ rfl

lemma isOneLine_matchSelf {arms : List Step} : (matchSelf arms).IsOneLine ↔ AreOneLine arms := by
  have hhead : OneLine "match self" := .ofChars _ rfl
  have htail : OneLine "\x7d" := .ofChars _ rfl
  simp only [matchSelf, Step.IsOneLine, hhead, htail, true_and]

lemma isOneLine_constMethod {signature : String} {body : List Step} :
    (constMethod signature body).IsOneLine ↔ OneLine signature ∧ AreOneLine body := by
  have hhead : OneLine "pub const fn " := .ofChars _ rfl
  have htail : OneLine "\x7d" := .ofChars _ rfl
  simp only [constMethod, Step.IsOneLine, oneLine_append, toString, hhead, htail, true_and]

lemma areOneLine_tierMethods : AreOneLine tierMethods := by
  have hnames : AreOneLine
      (Tier.all.map fun tier => .line s!"{tierPath tier} => \"{tier.name}\",") := by
    simp only [areOneLine_iff, List.forall_mem_map, Step.IsOneLine, oneLine_append, toString,
      oneLine_tierPath, Tier.oneLine_name, and_true, true_and]
    intro tier _
    and_intros <;> exact .ofChars _ rfl
  have hwidths : AreOneLine
      (Tier.all.map fun tier => .line s!"{tierPath tier} => {tier.registerBits},") := by
    simp only [areOneLine_iff, List.forall_mem_map, Step.IsOneLine, oneLine_append, toString,
      oneLine_tierPath, oneLine_repr, and_true, true_and]
    intro tier _
    and_intros <;> exact .ofChars _ rfl
  have harms : AreOneLine (Tier.all.flatMap availabilityArm ++ [.line "_ => false,"]) := by
    rw [areOneLine_append, areOneLine_iff, List.forall_mem_flatMap]
    refine ⟨fun tier _ => areOneLine_iff.mp (areOneLine_availabilityArm tier), ?_⟩
    exact ⟨.ofChars _ rfl, trivial⟩
  simp only [tierMethods, AreOneLine, Step.IsOneLine, isOneLine_constMethod, isOneLine_matchSelf,
    hnames, hwidths, harms, oneLine_tierList, and_true, true_and]
  and_intros <;> exact .ofChars _ rfl

lemma areOneLine_tierDisplay : AreOneLine tierDisplay := by
  simp only [tierDisplay, AreOneLine, Step.IsOneLine, and_true]
  and_intros <;> exact .ofChars _ rfl

lemma areOneLine_prelude : AreOneLine prelude := by
  simp only [prelude, areOneLine_append]
  exact ⟨⟨⟨areOneLine_imports, areOneLine_tierEnum⟩, areOneLine_tierMethods⟩, areOneLine_tierDisplay⟩

lemma areOneLine_traitSteps (op : ArithOp) : AreOneLine (traitSteps op ++ macroSteps op) := by
  simp only [traitSteps, macroSteps, areOneLine_append, AreOneLine, Step.IsOneLine, oneLine_append,
    toString,
    ArithOp.oneLine_name, ArithOp.oneLine_traitName, ArithOp.oneLine_macroName, ArithOp.oneLine_symbol,
    and_true, true_and]
  and_intros <;> exact .ofChars _ rfl

lemma areOneLine_implSteps (op : ArithOp) (type : ElementType) : AreOneLine (implSteps op type) := by
  simp only [implSteps, kernelName, arrayName, AreOneLine, Step.IsOneLine, oneLine_append, toString,
    ArithOp.oneLine_name, ArithOp.oneLine_traitName, ElementType.oneLine_shortName, and_true, true_and]
  and_intros <;> exact .ofChars _ rfl

lemma areOneLine_arraySteps (op : ArithOp) (type : ElementType) : AreOneLine (arraySteps op type) := by
  simp only [arraySteps, kernelName, arrayName, AreOneLine, Step.IsOneLine, oneLine_append, toString,
    ArithOp.oneLine_name, ElementType.oneLine_shortName, and_true, true_and]
  and_intros <;> exact .ofChars _ rfl

@[simp] lemma oneLine_kernelName (op : ArithOp) (type : ElementType) :
    OneLine (kernelName op type) := by
  simp only [kernelName, oneLine_append, toString, ArithOp.oneLine_name, ElementType.oneLine_shortName,
    and_true, true_and]
  exact .ofChars _ rfl

@[simp] lemma oneLine_signature {name : String} (h : OneLine name) (type : ElementType) :
    OneLine (signature name type) := by
  unfold signature
  simp only [oneLine_append, toString, h, ElementType.oneLine_shortName, and_true]
  and_intros <;> exact .ofChars _ rfl

lemma oneLine_elementExpression (op : ArithOp) (type : ElementType) {lhs rhs : String}
    (hlhs : OneLine lhs) (hrhs : OneLine rhs) : OneLine (op.elementExpression type lhs rhs) := by
  rw [ArithOp.elementExpression]
  split <;>
    simp only [oneLine_append, toString, hlhs, hrhs, ArithOp.oneLine_symbol,
      ArithOp.oneLine_wrappingMethod, and_true, true_and] <;>
    and_intros <;> exact .ofChars _ rfl

lemma oneLine_elementStatement (op : ArithOp) (type : ElementType) :
    OneLine (elementStatement op type) := by
  have hvalue : OneLine (op.elementExpression type "*a.add(i)" "*b.add(i)") :=
    oneLine_elementExpression op type (.ofChars _ rfl) (.ofChars _ rfl)
  have hstart : OneLine "*c.add(i) = " := .ofChars _ rfl
  have hlast : OneLine ";" := .ofChars _ rfl
  exact (hstart.append hvalue).append hlast

lemma areOneLine_defaultSteps (op : ArithOp) (type : ElementType) :
    AreOneLine (defaultSteps op type) := by
  have hname : OneLine (defaultName op type) := by
    simp only [defaultName, oneLine_append, toString, oneLine_kernelName, true_and]
    exact .ofChars _ rfl
  simp only [defaultSteps, AreOneLine, Step.IsOneLine, oneLine_append, toString, ArithOp.oneLine_name,
    ElementType.oneLine_shortName, oneLine_signature hname, oneLine_elementStatement, and_true,
    true_and]
  and_intros <;> exact .ofChars _ rfl

lemma areOneLine_dispatcherSteps (op : ArithOp) (type : ElementType) :
    AreOneLine (dispatcherSteps op type) := by
  simp only [dispatcherSteps, AreOneLine, Step.IsOneLine, oneLine_append, toString, defaultName,
    variantsName, ArithOp.oneLine_name, ElementType.oneLine_shortName, oneLine_kernelName,
    oneLine_signature, and_true, true_and]
  and_intros <;> exact .ofChars _ rfl

@[simp] lemma oneLine_routineName (op : ArithOp) (type : ElementType) (tier : Tier) :
    OneLine (routineName op type tier) := by
  simp only [routineName, oneLine_append, toString, oneLine_kernelName, Tier.oneLine_name, and_true,
    true_and]
  exact .ofChars _ rfl

lemma areOneLine_variantEntry (op : ArithOp) (type : ElementType) (tier : Tier) :
    AreOneLine (variantEntry op type tier) := by
  simp only [variantEntry, AreOneLine, Step.IsOneLine, oneLine_append, toString, oneLine_guardLine,
    oneLine_tierPath, oneLine_routineName, and_true, true_and]
  and_intros <;> exact .ofChars _ rfl

lemma areOneLine_variantsSteps (op : ArithOp) (type : ElementType) (tiers : List Tier) :
    AreOneLine (variantsSteps op type tiers) := by
  have hentries : AreOneLine (tiers.flatMap (variantEntry op type)) := by
    rw [areOneLine_iff, List.forall_mem_flatMap]
    exact fun tier _ => areOneLine_iff.mp (areOneLine_variantEntry op type tier)
  simp only [variantsSteps, variantsName, areOneLine_append, AreOneLine, Step.IsOneLine, oneLine_append,
    toString, ArithOp.oneLine_name, ElementType.oneLine_shortName, oneLine_kernelName, hentries,
    and_true, true_and]
  and_intros <;> exact .ofChars _ rfl

section

variable {routine : Routine} (h : routine.OneLine)

include h

lemma oneLine_pointerArgument {binding : Binding} {pointer : String} (hpointer : OneLine pointer) :
    OneLine (binding.pointerArgument pointer routine.register) := by
  rw [Binding.pointerArgument]
  split
  · exact hpointer
  · simp only [oneLine_append, toString, hpointer, h.register, and_true, true_and]
    and_intros <;> exact .ofChars _ rfl

lemma oneLine_loadCall {binding : Binding} (hpath : OneLine binding.path) {pointer : String}
    (hpointer : OneLine pointer) : OneLine (binding.loadCall pointer routine.register) := by
  simp only [Binding.loadCall, oneLine_append, toString, hpath, oneLine_pointerArgument h hpointer,
    and_true, true_and]
  and_intros <;> exact .ofChars _ rfl

lemma oneLine_loadStatement {operand : String} (hoperand : OneLine operand) :
    OneLine (loadStatement routine operand) := by
  have hpointer : OneLine (operand ++ ".add(i)") := hoperand.append (.ofChars _ rfl)
  have haligned := oneLine_loadCall h h.alignedLoad hpointer
  have hunaligned := oneLine_loadCall h h.unalignedLoad hpointer
  unfold loadStatement
  simp only [oneLine_append, toString, hoperand, haligned, hunaligned, h.register, and_true]
  and_intros <;> exact .ofChars _ rfl

lemma oneLine_storeStatement {binding : Binding} (hpath : OneLine binding.path) :
    OneLine (storeStatement routine binding) := by
  have hargument : OneLine (binding.pointerArgument "c.add(i)" routine.register) :=
    oneLine_pointerArgument h (.ofChars _ rfl)
  have hcall : OneLine (binding.storeCall "c.add(i)" routine.register "vec_c") := by
    simp only [Binding.storeCall, oneLine_append, toString, hargument, hpath, and_true, true_and]
    and_intros <;> exact .ofChars _ rfl
  exact hcall.append (.ofChars _ rfl)

lemma oneLine_computeStatement : OneLine (computeStatement routine) := by
  have hcall : OneLine (routine.compute.computeCall "vec_a" "vec_b") := by
    simp only [Binding.computeCall, oneLine_append, toString, h.compute, true_and]
    and_intros <;> exact .ofChars _ rfl
  have hstart : OneLine "let vec_c: " := .ofChars _ rfl
  have hmiddle : OneLine " = " := .ofChars _ rfl
  have hlast : OneLine ";" := .ofChars _ rfl
  exact (((hstart.append h.register).append hmiddle).append hcall).append hlast

lemma isOneLine_mainLoop : (mainLoop routine).IsOneLine := by
  have ha : OneLine "a" := .ofChars _ rfl
  have hb : OneLine "b" := .ofChars _ rfl
  simp only [mainLoop, AreOneLine, Step.IsOneLine, oneLine_append, toString, oneLine_repr,
    oneLine_loadStatement h ha, oneLine_loadStatement h hb, oneLine_computeStatement h,
    oneLine_storeStatement h h.alignedStore, oneLine_storeStatement h h.unalignedStore, and_true,
    true_and]
  and_intros <;> exact .ofChars _ rfl

lemma areOneLine_routineSteps : AreOneLine (routineSteps routine) := by
  have hfeature : AreOneLine (routine.tier.targetFeature?.map fun feature =>
      .line s!"#[target_feature(enable = \"{feature}\")]").toList := by
    cases hfound : routine.tier.targetFeature? with
    | none => trivial
    | some feature =>
        simp only [Option.map_some, Option.toList_some, AreOneLine, Step.IsOneLine, oneLine_append,
          toString, Tier.oneLine_targetFeature hfound, and_true]
        and_intros <;> exact .ofChars _ rfl
  have hrelease : AreOneLine (routine.tier.release?.map fun release =>
      .line s!"{release};").toList := by
    cases routine.tier with
    | mmx => exact ⟨.append (.ofChars _ rfl) (.ofChars _ rfl), trivial⟩
    | sse | sse2 | avx | avx2 => trivial
  have hprobes : AreOneLine (["a", "b", "c"].map fun pointer =>
      Step.line (probeStatement routine.tier pointer)) := by
    have hprobe : ∀ {pointer : String}, OneLine pointer →
        OneLine (probeStatement routine.tier pointer) := by
      intro pointer hpointer
      have hopen : OneLine "let aligned_" := .ofChars _ rfl
      have htest : OneLine " = is_aligned(" := .ofChars _ rfl
      have hcomma : OneLine ", " := .ofChars _ rfl
      have hclose : OneLine ");" := .ofChars _ rfl
      exact (((((hopen.append hpointer).append htest).append hpointer).append hcomma).append
        (oneLine_repr _)).append hclose
    refine ⟨hprobe ?_, hprobe ?_, hprobe ?_, trivial⟩ <;> exact .ofChars _ rfl
  have htail : (tailLoop routine).IsOneLine := by
    simp only [tailLoop, Step.IsOneLine, AreOneLine, oneLine_elementStatement, and_true, true_and]
    and_intros <;> exact .ofChars _ rfl
  have hname : OneLine (signature routine.name routine.type) :=
    oneLine_signature (oneLine_routineName _ _ _) _
  simp only [routineSteps, areOneLine_append, AreOneLine, hfeature]
  simp only [Step.IsOneLine, areOneLine_append, AreOneLine, hprobes, hrelease, isOneLine_mainLoop h,
    htail, oneLine_append, oneLine_guardLine, hname, and_true, true_and]
  simp only [toString, oneLine_repr, ArithOp.oneLine_name, ElementType.oneLine_shortName,
    Tier.oneLine_name, and_true]
  and_intros <;> exact .ofChars _ rfl

end

lemma areOneLine_steps {item : Item} (h : ∀ routine, item = .routine routine → routine.OneLine) :
    AreOneLine item.steps := by
  cases item with
  | default op type => exact areOneLine_defaultSteps op type
  | routine routine => exact areOneLine_routineSteps (h routine rfl)
  | variants op type tiers => exact areOneLine_variantsSteps op type tiers
  | dispatcher op type => exact areOneLine_dispatcherSteps op type

lemma oneLine_write {steps : List Layout.Step} (h : AreOneLine steps) (place artifact : Artifact) :
    ∀ line ∈ (Draft.Step.write place steps).linesOf artifact, OneLine line.content := by
  rw [Draft.Step.linesOf]
  split
  · exact oneLine_linesAt _ 0 h
  · exact fun _ hline => absurd hline List.not_mem_nil

/-- A region is free of line feeds if its name and the steps in it are. -/
lemma oneLine_region {name : String} (hname : OneLine name) {body : List Draft.Step}
    {artifact : Artifact} (hbody : ∀ step ∈ body, ∀ line ∈ step.linesOf artifact, OneLine line.content) :
    ∀ line ∈ (Draft.Step.region name body).linesOf artifact, OneLine line.content := by
  have hopening : OneLine (Region.Marker.opening name).text := .append (.ofChars _ rfl) hname
  have hclosing : OneLine Region.Marker.closing.text := .ofChars _ rfl
  have hblank : OneLine "" := .ofChars _ rfl
  rw [Draft.Step.linesOf, Draft.linesOf_eq_flatMap, List.forall_mem_cons, List.forall_mem_append,
    List.forall_mem_flatMap]
  refine ⟨hopening, hbody, ?_⟩
  simp only [List.forall_mem_cons]
  exact ⟨hclosing, hblank, fun _ hline => absurd hline List.not_mem_nil⟩

lemma oneLine_cellStep {cell : Cell} (h : ∀ routine ∈ cell.routines, routine.OneLine)
    (artifact : Artifact) : ∀ line ∈ (cellStep cell).linesOf artifact, OneLine line.content := by
  have hregion : OneLine (cellRegion cell.op cell.type) :=
    (cell.op.oneLine_name.append (.ofChars _ rfl)).append cell.type.oneLine_shortName
  have hitems : AreOneLine ((cellItems cell).flatMap Item.steps) := by
    rw [areOneLine_iff, List.forall_mem_flatMap]
    intro item hitem
    rw [← areOneLine_iff]
    refine areOneLine_steps fun routine hroutine => h routine ?_
    simpa [hroutine, cellItems] using hitem
  refine oneLine_region hregion ?_
  simp only [List.forall_mem_cons]
  refine ⟨oneLine_write hitems _ _, oneLine_write (areOneLine_implSteps _ _) _ _,
    oneLine_write (areOneLine_arraySteps _ _) _ _, fun _ hstep => absurd hstep List.not_mem_nil⟩

lemma oneLine_chapterStep {chapter : Chapter}
    (h : ∀ cell ∈ chapter.cells, ∀ routine ∈ cell.routines, routine.OneLine) (artifact : Artifact) :
    ∀ line ∈ (chapterStep chapter).linesOf artifact, OneLine line.content := by
  refine oneLine_region chapter.op.oneLine_name ?_
  rw [List.forall_mem_cons, List.forall_mem_map]
  refine ⟨oneLine_write (areOneLine_traitSteps chapter.op) _ _, fun cell hcell => ?_⟩
  exact oneLine_cellStep (h cell hcell) artifact

/-- No line of a plan has a line feed in it if its kernels have none. -/
lemma oneLine_libraryLines {chapters : List Chapter}
    (h : ∀ routine ∈ plannedRoutines chapters, routine.OneLine)
    (artifact : Artifact) : ∀ line ∈ libraryLines chapters artifact, OneLine line.content := by
  have hchapters : ∀ line ∈ Draft.linesOf (chapters.map chapterStep) artifact,
      OneLine line.content := by
    rw [Draft.linesOf_map, List.forall_mem_flatMap]
    intro chapter hchapter
    refine oneLine_chapterStep (fun cell hcell routine hroutine => h routine ?_) artifact
    have hplanned : cell ∈ plannedCells chapters := List.mem_flatMap.mpr ⟨chapter, hchapter, hcell⟩
    exact List.mem_flatMap.mpr ⟨cell, hplanned, hroutine⟩
  have hprelude := oneLine_write areOneLine_prelude .kernels artifact
  have habout : OneLine (about.get artifact) := by
    cases artifact <;> exact .ofChars _ rfl
  rw [libraryLines, librarySteps, Draft.linesOf_append, List.forall_mem_append]
  refine ⟨?_, hchapters⟩
  rw [Draft.linesOf, Draft.linesOf, Draft.linesOf, List.append_nil, List.forall_mem_append]
  refine ⟨?_, hprelude⟩
  simp only [Draft.Step.linesOf, List.forall_mem_cons]
  refine ⟨.ofChars _ rfl, .append (.ofChars _ rfl) habout, .ofChars _ rfl, ?_⟩
  exact fun _ hline => absurd hline List.not_mem_nil

/-- A text of a plan is the text of the lines that its steps write. -/
lemma get_libraryTexts (chapters : List Chapter) (artifact : Artifact) :
    (libraryTexts chapters).get artifact =
      (Buffer.mk 0 (libraryLines chapters artifact).toArray).text := by
  rw [libraryTexts, Draft.texts, Bundle.get_map, Draft.extend, Bundle.get_ofFn, Draft.empty,
    Bundle.get_ofFn, Buffer.extend, Buffer.empty, Array.empty_append]

lemma libraryLines_ne_nil (chapters : List Chapter) (artifact : Artifact) :
    libraryLines chapters artifact ≠ [] := by
  simp [libraryLines, librarySteps, Draft.linesOf, Draft.Step.linesOf]

/-- The lines of a text of a plan are those that its steps write. -/
lemma textLines_libraryTexts {chapters : List Chapter}
    (h : ∀ routine ∈ plannedRoutines chapters, routine.OneLine)
    (artifact : Artifact) :
    Region.textLines ((libraryTexts chapters).get artifact) =
      (libraryLines chapters artifact).map Line.written ++ [""] := by
  rw [get_libraryTexts]
  refine textLines_text ?_ ?_
  · rw [Buffer.writtenLines, ne_eq, List.map_eq_nil_iff]
    exact libraryLines_ne_nil chapters artifact
  · rw [Buffer.writtenLines, List.forall_mem_map]
    exact fun line hline => Line.oneLine_written (oneLine_libraryLines h artifact line hline)

end Source

/-- The kernels of a recipe are those of its table. -/
lemma Recipe.exists_of_mem_chapters {recipe : Recipe} {routine : Routine}
    (h : routine ∈ plannedRoutines recipe.chapters) :
    ∃ op type tier, routine = recipe.table.routine op type tier := by
  obtain ⟨cell, hcell, hroutine⟩ := List.mem_flatMap.mp h
  obtain ⟨chapter, hchapter, hcell⟩ := List.mem_flatMap.mp hcell
  obtain ⟨op, -, rfl⟩ := List.mem_map.mp hchapter
  obtain ⟨type, -, rfl⟩ := List.mem_map.mp hcell
  obtain ⟨tier, -, rfl⟩ := List.mem_map.mp hroutine
  exact ⟨op, type, tier, rfl⟩

/-- What holds of the texts of a table, and of the empty one, holds of those of the kernels that are
planned with it. -/
lemma BindingTable.TextsHave.chapters {recipe : Recipe} {holds : String → Prop}
    (h : recipe.table.TextsHave holds) (hempty : holds "") :
    ∀ routine ∈ plannedRoutines recipe.chapters, routine.TextsHave holds := by
  intro routine hroutine
  obtain ⟨op, type, tier, rfl⟩ := Recipe.exists_of_mem_chapters hroutine
  exact h.routine hempty op type tier

/-- The kernels of a recipe whose table has no line feed in it have none. -/
lemma Recipe.oneLine_chapters {recipe : Recipe} (h : recipe.table.OneLine) :
    ∀ routine ∈ plannedRoutines recipe.chapters, routine.OneLine :=
  h.chapters (.ofChars [] rfl)

/-! ### The shipped table -/

/-- Whether a character may stand in a path: a letter, a digit, an underscore or a colon. -/
def isPathChar (c : Char) : Bool :=
  c.isAlphanum || c = '_' || c = ':'

/-- A text of letters, digits, underscores and colons. -/
def IsPath (text : String) : Prop :=
  ∀ c ∈ text.toList, isPathChar c = true

/-- A path that is given by its characters. -/
lemma IsPath.ofChars (chars : List Char) (h : chars.all isPathChar = true) :
    IsPath (String.ofList chars) := by
  rw [IsPath, String.toList_ofList]
  exact List.all_eq_true.mp h

lemma IsPath.oneLine {text : String} (h : IsPath text) : OneLine text :=
  fun hmem => absurd (h '\n' hmem) (by decide)

lemma isPath_family {family : BindingTable.MemoryFamily} (h : family ∈ BindingTable.shippedFamilies) :
    IsPath family.register ∧ ∀ {slot path}, family.path? slot = some path → IsPath path := by
  have hpaths : IsPath family.register ∧ IsPath family.alignedLoad ∧ IsPath family.unalignedLoad ∧
      IsPath family.alignedStore ∧ IsPath family.unalignedStore := by
    simp only [BindingTable.shippedFamilies, List.mem_cons, List.not_mem_nil, or_false] at h
    obtain rfl | rfl | rfl | rfl | rfl | rfl | rfl := h <;>
      exact ⟨.ofChars _ rfl, .ofChars _ rfl, .ofChars _ rfl, .ofChars _ rfl,
        .ofChars _ rfl⟩
  obtain ⟨hregister, halignedLoad, hunalignedLoad, halignedStore, hunalignedStore⟩ := hpaths
  refine ⟨hregister, fun {slot path} hpath => ?_⟩
  cases slot with
  | compute op => cases hpath
  | alignedLoad => exact Option.some.inj hpath ▸ halignedLoad
  | unalignedLoad => exact Option.some.inj hpath ▸ hunalignedLoad
  | alignedStore => exact Option.some.inj hpath ▸ halignedStore
  | unalignedStore => exact Option.some.inj hpath ▸ hunalignedStore

lemma isPath_shippedCompute {tier : Tier} {op : ArithOp} {type : ElementType} {path : String}
    (h : BindingTable.shippedCompute? tier op type = some path) : IsPath path := by
  have hpaths : (Tier.all.all fun tier => ArithOp.all.all fun op => ElementType.all.all fun type =>
      (BindingTable.shippedCompute? tier op type).all fun path => path.toList.all isPathChar) =
        true := by
    decide +kernel
  simp only [List.all_eq_true] at hpaths
  have hpath := hpaths tier tier.mem_all op op.mem_all type type.mem_all
  rw [h, Option.all_some] at hpath
  exact List.all_eq_true.mp hpath

/-- The paths and the register types of the shipped table. -/
lemma BindingTable.isPath_shipped {tier : Tier} {type : ElementType} :
    (∀ {slot binding}, shipped.binding? tier slot type = some binding → IsPath binding.path) ∧
      ∀ {register}, shipped.register? tier type = some register → IsPath register := by
  refine ⟨fun {slot binding} h => ?_, fun {register} h => ?_⟩
  · have hmemory : ((BindingTable.family? tier type).bind fun family =>
        (family.path? slot).bind fun path =>
        some (Binding.mk path family.pointer)) = some binding → IsPath binding.path := by
      intro hbind
      obtain ⟨family, hfamily, hpath⟩ := Option.bind_eq_some_iff.mp hbind
      obtain ⟨path, hpath, heq⟩ := Option.bind_eq_some_iff.mp hpath
      rw [← Option.some.inj heq]
      exact (isPath_family (List.mem_of_find?_eq_some hfamily)).2 hpath
    cases slot with
    | compute op =>
        obtain ⟨path, hpath, rfl⟩ := Option.map_eq_some_iff.mp h
        exact isPath_shippedCompute hpath
    | alignedLoad | unalignedLoad | alignedStore | unalignedStore => exact hmemory h
  · obtain ⟨family, hfamily, rfl⟩ := Option.map_eq_some_iff.mp h
    exact (isPath_family (List.mem_of_find?_eq_some hfamily)).1

/-- The shipped table has no line feed in it. -/
lemma BindingTable.oneLine_shipped : BindingTable.shipped.OneLine where
  binding h := (isPath_shipped.1 h).oneLine
  register h := (isPath_shipped.2 h).oneLine

end LaneKernels
