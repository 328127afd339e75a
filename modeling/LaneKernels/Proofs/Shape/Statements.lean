import Mathlib.Tactic
import LaneKernels.Proofs.Shape.Margins
import LaneKernels.Text.Blank

/-!
The steps of the three texts are tidy.

* Names and numbers have no brackets in them (`IsName.nested`).
* `Unbroken` is a text without brackets and white space, as the paths and the register types of a kernel
  should be. A call of such a path starts like a statement (`Unbroken.phrase`).
* The steps of the prelude, of traits and arrays, and of the items of a cell are tidy, of an accelerated
  kernel if its paths and its register type are unbroken (`tidy_steps`).
-/

namespace LaneKernels

open Text (Nested isBracket openedBy)
open Layout (Step Line linesAt)

/-! ### Texts without brackets -/

lemma isBracket_of_isPathChar {c : Char} (h : isPathChar c = true) : isBracket c = false := by
  rw [isBracket, Bool.or_eq_false_iff]
  constructor
  · unfold Text.closer?
    split
    · exact absurd h (by decide)
    · exact absurd h (by decide)
    · exact absurd h (by decide)
    · rfl
  · simp only [Text.isCloser, Bool.or_eq_false_iff, decide_eq_false_iff_not]
    refine ⟨⟨?_, ?_⟩, ?_⟩ <;> rintro rfl <;> exact absurd h (by decide)

/-- A name has no brackets in it. -/
lemma IsName.nested {name : String} (h : IsName name) : Nested name.toList := by
  refine Text.nested_of_forall fun c hc => isBracket_of_isPathChar ?_
  rw [isPathChar, show (c.isAlphanum || c = '_') = true from h c hc, Bool.true_or]

/-- A name between characters. -/
lemma Phrase.named {text name : String} {word chars : List Char} (h : Phrase text word)
    (hname : IsName name) : Phrase (text ++ name ++ String.ofList chars) (word ++ chars) :=
  h.fill hname.nested

lemma ArithOp.nested_symbol (op : ArithOp) : Nested op.symbol.toList := by
  cases op <;> decide

/-- A text without brackets and white space. -/
def Unbroken (text : String) : Prop :=
  ∀ c ∈ text.toList, isBracket c = false ∧ Text.isBlank c = false

lemma isBlank_of_isPathChar {c : Char} (h : isPathChar c = true) : Text.isBlank c = false := by
  have hrange : (0x30 ≤ c.toNat ∧ c.toNat ≤ 0x3A) ∨ (0x41 ≤ c.toNat ∧ c.toNat ≤ 0x7A) := by
    have hcases : (decide (0x41 ≤ c.val ∧ c.val ≤ 0x5A) || (0x61 ≤ c.val && c.val ≤ 0x7A) ||
        (0x30 ≤ c.val && c.val ≤ 0x39) || c = '_' || c = ':') = true := h
    simp only [Bool.or_eq_true, Bool.and_eq_true, decide_eq_true_eq, UInt32.le_iff_toNat_le] at hcases
    obtain (((h | h) | h) | rfl) | rfl := hcases
    · exact .inr ⟨h.1, h.2.trans (by decide)⟩
    · exact .inr ⟨.trans (by decide) h.1, h.2⟩
    · exact .inl ⟨h.1, h.2.trans (by decide)⟩
    · decide
    · decide
  simp only [Text.isBlank, Text.blankRanges, List.any_cons, List.any_nil, Bool.or_eq_false_iff,
    Bool.and_eq_false_iff, decide_eq_false_iff_not, and_true]
  omega

lemma IsPath.unbroken {text : String} (h : IsPath text) : Unbroken text :=
  fun c hc => ⟨isBracket_of_isPathChar (h c hc), isBlank_of_isPathChar (h c hc)⟩

lemma Unbroken.oneLine {text : String} (h : Unbroken text) : OneLine text :=
  fun hmem => absurd (h '\n' hmem).2 (by decide)

lemma Unbroken.nested {text : String} (h : Unbroken text) : Nested text.toList :=
  Text.nested_of_forall fun c hc => (h c hc).1

/-- Characters without blanks, and a bracket behind them, are not those of a marker: its third character
is a blank. -/
lemma apart_bracket {chars : List Char} (h : ' ' ∉ chars) (c : Char) :
    Region.apart (chars ++ ['(']) ['/', '/', ' ', c] = true := by
  match chars, h with
  | [], _ => simp [Region.apart]
  | [_], _ => simp [Region.apart]
  | [_, _], _ => simp [Region.apart]
  | _ :: _ :: third :: _, h =>
      have hthird : third ≠ ' ' := by
        rintro rfl
        exact h (by simp)
      simp [Region.apart, hthird]

/-- A call starts like a statement, even if its path is empty. -/
lemma Unbroken.phrase {path : String} (h : Unbroken path) (chars : List Char) :
    Phrase (path ++ String.ofList ('(' :: chars)) ('(' :: chars) := by
  have hblank : ' ' ∉ path.toList := fun hmem => absurd (h ' ' hmem).2 (by decide)
  have hbrace : '\x7d' ∉ path.toList := fun hmem => absurd (h '\x7d' hmem).1 (by decide)
  have hstart : isStart (path.toList ++ ['(']) = true := by
    rw [isStart, apart_bracket hblank, apart_bracket hblank, Bool.and_true, Bool.and_true]
    cases hpath : path.toList with
    | nil => rfl
    | cons c rest =>
        rw [hpath, List.mem_cons, not_or] at hblank hbrace
        simp [Ne.symm hblank.1, Ne.symm hbrace.1]
  refine ⟨⟨_, hstart, chars, ?_⟩, fun opened => ?_⟩
  · rw [String.toList_append, String.toList_ofList, List.append_assoc, List.singleton_append]
  · rw [String.toList_append, String.toList_ofList, Text.openedBy_append, h.nested.openedBy,
      Option.bind_some]

/-! ### The prelude -/

lemma closes_brace : Closes "\x7d" :=
  ⟨[], String.toList_ofList, .nil⟩

/-- Lines that are made alike. -/
lemma Tidy.lines {α : Type} {text : α → String} {xs : List α} (h : ∀ x ∈ xs, IsStatement (text x)) :
    Tidy (xs.map fun x => .line (text x)) := by
  rw [List.map_eq_flatMap]
  exact .flatMap fun x hx => .line (h x hx) .nil

/-- A line that is given by its characters. -/
lemma Tidy.lineChars {chars : List Char} {rest : List Step} (hstart : isStart chars = true)
    (hnested : openedBy [] chars = some []) (hrest : Tidy rest) :
    Tidy (.line (String.ofList chars) :: rest) :=
  .line (.ofChars chars hstart hnested) hrest

/-- Documentation that is given by its characters. -/
lemma Tidy.docChars {chars : List Char} {rest : List Step} (h : chars.any isBracket = false)
    (hrest : Tidy rest) : Tidy (.doc (String.ofList chars) :: rest) := by
  refine .doc (fun c hc => ?_) hrest
  rw [String.toList_ofList] at hc
  exact Bool.eq_false_iff.mpr (List.any_eq_false.mp h c hc)

namespace Source

variable (op : ArithOp) (type : ElementType) (tier : Tier)

lemma phrase_tierPath : Phrase (tierPath tier) "Tier::".toList :=
  (Phrase.ofChars "Tier::".toList rfl).append tier.isName_enumName.nested

lemma isStatement_guardLine : IsStatement (guardLine tier) :=
  ((Phrase.ofChars "#[cfg(".toList rfl).named tier.isName_buildGuard).statement rfl

lemma tidy_imports : Tidy imports := by
  have harch : ∀ arch ∈ ["x86", "x86_64"], Nested arch.toList := by decide
  refine .append (.flatMap fun arch hmem => .line ?_ <| .lineChars rfl rfl <| .line ?_ .nil) <|
    .lineChars rfl rfl <| .blank <| .lineChars rfl rfl <| .lineChars rfl rfl <| .blank .nil
  all_goals exact ((Phrase.ofChars _ rfl).fill (harch arch hmem)).statement rfl

set_option maxRecDepth 2000 in
lemma tidy_tierEnum : Tidy tierEnum := by
  have htiers : ∀ tier ∈ Tier.all, IsStatement s!"{tier.enumName}," := by
    intro tier _
    cases tier <;> exact ((Phrase.ofChars _ rfl).extend _).statement rfl
  exact .docChars rfl <| .lineChars rfl rfl <|
    .block (.ofChars _ rfl rfl) closes_brace (.lines htiers) <| .blank .nil

lemma tidy_availabilityArm : Tidy (availabilityArm tier) := by
  refine .line (isStatement_guardLine tier) ?_
  cases hfound : tier.detection? with
  | none => exact .line (((phrase_tierPath tier).extend _).statement rfl) .nil
  | some feature =>
      have hname : IsName feature := by
        cases tier <;> cases hfound <;> exact .ofChars _ rfl
      exact .line ((((phrase_tierPath tier).extend _).named hname).statement rfl) .nil

lemma isStatement_tierList : IsStatement tierList := by
  have hpaths : Nested (", ".intercalate (Tier.all.map tierPath)).toList := by
    decide +kernel
  exact (((Phrase.ofChars _ rfl).named (isName_repr _)).fill hpaths).statement rfl

lemma tidy_matchSelf {arms : List Step} (h : Tidy arms) : Tidy [matchSelf arms] :=
  .block (.ofChars _ rfl rfl) closes_brace h .nil

lemma tidy_constMethod {chars : List Char} {body rest : List Step} (h : openedBy [] chars = some [])
    (hbody : Tidy body) (hrest : Tidy rest) :
    Tidy (constMethod (String.ofList chars) body :: rest) :=
  .block (((Phrase.ofChars "pub const fn ".toList rfl).extend chars).statement h) closes_brace hbody
    hrest

lemma tidy_tierMethods : Tidy tierMethods := by
  have hnames : ∀ tier ∈ Tier.all, IsStatement s!"{tierPath tier} => \"{tier.name}\"," := fun tier _ =>
    (((phrase_tierPath tier).extend _).named tier.isName_name).statement rfl
  have hwidths : ∀ tier ∈ Tier.all, IsStatement s!"{tierPath tier} => {tier.registerBits}," :=
    fun tier _ => (((phrase_tierPath tier).extend _).named (isName_repr _)).statement rfl
  have harms : Tidy (Tier.all.flatMap availabilityArm ++ [.line "_ => false,"]) :=
    .append (.flatMap fun tier _ => tidy_availabilityArm tier) (.lineChars rfl rfl .nil)
  refine .block (.ofChars _ rfl rfl) closes_brace ?_ <| .blank .nil
  exact .line isStatement_tierList <| .blank <|
    tidy_constMethod rfl (tidy_matchSelf (.lines hnames)) <| .blank <|
    tidy_constMethod rfl (tidy_matchSelf (.lines hwidths)) <| .blank <|
    .docChars rfl <| tidy_constMethod rfl (.lineChars rfl rfl .nil) <| .blank <|
    .docChars rfl <| tidy_constMethod rfl (.lineChars rfl rfl .nil) <| .blank <|
    .docChars rfl <| .lineChars rfl rfl <|
    .block (.ofChars _ rfl rfl) closes_brace (tidy_matchSelf harms) .nil

lemma tidy_tierDisplay : Tidy tierDisplay :=
  .block (.ofChars _ rfl rfl) closes_brace
    (.block (.ofChars _ rfl rfl) closes_brace (.lineChars rfl rfl .nil) .nil) <| .blank .nil

lemma tidy_prelude : Tidy prelude :=
  ((tidy_imports.append tidy_tierEnum).append tidy_tierMethods).append tidy_tierDisplay

/-! ### Traits and arrays -/

set_option maxRecDepth 2000 in
lemma tidy_traitSteps : Tidy (traitSteps op) := by
  have hname := op.isName_name
  refine .line ?_ <| .lineChars rfl rfl <| .lineChars rfl rfl <|
    .block ?_ closes_brace (.docChars rfl <| .line ?_ <| .blank <|
      .docChars rfl <| .block ?_ closes_brace (.line ?_ <| .line ?_ <| .lineChars rfl rfl <|
        .line ?_ .nil) <| .blank <|
      .docChars rfl <| .line ?_ .nil) <| .blank .nil
  · exact (((Phrase.ofChars _ rfl).named hname).fill op.nested_symbol).statement rfl
  · exact ((Phrase.ofChars _ rfl).named op.isName_traitName).statement rfl
  all_goals exact ((Phrase.ofChars _ rfl).named hname).statement rfl

lemma tidy_macroSteps : Tidy (macroSteps op) := by
  have hmacro := op.isName_macroName
  have hclose : Closes "\x7d;" := ⟨[';'], String.toList_ofList, by decide⟩
  refine .line ?_ <| .lineChars rfl rfl <|
    .block ?_ closes_brace (.block (.ofChars _ rfl rfl) hclose (.line ?_ .nil) .nil) <| .blank .nil
  · exact (((Phrase.ofChars _ rfl).named hmacro).named op.isName_name).statement rfl
  · exact ((Phrase.ofChars _ rfl).append hmacro.nested).statement rfl
  · exact (((Phrase.ofChars _ rfl).named op.isName_traitName).named op.isName_name).statement rfl

lemma tidy_implSteps : Tidy (implSteps op type) := by
  have hop := op.isName_name
  have htype := type.isName_shortName
  refine .block ?_ closes_brace (.block ?_ closes_brace (.line ?_ .nil) <| .blank <|
    .block ?_ closes_brace (.line ?_ .nil) .nil) .nil
  · exact (((Phrase.ofChars _ rfl).named op.isName_traitName).append htype.nested).statement rfl
  · exact (((((Phrase.ofChars _ rfl).named hop).named htype).named htype).named htype).statement rfl
  · exact ((Phrase.ofChars _ rfl).named (isName_kernelName op type)).statement rfl
  · exact (((((Phrase.ofChars _ rfl).named hop).named htype).named htype).named htype).statement rfl
  · exact ((Phrase.ofChars _ rfl).named (isName_arrayName op type)).statement rfl

lemma tidy_arraySteps : Tidy (arraySteps op type) := by
  have htype := type.isName_shortName
  have harray := isName_arrayName op type
  refine .line ?_ <| .block ?_ closes_brace (.lineChars rfl rfl <| .line ?_ .nil) .nil
  · exact (((Phrase.ofChars _ rfl).named op.isName_name).named htype).statement rfl
  · exact (((((Phrase.ofChars _ rfl).named harray).named htype).named htype).named htype).statement rfl
  · exact ((Phrase.ofChars _ rfl).named (isName_kernelName op type)).statement rfl

/-! ### Kernels -/

lemma isStatement_signature {name : String} (h : IsName name) : IsStatement (signature name type) := by
  have htype := type.isName_shortName
  exact (((((Phrase.ofChars _ rfl).named h).named htype).named htype).named htype).statement rfl

lemma isStatement_elementStatement : IsStatement (elementStatement op type) := by
  have hvalue : IsStatement (op.elementExpression type "*a.add(i)" "*b.add(i)") := by
    rw [ArithOp.elementExpression]
    split
    · exact ((((Phrase.ofChars _ rfl).extend _).fill op.nested_symbol).extend _).statement rfl
    · have hreceiver := ((Phrase.ofChars ['('] rfl).extend "*a.add(i)".toList).extend [')', '.']
      exact (((hreceiver.named op.isName_wrappingMethod).extend _).extend _).statement rfl
  exact ((Phrase.ofChars _ rfl).fill hvalue.nested).statement rfl

lemma tidy_defaultSteps : Tidy (defaultSteps op type) := by
  have hloop : Tidy [.block "for i in 0..len" "\x7d" [.line (elementStatement op type)]] :=
    .block (.ofChars _ rfl rfl) closes_brace (.line (isStatement_elementStatement op type) .nil) .nil
  refine .line ?_ <| .lineChars rfl rfl <| .lineChars rfl rfl <|
    .lineChars rfl rfl <| .lineChars rfl rfl <|
    .block (isStatement_signature type (isName_defaultName op type)) closes_brace hloop <| .blank .nil
  exact (((Phrase.ofChars _ rfl).named op.isName_name).named
    type.isName_shortName).statement rfl

lemma tidy_variantEntry : Tidy (variantEntry op type tier) := by
  refine .line (isStatement_guardLine tier) <| .line ?_ .nil
  have hpath := ((phrase_tierPath tier).statement rfl).nested
  have hname := isName_routineName op type tier
  exact (((Phrase.ofChars _ rfl).fill hpath).named hname).statement rfl

lemma tidy_variantsSteps (tiers : List Tier) : Tidy (variantsSteps op type tiers) := by
  have hop := op.isName_name
  have htype := type.isName_shortName
  have hentries : Tidy ([.line "let mut variants = Vec::new();"] ++
      tiers.flatMap (variantEntry op type) ++ [.line "variants"]) :=
    .append (.append (.lineChars rfl rfl .nil) (.flatMap fun tier _ =>
      tidy_variantEntry op type tier)) (.lineChars rfl rfl .nil)
  refine .line ?_ <| .lineChars rfl rfl <| .block ?_ closes_brace hentries <| .blank .nil
  · exact (((Phrase.ofChars _ rfl).named hop).named htype).statement rfl
  · exact (((Phrase.ofChars _ rfl).named (isName_variantsName op type)).named htype).statement rfl

lemma tidy_dispatcherSteps : Tidy (dispatcherSteps op type) := by
  have hop := op.isName_name
  have htype := type.isName_shortName
  have hdefault := isName_defaultName op type
  refine .line ?_ <| .lineChars rfl rfl <| .lineChars rfl rfl <|
    .lineChars rfl rfl <| .line ?_ <|
    .block (isStatement_signature type (isName_kernelName op type)) closes_brace
      (.line ?_ <| .line ?_ <| .lineChars rfl rfl .nil) <| .blank .nil
  · exact (((Phrase.ofChars _ rfl).named hop).named htype).statement rfl
  · exact ((Phrase.ofChars _ rfl).named hdefault).statement rfl
  · exact ((Phrase.ofChars _ rfl).named htype).statement rfl
  · exact (((((Phrase.ofChars _ rfl).named hop).named htype).named hdefault).named
      (isName_variantsName op type)).statement rfl

end Source

/-- No path and no register type of the kernel has a bracket or white space in it. -/
abbrev Routine.Unbroken (routine : Routine) : Prop :=
  routine.TextsHave LaneKernels.Unbroken

namespace Source

section

variable {routine : Routine} (h : routine.Unbroken)

include h

lemma nested_pointerArgument (binding : Binding) {pointer : String} (hpointer : Nested pointer.toList) :
    Nested (binding.pointerArgument pointer routine.register).toList := by
  rw [Binding.pointerArgument]
  split
  · exact hpointer
  · simp only [String.toList_append, toString]
    exact ((hpointer.append (by decide)).append h.register.nested).append (by decide)

lemma nested_loadCall {binding : Binding} (hpath : Unbroken binding.path) {pointer : String}
    (hpointer : Nested pointer.toList) : Nested (binding.loadCall pointer routine.register).toList :=
  (((hpath.phrase []).fill (nested_pointerArgument h binding hpointer)).statement rfl).nested

lemma isStatement_loadStatement {operand : String} (hoperand : IsName operand) :
    IsStatement (loadStatement routine operand) := by
  have hpointer : Nested (operand ++ ".add(i)").toList := by
    rw [String.toList_append]
    exact hoperand.nested.append (by decide)
  exact ((((((Phrase.ofChars _ rfl).named hoperand).fill h.register.nested).named
    hoperand).fill (nested_loadCall h h.alignedLoad hpointer)).fill
    (nested_loadCall h h.unalignedLoad hpointer)).statement rfl

lemma isStatement_storeStatement {binding : Binding} (hpath : Unbroken binding.path) :
    IsStatement (storeStatement routine binding) := by
  have hpointer : Nested "c.add(i)".toList := by decide
  have hargument := nested_pointerArgument h binding hpointer
  exact ((((hpath.phrase []).fill hargument).fill (IsName.ofChars "vec_c".toList rfl).nested).extend
    [';']).statement rfl

lemma isStatement_computeStatement : IsStatement (computeStatement routine) := by
  have hcall : Nested (routine.compute.computeCall "vec_a" "vec_b").toList :=
    ((((((h.compute.phrase []).extend _).extend _).extend _).extend _).statement rfl).nested
  exact (((Phrase.ofChars _ rfl).fill h.register.nested).fill hcall).statement rfl

/-- The main loop has a branch for each alignment of the result. -/
lemma tidy_mainLoop {rest : List Step} (hrest : Tidy rest) : Tidy (mainLoop routine :: rest) := by
  have hbranches : Tidy [.block "if aligned_c" "\x7d else \x7b"
        [.line (storeStatement routine routine.alignedStore)],
      .indent [.line (storeStatement routine routine.unalignedStore)], .line "\x7d",
      .line s!"i += {routine.stride};"] :=
    .branches (.ofChars _ rfl rfl) (.line (isStatement_storeStatement h h.alignedStore) .nil)
      (.line (isStatement_storeStatement h h.unalignedStore) .nil) <|
      .line (((Phrase.ofChars _ rfl).named (isName_repr _)).statement rfl) .nil
  refine .block ?_ closes_brace ?_ hrest
  · exact ((Phrase.ofChars _ rfl).named (isName_repr _)).statement rfl
  · exact .line (isStatement_loadStatement h (.ofChars ['a'] rfl)) <|
      .line (isStatement_loadStatement h (.ofChars ['b'] rfl)) <|
      .line (isStatement_computeStatement h) hbranches

lemma tidy_routineSteps : Tidy (routineSteps routine) := by
  have hop := routine.op.isName_name
  have htype := routine.type.isName_shortName
  have hfeature : Tidy (routine.tier.targetFeature?.map fun feature =>
      Step.line s!"#[target_feature(enable = \"{feature}\")]").toList := by
    cases hfound : routine.tier.targetFeature? with
    | none => exact .nil
    | some feature =>
        have hname : IsName feature := by
          revert hfound
          cases routine.tier <;> rintro ⟨⟩ <;> exact .ofChars _ rfl
        exact .line (((Phrase.ofChars _ rfl).named hname).statement rfl) .nil
  have hprobes : Tidy (["a", "b", "c"].map fun pointer =>
      Step.line (probeStatement routine.tier pointer)) := by
    refine .lines fun pointer hpointer => ?_
    have hname : IsName pointer := by
      simp only [List.mem_cons, List.not_mem_nil, or_false] at hpointer
      obtain rfl | rfl | rfl := hpointer <;> exact .ofChars _ rfl
    exact ((((Phrase.ofChars _ rfl).named hname).named hname).named (isName_repr _)).statement rfl
  have hloops : Tidy [.line "let mut i = 0;", mainLoop routine, tailLoop routine] :=
    .lineChars rfl rfl <| tidy_mainLoop h <| .block (.ofChars _ rfl rfl) closes_brace
      (.line (isStatement_elementStatement _ _) <| .lineChars rfl rfl .nil) .nil
  have hrelease : Tidy (routine.tier.release?.map fun release => Step.line s!"{release};").toList := by
    cases routine.tier with
    | mmx => exact .line (((Phrase.ofChars _ rfl).extend [';']).statement rfl) .nil
    | sse | sse2 | avx | avx2 => exact .nil
  refine .append (.append (.line ?_ <| .line (isStatement_guardLine _) .nil) hfeature) <|
    .block (isStatement_signature _ (isName_routineName _ _ _)) closes_brace
      ((hprobes.append hloops).append hrelease) <| .blank .nil
  exact ((((((Phrase.ofChars _ rfl).named hop).named htype).named (isName_repr _)).named
    routine.tier.isName_name)).statement rfl

end

lemma tidy_steps {item : Item} (h : ∀ routine, item = .routine routine → routine.Unbroken) :
    Tidy item.steps := by
  cases item with
  | default op type => exact tidy_defaultSteps op type
  | routine routine => exact tidy_routineSteps (h routine rfl)
  | variants op type tiers => exact tidy_variantsSteps op type tiers
  | dispatcher op type => exact tidy_dispatcherSteps op type

end Source

end LaneKernels
