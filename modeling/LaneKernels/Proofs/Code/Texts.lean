import Mathlib.Tactic
import LaneKernels.Code.Library
import LaneKernels.Proofs.Inventory.Reading
import LaneKernels.Source.Arrays
import LaneKernels.Source.Traits

/-!
The generated texts are the layout of the code of their functions.

* An item of the kernel text is documentation, its attributes and the function that it defines
  (`steps_eq_function`), or a list with its entries (`variantsSteps_eq`).
* So are the trait and the macro of an operation, its implementation for a type, and the function of the
  array text (`traitSteps_eq`, `macroSteps_eq`, `implSteps_eq`, `arraySteps_eq`).
* What a library has under a name stands in its texts under that name (`exists_item_of_function?`,
  `exists_item_of_entries?`, `exists_cell_of_function?`).
-/

namespace LaneKernels.Code

open Layout (Step)
open Source (Item)

/-- The step writes documentation. -/
def IsDocumentation : Step → Prop
  | .line text => Heads ['/', '/', '/'] text
  | .doc _ => True
  | _ => False

/-- The steps are documentation of some steps, and these. -/
inductive Documents (body : List Step) : List Step → Prop where
  | start : Documents body body
  | more {step : Step} {rest : List Step} (h : IsDocumentation step) (hrest : Documents body rest) :
    Documents body (step :: rest)

/-! ### Texts in parts -/

/-- A text with an ending, between others. -/
lemma append_ending (left name ending right : String) :
    left ++ (name ++ ending) ++ right = left ++ name ++ (ending ++ right) := by
  simp only [String.append_assoc]

/-- A text in brackets. -/
lemma append_brackets (opening left name right closing : String) :
    opening ++ (left ++ name ++ right) ++ closing = opening ++ left ++ name ++ (right ++ closing) := by
  simp only [String.append_assoc]

/-- The spelling of parameters, which names the type of the elements three times, behind a head. -/
lemma append_parameters (head element first second third last : String) :
    head ++ (first ++ element ++ second ++ element ++ third ++ element ++ last) =
      head ++ first ++ element ++ second ++ element ++ third ++ element ++ last := by
  simp only [String.append_assoc]

/-- The same behind a name with an ending. -/
lemma append_method (head name ending element first second third last : String) :
    head ++ (name ++ ending) ++ (first ++ element ++ second ++ element ++ third ++ element ++ last) =
      head ++ name ++ (ending ++ first) ++ element ++ second ++ element ++ third ++ element ++ last := by
  simp only [String.append_assoc]

section

variable (op : ArithOp) (type : ElementType)

/-! ### Kernels -/

lemma steps_elementBody : (elementBody op type).steps = [.line (Source.elementStatement op type)] := by
  rw [elementBody, Source.elementStatement, ArithOp.elementExpression]
  cases type.isFloat <;> rfl

lemma steps_defaultBody : (defaultBody op type).steps =
    [.block "for i in 0..len" "\x7d" [.line (Source.elementStatement op type)]] := by
  rw [defaultBody, steps, steps_elementBody]

lemma steps_mainLoop (routine : Routine) : (mainLoop routine).steps = [Source.mainLoop routine] := by
  have hhead : "while " ++ ("i + " ++ toString routine.lastLane) ++ " < len" =
      "while i + " ++ toString routine.lastLane ++ " < len" :=
    congrArg (· ++ " < len") String.append_assoc.symm
  exact congrArg (fun head => [Step.block head "\x7d" (registersBody routine).steps]) hhead

lemma steps_tailLoop (routine : Routine) :
    (tailLoop routine.op routine.type).steps = [Source.tailLoop routine] := by
  rw [tailLoop, steps, inOrder, List.foldr_cons, steps, steps_elementBody]
  rfl

lemma steps_releaseBody (tier : Tier) : (releaseBody tier).steps =
    (tier.release?.map fun release => Step.line s!"{release};").toList := by
  rw [releaseBody]
  cases tier.release? <;> rfl

lemma steps_routineBody (routine : Routine) : (routineBody routine).steps =
    (["a", "b", "c"].map fun pointer => Step.line (Source.probeStatement routine.tier pointer)) ++
      [.line "let mut i = 0;", Source.mainLoop routine, Source.tailLoop routine] ++
      (routine.tier.release?.map fun release => Step.line s!"{release};").toList := by
  rw [← steps_releaseBody, routineBody, inOrder]
  simp only [List.foldr_cons, List.foldr_nil, steps, steps_mainLoop, steps_tailLoop, List.append_nil]
  rfl

/-- The head of a function with pointers. -/
lemma signature_eq (name : String) :
    "pub unsafe fn " ++ name ++ Form.pointers.text type.shortName = Source.signature name type :=
  append_parameters _ _ _ _ _ _

/-- The attributes of the function that an item of the kernel text defines: its build symbol, and the
feature that it is compiled for. -/
def attributes : Item → List Step
  | .routine r =>
    .line s!"#[cfg({r.tier.buildGuard})]" :: (r.tier.targetFeature?.map fun feature =>
      Step.line s!"#[target_feature(enable = \"{feature}\")]").toList
  | _ => []

lemma defaultSteps_eq : Documents
    [Function.step ⟨.pointers, type, defaultBody op type⟩ ("pub unsafe fn " ++ defaultName op type)
      type.shortName, .blank] (Source.defaultSteps op type) := by
  rw [Function.step, steps_defaultBody, signature_eq, Source.defaultSteps]
  refine .more ?_ (.more ?_ (.more ?_ (.more ?_ (.more ?_ .start))))
  · exact ((((Heads.ofChars ['/', '/', '/'] _).append _).append _).append _).append _
  all_goals exact .ofChars ['/', '/', '/'] _

lemma routineSteps_eq (routine : Routine) : Documents
    (attributes (.routine routine) ++
      [Function.step ⟨.pointers, routine.type, routineBody routine⟩ ("pub unsafe fn " ++ routine.name)
        routine.type.shortName, .blank]) (Source.routineSteps routine) := by
  rw [Function.step, steps_routineBody, signature_eq, Source.routineSteps]
  refine .more ?_ .start
  exact ((((((((Heads.ofChars ['/', '/', '/'] _).append _).append _).append _).append _).append _).append
    _).append _).append _

lemma dispatcherSteps_eq : Documents
    [Function.step ⟨.pointers, type, dispatcherBody op type⟩ ("pub unsafe fn " ++ kernelName op type)
      type.shortName, .blank] (Source.dispatcherSteps op type) := by
  rw [Function.step, signature_eq, Source.dispatcherSteps]
  refine .more ?_ (.more ?_ (.more ?_ (.more ?_ (.more ?_ .start))))
  · exact ((((Heads.ofChars ['/', '/', '/'] _).append _).append _).append _).append _
  · exact .ofChars ['/', '/', '/'] _
  · exact .ofChars ['/', '/', '/'] _
  · exact .ofChars ['/', '/', '/'] _
  · exact ((Heads.ofChars ['/', '/', '/'] _).append _).append _

/-- An item of the kernel text that defines a function is documentation, its attributes and the function. -/
theorem steps_eq_function {defined : String → Bool} {item : Item} {function : Function}
    (h : itemFunction? defined item = some function) : Documents
      (attributes item ++
        [function.step ("pub unsafe fn " ++ item.name) function.type.shortName, .blank]) item.steps := by
  cases item with
  | default op type =>
      cases h
      exact defaultSteps_eq op type
  | routine routine =>
      rw [itemFunction?] at h
      split at h
      · cases h
        exact routineSteps_eq routine
      · cases h
  | variants op type tiers => cases h
  | dispatcher op type =>
      cases h
      exact dispatcherSteps_eq op type

/-- An item of the kernel text that lists accelerated kernels is documentation, an attribute, and a
function that makes a list of its entries. -/
theorem variantsSteps_eq (tiers : List Tier) : Documents
    [.line "#[allow(unused_mut)]",
      .block s!"pub fn {variantsName op type}() -> Vec<Variant<{type.shortName}>>" "\x7d"
        ([.line "let mut variants = Vec::new();"] ++
          (tiers.map (tierEntry op type)).flatMap Entry.steps ++ [.line "variants"]), .blank]
    (Source.variantsSteps op type tiers) := by
  have hentries : (tiers.map (tierEntry op type)).flatMap Entry.steps =
      tiers.flatMap (Source.variantEntry op type) := by
    rw [List.flatMap_map]
    rfl
  rw [hentries, Source.variantsSteps]
  refine .more ?_ .start
  exact ((((Heads.ofChars ['/', '/', '/'] _).append _).append _).append _).append _

/-! ### Ways into a kernel -/

lemma steps_rawBody : (rawBody op type).steps =
    [.line s!"crate::kernels::{kernelName op type}(a, b, c, len)"] :=
  rfl

lemma steps_arrayMethodBody : (arrayMethodBody op type).steps =
    [.line s!"crate::arrays::{arrayName op type}(a, b, c)"] :=
  rfl

lemma steps_sliceBody : (sliceBody op).steps =
    [.line s!"assert_eq!(a.len(), b.len(), \"{op.name}: input lengths differ\");",
      .line s!"assert!(c.len() >= a.len(), \"{op.name}: output shorter than inputs\");",
      .line "// SAFETY: lengths checked above; `c` is an exclusive borrow.",
      .line s!"unsafe \x7b Self::{op.name}_raw(a.as_ptr(), b.as_ptr(), c.as_mut_ptr(), a.len()) \x7d"] := by
  have hcall := append_brackets "unsafe \x7b " "Self::" (op.name ++ "_raw")
    "(a.as_ptr(), b.as_ptr(), c.as_mut_ptr(), a.len())" " \x7d"
  exact congrArg (fun text => (sliceBody op).steps.take 3 ++ [Step.line text])
    (hcall.trans (append_ending _ _ _ _))

lemma steps_arrayBody : (arrayBody op type).steps =
    [.line "// SAFETY: all three arrays hold N elements and `c` is an exclusive borrow.",
      .line s!"unsafe \x7b crate::kernels::{kernelName op type}(a.as_ptr(), b.as_ptr(), c.as_mut_ptr(), N) \x7d"] :=
  congrArg (fun text => [_, Step.line text]) (append_brackets "unsafe \x7b " "crate::kernels::"
    (kernelName op type) "(a.as_ptr(), b.as_ptr(), c.as_mut_ptr(), N)" " \x7d")

lemma steps_macroBody : (macroBody op).steps =
    [.line s!"$crate::{op.traitName}::{op.name}_array(&$a, &$b, &mut $c)"] :=
  congrArg (fun text => [Step.line text])
    (append_ending ("$crate::" ++ op.traitName ++ "::") op.name "_array" "(&$a, &$b, &mut $c)")

/-- The trait of an operation is documentation and three methods, the one for slices with its code. -/
theorem traitSteps_eq : ∃ aboutRaw aboutSlice aboutArray, Documents
    [.block s!"pub trait {op.traitName}: Copy" "\x7d"
      [.doc aboutRaw,
        .line ("unsafe fn " ++ rawMethod op ++ Form.pointers.text "Self" ++ ";"),
        .blank,
        .doc aboutSlice,
        Function.step ⟨.slices, type, sliceBody op⟩ ("fn " ++ sliceMethod op) "Self",
        .blank,
        .doc aboutArray,
        .line ("fn " ++ arrayMethod op ++ Form.arrays.text "Self" ++ ";")], .blank]
    (Source.traitSteps op) := by
  have hraw : "unsafe fn " ++ rawMethod op ++ Form.pointers.text "Self" ++ ";" =
      s!"unsafe fn {op.name}_raw(a: *const Self, b: *const Self, c: *mut Self, len: usize);" :=
    String.append_assoc.trans (append_ending "unsafe fn " op.name "_raw" _)
  have hslice : "fn " ++ sliceMethod op ++ Form.slices.text "Self" =
      s!"fn {op.name}_slice(a: &[Self], b: &[Self], c: &mut [Self])" :=
    append_ending "fn " op.name "_slice" _
  have harray : "fn " ++ arrayMethod op ++ Form.arrays.text "Self" ++ ";" =
      s!"fn {op.name}_array<const N: usize>(a: &[Self; N], b: &[Self; N], c: &mut [Self; N]);" :=
    String.append_assoc.trans (append_ending "fn " op.name "_array" _)
  rw [hraw, harray, Function.step, hslice, steps_sliceBody, Source.traitSteps]
  refine ⟨_, _, _, .more ?_ (.more ?_ (.more ?_ .start))⟩
  · exact ((((Heads.ofChars ['/', '/', '/'] _).append _).append _).append _).append _
  · exact .ofChars ['/', '/', '/'] _
  · exact .ofChars ['/', '/', '/'] _

/-- The macro of an operation is documentation, an attribute and one rule with its code. -/
theorem macroSteps_eq : Documents
    [.line "#[macro_export]",
      .block s!"macro_rules! {op.macroName}" "\x7d"
        [.block "($a:expr, $b:expr, $c:expr $(,)?) =>" "\x7d;" (macroBody op).steps], .blank]
    (Source.macroSteps op) := by
  rw [steps_macroBody, Source.macroSteps]
  refine .more ?_ .start
  exact ((((Heads.ofChars ['/', '/', '/'] _).append _).append _).append _).append _

/-- The implementation of an operation's trait for a type is its methods. -/
theorem implSteps_eq : Source.implSteps op type =
    [.block s!"impl {op.traitName} for {type.shortName}" "\x7d"
      [Function.step ⟨.pointers, type, rawBody op type⟩ ("unsafe fn " ++ rawMethod op) type.shortName,
        .blank,
        Function.step ⟨.arrays, type, arrayMethodBody op type⟩ ("fn " ++ arrayMethod op)
          type.shortName]] := by
  have hraw : "unsafe fn " ++ rawMethod op ++ Form.pointers.text type.shortName =
      s!"unsafe fn {op.name}_raw(a: *const {type.shortName}, b: *const {type.shortName}, c: *mut {type.shortName}, len: usize)" :=
    append_method "unsafe fn " op.name "_raw" _ _ _ _ _
  have harray : "fn " ++ arrayMethod op ++ Form.arrays.text type.shortName =
      s!"fn {op.name}_array<const N: usize>(a: &[{type.shortName}; N], b: &[{type.shortName}; N], c: &mut [{type.shortName}; N])" :=
    append_method "fn " op.name "_array" _ _ _ _ _
  rw [Function.step, Function.step, hraw, harray, steps_rawBody, steps_arrayMethodBody]
  rfl

/-- The function of the array text is documentation and its code. -/
theorem arraySteps_eq : Documents
    [Function.step ⟨.arrays, type, arrayBody op type⟩ ("pub fn " ++ arrayName op type) type.shortName]
    (Source.arraySteps op type) := by
  have hhead : "pub fn " ++ arrayName op type ++ Form.arrays.text type.shortName =
      s!"pub fn {arrayName op type}<const N: usize>(a: &[{type.shortName}; N], b: &[{type.shortName}; N], c: &mut [{type.shortName}; N])" :=
    append_parameters _ _ _ _ _ _
  rw [Function.step, hhead, steps_arrayBody, Source.arraySteps]
  refine .more ?_ .start
  exact ((((Heads.ofChars ['/', '/', '/'] _).append _).append _).append _).append _

end

/-! ### What a library refers to -/

section

variable {cells : List Cell} {defined : String → Bool} {available : TierSet} {caller : ElementType}
  {name : String}

/-- A kernel stands in the kernel text under its name. -/
theorem exists_item_of_function? {function : Function}
    (h : (Library.ofCells cells defined available).function? caller (.kernel name) = some function) :
    ∃ cell ∈ cells, ∃ item ∈ Source.cellItems cell, Documents
      (attributes item ++
        [function.step ("pub unsafe fn " ++ name) function.type.shortName, .blank]) item.steps := by
  obtain ⟨item, hfind, hfunction⟩ := Option.bind_eq_some_iff.mp h
  obtain ⟨cell, hcell, hitem⟩ := List.mem_flatMap.mp (List.mem_of_find?_eq_some hfind)
  have hname := List.find?_some hfind
  obtain rfl : item.name = name := of_decide_eq_true hname
  exact ⟨cell, hcell, item, hitem, steps_eq_function hfunction⟩

/-- A list of kernels stands in the kernel text under its name. -/
theorem exists_item_of_entries? {entries : List Entry}
    (h : (Library.ofCells cells defined available).entries? name = some entries) :
    ∃ cell ∈ cells, ∃ item ∈ Source.cellItems cell, ∃ type : ElementType, Documents
      [.line "#[allow(unused_mut)]",
        .block s!"pub fn {name}() -> Vec<Variant<{type.shortName}>>" "\x7d"
          ([.line "let mut variants = Vec::new();"] ++ entries.flatMap Entry.steps ++
            [.line "variants"]), .blank] item.steps := by
  obtain ⟨item, hfind, hentries⟩ := Option.bind_eq_some_iff.mp h
  obtain ⟨cell, hcell, hitem⟩ := List.mem_flatMap.mp (List.mem_of_find?_eq_some hfind)
  have hname := List.find?_some hfind
  obtain rfl : item.name = name := of_decide_eq_true hname
  refine ⟨cell, hcell, item, hitem, ?_⟩
  cases item with
  | variants op type tiers =>
      obtain rfl := Option.some.inj hentries
      exact ⟨type, variantsSteps_eq op type tiers⟩
  | default | routine | dispatcher => cases hentries

/-- A function for arrays stands in the array text under its name. -/
theorem exists_cell_of_function? {function : Function}
    (h : (Library.ofCells cells defined available).function? caller (.array name) = some function) :
    ∃ cell ∈ cells, Documents [function.step ("pub fn " ++ name) function.type.shortName]
      (Source.arraySteps cell.op cell.type) := by
  obtain ⟨cell, hfind, rfl⟩ := Option.map_eq_some_iff.mp h
  have hname := List.find?_some hfind
  obtain rfl : arrayName cell.op cell.type = name := of_decide_eq_true hname
  exact ⟨cell, List.mem_of_find?_eq_some hfind, arraySteps_eq cell.op cell.type⟩

end

end LaneKernels.Code
