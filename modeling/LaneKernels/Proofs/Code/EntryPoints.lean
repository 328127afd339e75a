import Mathlib.Tactic
import LaneKernels.Proofs.Code.Kernels
import LaneKernels.Proofs.Code.References
import LaneKernels.Proofs.Generation.AllOrNothing

/-!
The functions of a generated library do what the kernels and the ways into them do.

* `Platform.library_eq_of_generate`: the library of a platform has the functions of the texts that are
  generated for it.
* `Library.Means` says that the name of a function in the kernel text stands for a kernel. The names of the
  scalar and the accelerated kernels do (`means_default`, `means_routine`), and so does the name of the
  kernel that picks, which stands for the kernel that runs on the platform (`means_dispatcher`).
* The methods of the traits, the functions for arrays and what the macros expand to are the ways into that
  kernel (`call_raw`, `call_slice`, `call_array`, `call_arrayMethod`, `perform_macroBody`).
-/

namespace LaneKernels

open Code

lemma Platform.library_eq (platform : Platform) : platform.library =
    (Recipe.shipped platform.compiled).library platform.compiled.defines platform.available := by
  have hplan : Planning.Gives (Recipe.shipped platform.compiled).plan _ _ :=
    Recipe.plan_eq BindingTable.check_shipped
  rw [Platform.library, hplan]
  rfl

/-- The library of a platform has the functions of the texts that are generated for it. -/
theorem Platform.library_eq_of_generate (platform : Platform) {texts : Bundle String}
    {log : Array Log.Record} (h : (Recipe.shipped platform.compiled).generate = (.ok texts, log)) :
    ∃ chapters, Source.write chapters = .ok texts ∧ platform.library =
      .ofCells (plannedCells chapters) platform.compiled.defines platform.available := by
  rw [Recipe.generate_of_check BindingTable.check_shipped] at h
  obtain rfl := Except.ok.inj (Prod.mk.inj h).1
  exact ⟨_, Source.write_eq _, platform.library_eq⟩

/-- The build symbols of the tiers in a set are defined. -/
lemma TierSet.defines_buildGuard {set : TierSet} {tier : Tier} (h : set.contains tier = true) :
    set.defines tier.buildGuard = true :=
  List.any_eq_true.mpr ⟨tier, TierSet.mem_toList.mpr h, decide_eq_true rfl⟩

/-- Choices among related variants of the same tiers are related. -/
lemma choose_related {κ κ' : Type} {related : κ → κ' → Prop} {tiers : List Tier} {default : κ}
    {default' : κ'} {variant : Tier → κ} {variant' : Tier → κ'} (hdefault : related default default')
    (hvariant : ∀ tier ∈ tiers, related (variant tier) (variant' tier)) (available : TierSet)
    (name type : String) :
    related (choose available name type default (tiers.map fun tier => ⟨tier, variant tier⟩)).1
      (choose available name type default' (tiers.map fun tier => ⟨tier, variant' tier⟩)).1 := by
  simp only [choose, ← List.map_reverse, List.find?_map, Function.comp_def]
  cases hfound : tiers.reverse.find? fun tier => available.contains tier with
  | none => exact hdefault
  | some tier =>
      exact hvariant tier (List.mem_reverse.mp (List.mem_of_find?_eq_some hfound))

namespace Code

open Evaluation (ofOption ofExecution)

variable {library : Library} {calls : Calls} {frame : Frame} {platform : Platform} {op : ArithOp}
  {type caller : ElementType} {depth : ℕ}

/-! ### Calls -/

/-- A call runs the body of the function on what it is given. -/
lemma call_eq {path : Path} {values : List Value} {function : Function} {given : Given}
    (hfunction : library.function? caller path = some function)
    (hgiven : function.form.given? values = some given) :
    library.call (depth + 1) caller path values =
      function.body.perform library (library.call depth function.type) ⟨function.type, given⟩ := by
  rw [Library.call, Library.enter, hfunction, Option.bind_eq_bind, Option.bind_some, hgiven]
  rfl

lemma run_call {isUnsafe : Bool} {path : Path} {arguments : List Argument} {values : List Value}
    {locals : Locals} (hvalues : arguments.mapM (·.value? frame.given locals) = some values) :
    (Code.call isUnsafe path arguments).run library calls frame locals = (do
      calls path values
      return locals) := by
  rw [Code.run, hvalues, Evaluation.ofOption_some, pure_bind]

/-- What is picked is called with what it is given. -/
lemma run_callPicked {arguments : List Argument} {values : List Value} {locals : Locals} {name : String}
    (hpicked : locals.picked = some name)
    (hvalues : arguments.mapM (·.value? frame.given locals) = some values) :
    (Code.callPicked arguments).run library calls frame locals = (do
      calls (.kernel name) values
      return locals) := by
  rw [Code.run, hpicked, hvalues, Evaluation.ofOption_some, Evaluation.ofOption_some, pure_bind, pure_bind]

/-- A body that is a call. -/
lemma perform_call {isUnsafe : Bool} {path : Path} {arguments : List Argument} {values : List Value}
    (hvalues : arguments.mapM (·.value? frame.given .empty) = some values) :
    (Code.call isUnsafe path arguments).perform library calls frame = calls path values := by
  rw [perform, run_call hvalues]
  simp only [bind_assoc, pure_bind, bind_pure_unit]

/-- What is left of a body that ends with a call. -/
lemma perform_tail (evaluation : Evaluation Unit) (locals : Locals) : (do
      let _ ← (do
        evaluation
        return locals) >>= (inOrder []).run library calls frame
      return ()) = evaluation := by
  simp only [bind_assoc, pure_bind, run_inOrder_nil, bind_pure_unit]

/-! ### Kernels by their names -/

/-- Three addresses and a number of elements, as they are handed over. -/
def pointerValues (operands : Operands) : List Value :=
  [.pointer operands.a, .pointer operands.b, .pointer operands.c, .number operands.len]

/-- The name leads to a function that does what the kernel does, wherever it is called with a depth. -/
def Library.Means (library : Library) (depth : ℕ) (name : String) (kernel : Kernel) : Prop :=
  ∀ caller operands,
    library.call depth caller (.kernel name) (pointerValues operands) = ofExecution (kernel operands)

/-- A name means what the body does that it leads to. -/
lemma means_of_function {name : String} {body : Code} {kernel : Kernel}
    (hfunction : ∀ caller, library.function? caller (.kernel name) = some ⟨.pointers, type, body⟩)
    (hbody : ∀ operands, body.perform library (library.call depth type) ⟨type, .pointers operands⟩ =
      ofExecution (kernel operands)) :
    library.Means (depth + 1) name kernel :=
  fun caller operands => (call_eq (hfunction caller) rfl).trans (hbody operands)

lemma means_default (live : type.reserved = false) :
    platform.library.Means (depth + 1) (defaultName op type) (defaultKernel op type live) := by
  rw [Platform.library_eq]
  exact means_of_function (fun _ => function?_default live) fun _ => perform_defaultBody live

lemma means_routine (live : type.reserved = false) {tier : Tier} {kernel : Kernel}
    (htier : tier ∈ (Recipe.shipped platform.compiled).acceleratedTiers op type)
    (hkernel : (BindingTable.shipped.routine op type tier).kernel? = some kernel) :
    platform.library.Means (depth + 1) (routineName op type tier) kernel := by
  obtain ⟨hsupports, hcompiled⟩ := Recipe.mem_acceleratedTiers.mp htier
  obtain ⟨code, hcode, -⟩ := shipped_code hsupports
  have hstride : (BindingTable.shipped.routine op type tier).stride = tier.lanes type :=
    (BindingTable.check_eq_ok_iff.mp BindingTable.check_shipped tier op type hsupports).stride_routine
  rw [Routine.kernel?_eq live hcode] at hkernel
  obtain rfl := Option.some.inj hkernel
  rw [Platform.library_eq]
  exact means_of_function
    (fun _ => function?_routine live htier (TierSet.defines_buildGuard hcompiled))
    fun _ => perform_routineBody hcode hstride live

/-- The kernels that are compiled in are those of the tiers that have one. -/
lemma exists_compiledVariants_eq (op : ArithOp) (live : type.reserved = false) (compiled : TierSet) :
    ∃ kernel : Tier → Kernel,
      compiledVariants compiled op type =
          ((Recipe.shipped compiled).acceleratedTiers op type).map (fun tier => ⟨tier, kernel tier⟩) ∧
        ∀ tier ∈ (Recipe.shipped compiled).acceleratedTiers op type,
          (BindingTable.shipped.routine op type tier).kernel? = some (kernel tier) := by
  have hsome : ∀ tier ∈ (Recipe.shipped compiled).acceleratedTiers op type,
      (BindingTable.shipped.routine op type tier).kernel? =
        some (((BindingTable.shipped.routine op type tier).kernel?).getD (defaultKernel op type live)) := by
    intro tier htier
    obtain ⟨code, _, hkernel, -⟩ := shipped_sound (Recipe.mem_acceleratedTiers.mp htier).1 live
    rw [hkernel, Option.getD_some]
  refine ⟨_, ?_, hsome⟩
  rw [compiledVariants, Recipe.routines_shipped, List.filterMap_map, ← List.filterMap_eq_map]
  exact List.filterMap_congr fun tier htier => congrArg (Option.map _) (hsome tier htier)

/-- The name of the kernel that is picked. -/
def pickedName (platform : Platform) (op : ArithOp) (type : ElementType) : String :=
  (choose platform.available op.name type.shortName (defaultName op type)
    (((Recipe.shipped platform.compiled).acceleratedTiers op type).map fun tier =>
      ⟨tier, routineName op type tier⟩)).1

lemma means_pickedName (live : type.reserved = false) :
    platform.library.Means (depth + 1) (pickedName platform op type) (platform.kernel op type live) := by
  obtain ⟨kernel, hvariants, hkernel⟩ := exists_compiledVariants_eq op live platform.compiled
  rw [Platform.kernel, hvariants]
  exact choose_related (means_default live)
    (fun tier htier => means_routine live htier (hkernel tier htier)) _ _ _

/-- The tiers that are generated are compiled in, so all entries of a list take part in the choice. -/
lemma run_resolve (live : type.reserved = false) (locals : Locals) :
    (Statement.resolve op.name type.shortName (defaultName op type) (variantsName op type)).run
        platform.library frame locals =
      pure { locals with picked := some (pickedName platform op type) } := by
  have hentries : platform.library.entries? (variantsName op type) =
      some (((Recipe.shipped platform.compiled).acceleratedTiers op type).map (tierEntry op type)) := by
    rw [Platform.library_eq, entries?_variants live]
  have hcompiled : (((Recipe.shipped platform.compiled).acceleratedTiers op type).map
      (tierEntry op type)).filter (platform.library.defined ·.guard) =
        ((Recipe.shipped platform.compiled).acceleratedTiers op type).map (tierEntry op type) := by
    refine List.filter_eq_self.mpr fun entry hentry => ?_
    obtain ⟨tier, htier, rfl⟩ := List.mem_map.mp hentry
    exact TierSet.defines_buildGuard (Recipe.mem_acceleratedTiers.mp htier).2
  rw [Statement.run, hentries, Evaluation.ofOption_some, pure_bind, hcompiled]
  simp only [List.map_map, pickedName]
  rfl

/-- The kernel that picks does what the kernel does that runs on the platform. -/
theorem means_dispatcher (live : type.reserved = false) :
    platform.library.Means (depth + 2) (kernelName op type) (platform.kernel op type live) := by
  have hfunction : ∀ caller, platform.library.function? caller (.kernel (kernelName op type)) =
      some ⟨.pointers, type, dispatcherBody op type⟩ := by
    rw [Platform.library_eq]
    exact fun _ => function?_dispatcher live
  refine means_of_function hfunction fun operands => ?_
  rw [perform, dispatcherBody, run_inOrder_cons, run_line, Statement.run, pure_bind, run_inOrder_cons,
    run_line, run_resolve live, pure_bind, run_inOrder_cons, run_callPicked rfl rfl, perform_tail]
  exact means_pickedName live type operands

/-! ### Ways into a kernel -/

lemma perform_rawBody (live : type.reserved = false) (operands : Operands) :
    (rawBody op type).perform platform.library (platform.library.call (depth + 2) type)
        ⟨type, .pointers operands⟩ =
      ofExecution (EntryPoint.raw platform op type live operands) := by
  rw [rawBody, perform_call rfl]
  exact means_dispatcher live type operands

/-- The method that takes pointers. -/
theorem call_raw (live : type.reserved = false) (operands : Operands) :
    platform.library.call (depth + 3) type (.method op.traitName (rawMethod op)) (pointerValues operands) =
      ofExecution (EntryPoint.raw platform op type live operands) := by
  have hfunction : platform.library.function? type (.method op.traitName (rawMethod op)) =
      some ⟨.pointers, type, rawBody op type⟩ := by
    rw [Platform.library_eq]
    exact function?_method live method?_raw
  rw [call_eq hfunction rfl, perform_rawBody live]

/-- The method that takes slices. -/
theorem call_slice (live : type.reserved = false) (a b c : EntryPoint.Slice) :
    platform.library.call (depth + 4) type (.method op.traitName (sliceMethod op))
        [.array a, .array b, .array c] =
      ofExecution (EntryPoint.slice platform op type live a b c) := by
  have hfunction : platform.library.function? type (.method op.traitName (sliceMethod op)) =
      some ⟨.slices, type, sliceBody op⟩ := by
    rw [Platform.library_eq]
    exact function?_method live method?_slice
  have hown : platform.library.function? type (.own (rawMethod op)) =
      some ⟨.pointers, type, rawBody op type⟩ := by
    rw [Platform.library_eq]
    exact function?_own live method?_raw
  rw [call_eq hfunction rfl, sliceBody, perform, EntryPoint.slice, run_inOrder_cons, run_line,
    Statement.run]
  simp only [Quantity.value?, Given.value, Evaluation.ofOption_some, pure_bind]
  by_cases hlengths : a.length = b.length
  · rw [if_neg (not_not_intro hlengths), if_neg (not_not_intro hlengths), pure_bind, run_inOrder_cons,
      run_line, Statement.run]
    simp only [Quantity.value?, Given.value, Evaluation.ofOption_some, pure_bind]
    by_cases hroom : c.length < a.length
    · rw [if_pos hroom, if_pos hroom]
      rfl
    · rw [if_neg hroom, if_neg hroom, pure_bind, run_inOrder_cons, run_line, Statement.run, pure_bind,
        run_inOrder_cons, run_call rfl, perform_tail]
      exact (call_eq hown rfl).trans (perform_rawBody live _)
  · rw [if_pos hlengths, if_pos hlengths]
    rfl

/-- The function of the array text. -/
theorem call_array (live : type.reserved = false) (size a b c : ℕ) :
    platform.library.call (depth + 3) caller (.array (arrayName op type))
        [.array ⟨a, size⟩, .array ⟨b, size⟩, .array ⟨c, size⟩] =
      ofExecution (EntryPoint.array platform op type live size a b c) := by
  have hfunction : platform.library.function? caller (.array (arrayName op type)) =
      some ⟨.arrays, type, arrayBody op type⟩ := by
    rw [Platform.library_eq]
    exact function?_array live
  have hgiven : Form.arrays.given? [.array ⟨a, size⟩, .array ⟨b, size⟩, .array ⟨c, size⟩] =
      some (.arrays size a b c) := if_pos ⟨rfl, rfl⟩
  rw [call_eq hfunction hgiven, arrayBody, perform, run_inOrder_cons, run_line, Statement.run, pure_bind,
    run_inOrder_cons, run_call rfl, perform_tail]
  exact means_dispatcher live type ⟨a, b, c, size⟩

/-- The method that takes arrays. -/
theorem call_arrayMethod (live : type.reserved = false) (a b c : EntryPoint.Slice) :
    platform.library.call (depth + 4) type (.method op.traitName (arrayMethod op))
        [.array a, .array b, .array c] =
      ofOption (EntryPoint.macroCall? platform op type live a b c) >>= ofExecution := by
  have hfunction : platform.library.function? type (.method op.traitName (arrayMethod op)) =
      some ⟨.arrays, type, arrayMethodBody op type⟩ := by
    rw [Platform.library_eq]
    exact function?_method live method?_array
  rw [EntryPoint.macroCall?]
  by_cases hsizes : a.length = b.length ∧ b.length = c.length
  · have hgiven : Form.arrays.given? [.array a, .array b, .array c] =
        some (.arrays a.length a.address b.address c.address) := if_pos hsizes
    rw [call_eq hfunction hgiven, arrayMethodBody, perform_call rfl, if_pos hsizes,
      Evaluation.ofOption_some, pure_bind]
    exact call_array live a.length a.address b.address c.address
  · have hgiven : Form.arrays.given? [.array a, .array b, .array c] = none := if_neg hsizes
    rw [if_neg hsizes, Library.call, Library.enter, hfunction]
    simp only [Option.bind_eq_bind, Option.bind_some, hgiven, Option.bind_none]
    rfl

/-- What a macro expands to, on borrows of three arrays. -/
theorem perform_macroBody (live : type.reserved = false) (a b c : EntryPoint.Slice) :
    (macroBody op).perform platform.library (platform.library.call (depth + 4) type)
        ⟨type, .slices a b c⟩ =
      ofOption (EntryPoint.macroCall? platform op type live a b c) >>= ofExecution := by
  rw [macroBody, perform_call rfl]
  exact call_arrayMethod live a b c

end Code

end LaneKernels
