import Mathlib.Tactic
import LaneKernels.Generation
import LaneKernels.Proofs.Stateful

/-!
The lines that a plan is written as.

* `Layout.linesAt` gives the lines that steps write from a level on, without running them. Steps are
  nested if they change the level only around a body (`areNested`). Nested steps never leave the
  outermost level, and they write those lines (`runAll_eq`).
* `Draft.linesOf` does the same for steps on the three texts (`Draft.runAll_eq`).
* The steps of every plan are nested (`areNested_librarySteps`), so every plan is written (`write_eq`).
-/

namespace LaneKernels

namespace Layout

/-- The buffer with some lines more. -/
def Buffer.extend (buffer : Buffer) (lines : List Line) : Buffer :=
  ⟨buffer.level, buffer.lines ++ lines.toArray⟩

mutual

/-- The lines that a step writes at a level. -/
def Step.linesAt : Step → ℕ → List Line
  | .push, _ | .pop, _ => []
  | .line text, level => [.text level text]
  | .blank, level => [.text level ""]
  | .comment text, level => [.text level (commentLine text)]
  | .doc text, level => (docLines text).map (.text level)
  | .indent body, level => linesAt body (level + 1)
  | .block head tail body, level =>
    .text level (blockHead head) :: (linesAt body (level + 1) ++ [.text level tail])

/-- The lines that steps write at a level. -/
def linesAt : List Step → ℕ → List Line
  | [], _ => []
  | step :: rest, level => step.linesAt level ++ linesAt rest level

end

mutual

/-- Whether a step changes the level only around a body. -/
def Step.isNested : Step → Bool
  | .push | .pop => false
  | .indent body | .block _ _ body => areNested body
  | _ => true

/-- Whether steps change the level only around bodies. -/
def areNested : List Step → Bool
  | [] => true
  | step :: rest => step.isNested && areNested rest

end

lemma linesAt_eq_flatMap (steps : List Step) (level : ℕ) :
    linesAt steps level = steps.flatMap fun step => step.linesAt level := by
  induction steps with
  | nil => rfl
  | cons step rest ih => rw [linesAt, ih, List.flatMap_cons]

lemma linesAt_append (steps more : List Step) (level : ℕ) :
    linesAt (steps ++ more) level = linesAt steps level ++ linesAt more level := by
  simp only [linesAt_eq_flatMap, List.flatMap_append]

lemma linesAt_flatMap {α : Type} (steps : α → List Step) (xs : List α) (level : ℕ) :
    linesAt (xs.flatMap steps) level = xs.flatMap fun x => linesAt (steps x) level := by
  simp only [linesAt_eq_flatMap, List.flatMap_assoc]

lemma areNested_eq_all (steps : List Step) : areNested steps = steps.all Step.isNested := by
  induction steps with
  | nil => rfl
  | cons step rest ih => rw [areNested, ih, List.all_cons]

/-! ### Running nested steps -/

/-- The writing goes from a level to another one, without a crash, and writes some lines. -/
def Gives (writing : Writing Unit) (first last : ℕ) (lines : List Line) : Prop :=
  ∀ past, writing ⟨first, past⟩ = .ok () ⟨last, past ++ lines.toArray⟩

section

variable {first middle last level : ℕ} {lines more : List Line}

lemma gives_pure (level : ℕ) : Gives (pure ()) level level [] := fun past => by
  show EStateM.Result.ok () (Buffer.mk level past) = .ok () ⟨level, past ++ #[]⟩
  rw [Array.append_empty]

lemma gives_writeLine (text : String) (level : ℕ) :
    Gives (writeLine text) level level [.text level text] := fun past => by
  show EStateM.Result.ok () (Buffer.mk level (past.push _)) = _
  rw [Array.push_eq_append]

lemma gives_enter (level : ℕ) : Gives enter level (level + 1) [] := fun past => by
  show EStateM.Result.ok () (Buffer.mk (level + 1) past) = .ok () ⟨level + 1, past ++ #[]⟩
  rw [Array.append_empty]

/-- A level that was entered can be left. -/
lemma gives_leave (level : ℕ) : Gives leave (level + 1) level [] := fun past => by
  show EStateM.Result.ok () (Buffer.mk level past) = .ok () ⟨level, past ++ #[]⟩
  rw [Array.append_empty]

lemma Gives.bind {writing next : Writing Unit} (hwriting : Gives writing first middle lines)
    (hnext : Gives next middle last more) :
    Gives (writing >>= fun _ => next) first last (lines ++ more) := fun past => by
  rw [run_bind (hwriting past) (hnext _), Array.append_assoc, List.append_toArray lines more]

lemma gives_forM (texts : List String) (level : ℕ) :
    Gives (texts.forM writeLine) level level (texts.map (.text level)) := by
  induction texts with
  | nil => exact gives_pure level
  | cons text rest ih => exact (gives_writeLine text level).bind ih

end

mutual

lemma Step.gives_run : ∀ (step : Step) (level : ℕ), step.isNested = true →
    Gives step.run level level (step.linesAt level)
  | .push, _, h | .pop, _, h => absurd h (by simp [Step.isNested])
  | .line text, level, _ => gives_writeLine text level
  | .blank, level, _ => gives_writeLine "" level
  | .comment text, level, _ => gives_writeLine (commentLine text) level
  | .doc text, level, _ => gives_forM (docLines text) level
  | .indent body, level, h => by
      have hbody := gives_runAll body (level + 1) h
      have hall := (gives_enter level).bind (hbody.bind (gives_leave level))
      rw [List.append_nil, List.nil_append] at hall
      exact hall
  | .block head tail body, level, h => by
      have hbody := gives_runAll body (level + 1) h
      have htail := (gives_leave level).bind (gives_writeLine tail level)
      exact (gives_writeLine (blockHead head) level).bind ((gives_enter level).bind (hbody.bind htail))

/-- Nested steps write their lines and end on the level on which they started. -/
lemma gives_runAll : ∀ (steps : List Step) (level : ℕ), areNested steps = true →
    Gives (runAll steps) level level (linesAt steps level)
  | [], level, _ => gives_pure level
  | step :: rest, level, h => by
      rw [areNested, Bool.and_eq_true] at h
      exact (step.gives_run level h.1).bind (gives_runAll rest level h.2)

end

lemma runAll_eq {steps : List Step} (h : areNested steps = true) (buffer : Buffer) :
    runAll steps buffer = .ok () (buffer.extend (linesAt steps buffer.level)) :=
  gives_runAll steps buffer.level h buffer.lines

end Layout

/-! ### Steps on the three texts -/

lemma Bundle.ext_get {α : Type} {left right : Bundle α}
    (h : ∀ artifact, left.get artifact = right.get artifact) :
    left = right :=
  Bundle.ext (h .kernels) (h .traits) (h .arrays)

namespace Draft

open Layout (Line Buffer)

/-- The buffers with some lines more on each. -/
def extend (draft : Draft) (lines : Artifact → List Line) : Draft :=
  .ofFn fun artifact => (draft.get artifact).extend (lines artifact)

mutual

/-- The lines that a step writes on a text. -/
def Step.linesOf : Step → Artifact → List Line
  | .header about, artifact =>
    [.text 0 notice, .text 0 (Layout.commentLine (about.get artifact)), .text 0 ""]
  | .openRegion name, _ => [.marker 0 (.opening name)]
  | .closeRegion, _ => [.marker 0 .closing, .text 0 ""]
  | .region name body, artifact =>
    .marker 0 (.opening name) :: (linesOf body artifact ++ [.marker 0 .closing, .text 0 ""])
  | .fail _, _ => []
  | .write place steps, artifact => if artifact = place then Layout.linesAt steps 0 else []

/-- The lines that steps write on a text. -/
def linesOf : List Step → Artifact → List Line
  | [], _ => []
  | step :: rest, artifact => step.linesOf artifact ++ linesOf rest artifact

end

mutual

/-- Whether a step on the three texts writes nested steps and does not fail. -/
def Step.isNested : Step → Bool
  | .region _ body => areNested body
  | .fail _ => false
  | .write _ steps => Layout.areNested steps
  | _ => true

/-- Whether steps on the three texts write nested steps and do not fail. -/
def areNested : List Step → Bool
  | [] => true
  | step :: rest => step.isNested && areNested rest

end

lemma linesOf_eq_flatMap (steps : List Step) (artifact : Artifact) :
    linesOf steps artifact = steps.flatMap fun step => step.linesOf artifact := by
  induction steps with
  | nil => rfl
  | cons step rest ih => rw [linesOf, ih, List.flatMap_cons]

lemma linesOf_append (steps more : List Step) (artifact : Artifact) :
    linesOf (steps ++ more) artifact = linesOf steps artifact ++ linesOf more artifact := by
  simp only [linesOf_eq_flatMap, List.flatMap_append]

lemma linesOf_map {α : Type} (step : α → Step) (xs : List α) (artifact : Artifact) :
    linesOf (xs.map step) artifact = xs.flatMap fun x => (step x).linesOf artifact := by
  rw [linesOf_eq_flatMap, List.flatMap_map]

lemma areNested_eq_all (steps : List Step) : areNested steps = steps.all Step.isNested := by
  induction steps with
  | nil => rfl
  | cons step rest ih => rw [areNested, ih, List.all_cons]

/-- Writing on drafts at the outermost level succeeds and adds lines to each text. -/
def Gives (writing : Writing Unit) (lines : Artifact → List Line) : Prop :=
  ∀ draft : Draft, (∀ artifact, (draft.get artifact).level = 0) →
    writing draft = .ok () (draft.extend lines)

section

variable {lines more : Artifact → List Line}

lemma level_extend (draft : Draft) (lines : Artifact → List Line) (artifact : Artifact) :
    ((draft.extend lines).get artifact).level = (draft.get artifact).level := by
  rw [extend, Bundle.get_ofFn]
  rfl

lemma extend_extend (draft : Draft) (lines more : Artifact → List Line) :
    (draft.extend lines).extend more =
      draft.extend fun artifact => lines artifact ++ more artifact := by
  refine Bundle.ext_get fun artifact => ?_
  simp only [extend, Bundle.get_ofFn, Buffer.extend, Array.append_assoc, List.append_toArray]

lemma extend_nil (draft : Draft) : draft.extend (fun _ => []) = draft := by
  refine Bundle.ext_get fun artifact => ?_
  simp only [extend, Bundle.get_ofFn, Buffer.extend, Array.append_empty]

lemma Gives.bind {writing next : Writing Unit} (hwriting : Gives writing lines)
    (hnext : Gives next more) :
    Gives (writing >>= fun _ => next) fun artifact => lines artifact ++ more artifact := by
  intro draft hlevel
  have hrest := hnext (draft.extend lines) fun artifact => by rw [level_extend, hlevel]
  rw [run_bind (hwriting draft hlevel) hrest, extend_extend]

lemma gives_writeLines (texts : Bundle String) :
    Gives (writeLines texts) fun artifact => [.text 0 (texts.get artifact)] := by
  intro draft hlevel
  show EStateM.Result.ok () (Bundle.ofFn _) = .ok () (Bundle.ofFn _)
  congr 2
  funext artifact
  rw [Buffer.add, hlevel, Buffer.extend, hlevel, Array.push_eq_append]

lemma gives_writeAll (text : String) : Gives (writeAll text) fun _ => [.text 0 text] := by
  intro draft hlevel
  show EStateM.Result.ok () (draft.map _) = _
  congr 1
  refine Bundle.ext_get fun artifact => ?_
  rw [Bundle.get_map, extend, Bundle.get_ofFn, Buffer.add, hlevel, Buffer.extend, hlevel,
    Array.push_eq_append]

lemma gives_markAll (marker : Region.Marker) : Gives (markAll marker) fun _ => [.marker 0 marker] := by
  intro draft hlevel
  show EStateM.Result.ok () (draft.map _) = _
  congr 1
  refine Bundle.ext_get fun artifact => ?_
  rw [Bundle.get_map, extend, Bundle.get_ofFn, Buffer.mark, hlevel, Buffer.extend, hlevel,
    Array.push_eq_append]

lemma gives_write (place : Artifact) {steps : List Layout.Step} (h : Layout.areNested steps = true) :
    Gives (write place steps) fun artifact =>
      if artifact = place then Layout.linesAt steps 0 else [] := by
  intro draft hlevel
  rw [write, Layout.runAll_eq h, hlevel]
  show EStateM.Result.ok () (draft.set _ _) = _
  congr 1
  refine Bundle.ext_get fun artifact => ?_
  rw [Bundle.get_set, extend, Bundle.get_ofFn]
  split
  · next heq => rw [heq]
  · rw [Buffer.extend, Array.append_empty]

end

mutual

lemma Step.gives_run : ∀ step : Step, step.isNested = true → Gives step.run step.linesOf
  | .header about, _ => by
      have hlines := gives_writeLines (about.map Layout.commentLine)
      simp only [Bundle.get_map] at hlines
      exact (gives_writeAll notice).bind (hlines.bind (gives_writeAll ""))
  | .openRegion name, _ => gives_markAll (.opening name)
  | .closeRegion, _ => (gives_markAll .closing).bind (gives_writeAll "")
  | .region name body, h => by
      have hclose := (gives_markAll .closing).bind (gives_writeAll "")
      exact (gives_markAll (.opening name)).bind ((gives_runAll body h).bind hclose)
  | .fail _, h => absurd h (by simp [Step.isNested])
  | .write place _, h => gives_write place h

/-- Nested steps on the three texts write their lines. -/
lemma gives_runAll : ∀ steps : List Step, areNested steps = true → Gives (runAll steps) (linesOf steps)
  | [], _ => fun draft _ => by
      show EStateM.Result.ok () draft = _
      rw [← extend_nil draft]
      rfl
  | step :: rest, h => by
      rw [areNested, Bool.and_eq_true] at h
      exact (step.gives_run h.1).bind (gives_runAll rest h.2)

end

end Draft

/-! ### The steps of a plan -/

namespace Source

lemma areNested_routineSteps (routine : Routine) : Layout.areNested (routineSteps routine) = true := by
  have hbody : ∀ release : Option String, Layout.areNested
      ((["a", "b", "c"].map fun pointer => .line (probeStatement routine.tier pointer)) ++
        [.line "let mut i = 0;", mainLoop routine, tailLoop routine] ++
        (release.map fun release => Layout.Step.line s!"{release};").toList) = true := by
    intro release
    cases release <;> rfl
  rw [routineSteps]
  cases routine.tier.targetFeature? with
  | none => exact congrArg (· && true) (hbody routine.tier.release?)
  | some feature => exact congrArg (· && true) (hbody routine.tier.release?)

lemma areNested_variantsSteps (op : ArithOp) (type : ElementType) (tiers : List Tier) :
    Layout.areNested (variantsSteps op type tiers) = true := by
  have hentries : Layout.areNested ([.line "let mut variants = Vec::new();"] ++
      tiers.flatMap (variantEntry op type) ++ [.line "variants"]) = true := by
    rw [Layout.areNested_eq_all, List.all_append, List.all_append, List.all_flatMap]
    simp [variantEntry, Layout.Step.isNested]
  exact congrArg (· && true) hentries

lemma areNested_steps (item : Item) : Layout.areNested item.steps = true := by
  cases item with
  | default op type => rfl
  | routine routine => exact areNested_routineSteps routine
  | variants op type tiers => exact areNested_variantsSteps op type tiers
  | dispatcher op type => rfl

lemma isNested_cellStep (cell : Cell) : (cellStep cell).isNested = true := by
  have hitems : Layout.areNested ((cellItems cell).flatMap Item.steps) = true := by
    rw [Layout.areNested_eq_all, List.all_flatMap, List.all_eq_true]
    intro item _
    rw [← Layout.areNested_eq_all]
    exact areNested_steps item
  exact congrArg (· && true) hitems

lemma areNested_prelude : Layout.areNested prelude = true := by
  rfl

lemma isNested_chapterStep (chapter : Chapter) : (chapterStep chapter).isNested = true := by
  have htraits : Layout.areNested (traitSteps chapter.op ++ macroSteps chapter.op) = true := by
    rfl
  have hcells : Draft.areNested (chapter.cells.map cellStep) = true := by
    rw [Draft.areNested_eq_all, List.all_map, List.all_eq_true]
    exact fun cell _ => isNested_cellStep cell
  rw [chapterStep, Draft.Step.isNested, Draft.areNested, Bool.and_eq_true]
  exact ⟨htraits, hcells⟩

lemma areNested_librarySteps (chapters : List Chapter) :
    Draft.areNested (librarySteps chapters) = true := by
  have hchapters : (chapters.map chapterStep).all Draft.Step.isNested = true := by
    rw [List.all_map, List.all_eq_true]
    exact fun chapter _ => isNested_chapterStep chapter
  rw [Draft.areNested_eq_all, librarySteps, List.all_append, Bool.and_eq_true]
  refine ⟨?_, hchapters⟩
  rw [List.all_cons, List.all_cons, List.all_nil, Bool.and_true, Bool.and_eq_true]
  exact ⟨rfl, areNested_prelude⟩

/-- The lines of a plan on a text. -/
def libraryLines (chapters : List Chapter) : Artifact → List Layout.Line :=
  Draft.linesOf (librarySteps chapters)

/-- A plan is written, and its texts have its lines. -/
lemma run_librarySteps (chapters : List Chapter) :
    Draft.runAll (librarySteps chapters) .empty =
      .ok () (Draft.empty.extend (libraryLines chapters)) :=
  Draft.gives_runAll _ (areNested_librarySteps chapters) .empty fun artifact => by
    rw [Draft.empty, Bundle.get_ofFn]
    rfl

/-- The texts of a plan. -/
def libraryTexts (chapters : List Chapter) : Bundle String :=
  (Draft.empty.extend (libraryLines chapters)).texts

lemma write_eq (chapters : List Chapter) : write chapters = .ok (libraryTexts chapters) := by
  unfold write libraryTexts
  rw [run_librarySteps]

end Source

end LaneKernels
