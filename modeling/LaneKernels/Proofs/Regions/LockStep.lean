import Mathlib.Tactic
import LaneKernels.Proofs.Regions.Locality

/-!
The markers of the three texts in lock-step.

* What is written to one text keeps its markers, also if it crashes on the way (`Layout.keeps_runAll`).
* Every step adds the same markers to the three texts, however it ends (`InStep`, `Draft.keeps_runAll`),
  and so do steps that are attempted one after the other (`inStep_attempt`).
* `adds_region` tells the two ways in which a region ends: after its closing marker, or where its body
  fails.
* `Nested` says that an inner region is closed before the one that holds it (`nested_libraryMarkers`).
* `regions_lock_step` puts it together, and says what the markers of generated texts are.
-/

namespace LaneKernels

open Region

/-! ### One text -/

namespace Layout

/-- The markers that a buffer holds. -/
def Buffer.markers (buffer : Buffer) : List Marker :=
  markersIn buffer.lines.toList

@[simp] lemma Buffer.markers_add (buffer : Buffer) (text : String) :
    (buffer.add text).markers = buffer.markers := by
  rw [markers, toList_lines_add, markersIn_append]
  exact List.append_nil _

@[simp] lemma Buffer.markers_mark (buffer : Buffer) (marker : Marker) :
    (buffer.mark marker).markers = buffer.markers ++ [marker] := by
  rw [markers, toList_lines_mark, markersIn_append]
  rfl

/-- The second buffer holds the same markers. -/
def SameMarkers (before after : Buffer) : Prop :=
  after.markers = before.markers

lemma SameMarkers.refl (buffer : Buffer) : SameMarkers buffer buffer :=
  Eq.refl buffer.markers

lemma SameMarkers.trans {before middle after : Buffer} (h : SameMarkers before middle)
    (hmore : SameMarkers middle after) : SameMarkers before after :=
  Eq.trans hmore h

lemma keeps_writeLine (text : String) : Keeps SameMarkers (writeLine text) :=
  fun buffer => buffer.markers_add text

lemma keeps_enter : Keeps SameMarkers enter :=
  fun _ => rfl

/-- Leaving keeps the markers, whether there is a level to leave or not. -/
lemma keeps_leave : Keeps SameMarkers leave := by
  rintro ⟨level, lines⟩
  cases level with
  | zero => rfl
  | succ level => rfl

lemma keeps_forM (texts : List String) : Keeps SameMarkers (texts.forM writeLine) := by
  induction texts with
  | nil => exact keeps_pure SameMarkers.refl ()
  | cons text rest ih => exact (keeps_writeLine text).bind .trans fun _ => ih

mutual

lemma Step.keeps_run : ∀ step : Step, Keeps SameMarkers step.run
  | .push => keeps_enter
  | .pop => keeps_leave
  | .line text => keeps_writeLine text
  | .blank => keeps_writeLine ""
  | .comment text => keeps_writeLine (commentLine text)
  | .doc text => keeps_forM (docLines text)
  | .indent body =>
      keeps_enter.bind .trans fun _ => (keeps_runAll body).bind .trans fun _ => keeps_leave
  | .block head tail body =>
      (keeps_writeLine (blockHead head)).bind .trans fun _ => keeps_enter.bind .trans fun _ =>
        (keeps_runAll body).bind .trans fun _ => keeps_leave.bind .trans fun _ => keeps_writeLine tail

/-- What is laid out in a text are no markers, wherever it is abandoned. -/
lemma keeps_runAll : ∀ steps : List Step, Keeps SameMarkers (runAll steps)
  | [] => keeps_pure SameMarkers.refl ()
  | step :: rest => step.keeps_run.bind .trans fun _ => keeps_runAll rest

end

end Layout

/-! ### Three texts -/

namespace Draft

/-- The markers of a text. -/
def markers (draft : Draft) (artifact : Artifact) : List Marker :=
  (draft.get artifact).markers

lemma markers_map (write : Layout.Buffer → Layout.Buffer) (draft : Draft) (artifact : Artifact) :
    markers (draft.map write) artifact = (write (draft.get artifact)).markers := by
  rw [markers, Bundle.get_map]

lemma markers_ofFn (buffers : Artifact → Layout.Buffer) (artifact : Artifact) :
    markers (.ofFn buffers) artifact = (buffers artifact).markers := by
  rw [markers, Bundle.get_ofFn]

/-- The second draft has some markers more, the same on each text. -/
def Adds (marks : List Marker) (before after : Draft) : Prop :=
  ∀ artifact, after.markers artifact = before.markers artifact ++ marks

/-- Whatever markers the second draft has more, they are the same on each text. -/
def InStep (before after : Draft) : Prop :=
  ∃ marks, Adds marks before after

section

variable {before middle after : Draft} {marks more : List Marker}

lemma adds_refl (draft : Draft) : Adds [] draft draft :=
  fun _ => (List.append_nil _).symm

lemma Adds.append (h : Adds marks before middle) (hmore : Adds more middle after) :
    Adds (marks ++ more) before after := by
  intro artifact
  rw [hmore, h, List.append_assoc]

lemma Adds.nil_trans (h : Adds [] before middle) (hmore : Adds [] middle after) :
    Adds [] before after :=
  h.append hmore

lemma InStep.trans (h : InStep before middle) (hmore : InStep middle after) : InStep before after :=
  have ⟨_, hmarks⟩ := h
  have ⟨_, hrest⟩ := hmore
  ⟨_, hmarks.append hrest⟩

lemma inStep_refl (draft : Draft) : InStep draft draft :=
  ⟨[], adds_refl draft⟩

end

lemma adds_writeAll (line : String) : Keeps (Adds []) (writeAll line) := by
  intro draft artifact
  refine (markers_map (·.add line) draft artifact).trans ?_
  rw [Layout.Buffer.markers_add, List.append_nil]
  rfl

lemma adds_writeLines (lines : Bundle String) : Keeps (Adds []) (writeLines lines) := by
  intro draft artifact
  refine (markers_ofFn (fun place => (draft.get place).add (lines.get place)) artifact).trans ?_
  rw [Layout.Buffer.markers_add, List.append_nil]
  rfl

lemma adds_markAll (marker : Marker) : Keeps (Adds [marker]) (markAll marker) := by
  intro draft artifact
  exact (markers_map (·.mark marker) draft artifact).trans (Layout.Buffer.markers_mark _ marker)

lemma adds_writeHeader (about : Bundle String) : Keeps (Adds []) (writeHeader about) :=
  (adds_writeAll notice).bind .nil_trans fun _ =>
    (adds_writeLines _).bind .nil_trans fun _ => adds_writeAll ""

/-- Closing a region writes its marker and a blank line. -/
lemma adds_closeRegion : Keeps (Adds [.closing]) closeRegion :=
  fun draft => (adds_markAll .closing draft).append (adds_writeAll "" _)

/-- Writing to one text adds no markers, also if it crashes. -/
lemma adds_write (place : Artifact) (steps : List Layout.Step) : Keeps (Adds []) (write place steps) := by
  intro draft
  have hkeeps := Layout.keeps_runAll steps (draft.get place)
  have hset : ∀ buffer, Layout.SameMarkers (draft.get place) buffer →
      Adds [] draft (draft.set place buffer) := by
    intro buffer hbuffer artifact
    rw [markers, Bundle.get_set, List.append_nil]
    split
    · next heq =>
        rw [heq]
        exact hbuffer
    · rfl
  rw [write]
  cases hrun : Layout.runAll steps (draft.get place) with
  | ok u buffer =>
      rw [hrun] at hkeeps
      exact hset buffer hkeeps
  | error crash buffer =>
      rw [hrun] at hkeeps
      exact hset buffer hkeeps

mutual

/-- A step adds the same markers to each text, however it ends. -/
lemma Step.keeps_run : ∀ step : Step, Keeps InStep step.run
  | .header about => fun draft => ⟨_, adds_writeHeader about draft⟩
  | .openRegion name => fun draft => ⟨_, adds_markAll (.opening name) draft⟩
  | .closeRegion => fun draft => ⟨_, adds_closeRegion draft⟩
  | .region name body => by
      have hopen : Keeps InStep (Draft.openRegion name) :=
        fun draft => ⟨_, adds_markAll (.opening name) draft⟩
      have hclose : Keeps InStep Draft.closeRegion := fun draft => ⟨_, adds_closeRegion draft⟩
      exact hopen.bind .trans fun _ => (keeps_runAll body).bind .trans fun _ => hclose
  | .fail _ => inStep_refl
  | .write place steps => fun draft => ⟨_, adds_write place steps draft⟩

/-- Steps add the same markers to each text, wherever they end early. -/
lemma keeps_runAll : ∀ steps : List Step, Keeps InStep (runAll steps)
  | [] => keeps_pure inStep_refl ()
  | step :: rest => step.keeps_run.bind .trans fun _ => keeps_runAll rest

end

/-- What is left when steps are attempted one after the other, each on what the one before it leaves,
whether that one fails or not. -/
def attempt (draft : Draft) (steps : List Step) : Draft :=
  steps.foldl (fun draft step => final (step.run draft)) draft

lemma inStep_attempt (steps : List Step) (draft : Draft) : InStep draft (draft.attempt steps) := by
  induction steps generalizing draft with
  | nil => exact inStep_refl draft
  | cons step rest ih => exact (step.keeps_run draft).trans (ih _)

/-- From empty texts on, all three have the same markers. -/
lemma markers_attempt_empty (steps : List Step) (artifact other : Artifact) :
    (empty.attempt steps).markers artifact = (empty.attempt steps).markers other := by
  obtain ⟨marks, hmarks⟩ := inStep_attempt steps empty
  have hempty : ∀ place, empty.markers place = [] := fun place => by
    rw [empty, markers_ofFn]
    rfl
  rw [hmarks, hmarks, hempty, hempty]

/-- The markers that a step writes which is no region. -/
def Step.ownMarkers : Step → List Marker
  | .openRegion name => [.opening name]
  | .closeRegion => [.closing]
  | _ => []

lemma adds_ownMarkers {step : Step} (h : ∀ name body, step ≠ .region name body) :
    Keeps (Adds step.ownMarkers) step.run := by
  cases step with
  | header about => exact adds_writeHeader about
  | openRegion name => exact adds_markAll (.opening name)
  | closeRegion => exact adds_closeRegion
  | region name body => exact absurd rfl (h name body)
  | fail fault => exact adds_refl
  | write place steps => exact adds_write place steps

/-- The two ways in which a region ends. Its body starts behind the opening marker. The closing marker is
written if the body succeeds, and otherwise everything is left as it is where the body fails. -/
lemma adds_region (name : String) (body : List Step) (draft : Draft) : ∃ opened marks inner,
    openRegion name draft = .ok () opened ∧ Adds marks opened inner ∧
      ((runAll body opened = .ok () inner ∧
          ∃ after, (Step.region name body).run draft = .ok () after ∧
            Adds (.opening name :: (marks ++ [.closing])) draft after) ∨
        ∃ stop, runAll body opened = .error stop inner ∧
          (Step.region name body).run draft = .error stop inner ∧
          Adds (.opening name :: marks) draft inner) := by
  obtain ⟨opened, hopen⟩ : ∃ opened, openRegion name draft = .ok () opened := ⟨_, rfl⟩
  have hopened : Adds [.opening name] draft (final (openRegion name draft)) :=
    adds_markAll (.opening name) draft
  have hinner := keeps_runAll body opened
  rw [hopen] at hopened
  cases hbody : runAll body opened with
  | ok u inner =>
      rw [hbody] at hinner
      obtain ⟨marks, hmarks⟩ := hinner
      have hrun : (Step.region name body).run draft = closeRegion inner :=
        (run_bind_ok hopen).trans (run_bind_ok hbody)
      exact ⟨opened, marks, inner, hopen, hmarks, .inl ⟨hbody, _, hrun,
        hopened.append (hmarks.append (adds_closeRegion inner))⟩⟩
  | error stop inner =>
      rw [hbody] at hinner
      obtain ⟨marks, hmarks⟩ := hinner
      have hrun : (Step.region name body).run draft = .error stop inner :=
        (run_bind_ok hopen).trans (run_bind_error hbody)
      exact ⟨opened, marks, inner, hopen, hmarks, .inr ⟨stop, hbody, hrun, hopened.append hmarks⟩⟩

end Draft

/-! ### Nested regions -/

namespace Region

/-- Markers of regions, each of which is closed, and later than those that are opened in it. -/
inductive Nested : List Marker → Prop
  | nil : Nested []
  | region (name : String) {inner rest : List Marker} (hinner : Nested inner) (hrest : Nested rest) :
      Nested (regionMarkers name inner ++ rest)

lemma nested_flatMap {α : Type} {xs : List α} {name : α → String} {inner : α → List Marker}
    (h : ∀ x ∈ xs, Nested (inner x)) : Nested (xs.flatMap fun x => regionMarkers (name x) (inner x)) := by
  induction xs with
  | nil => exact .nil
  | cons x xs ih =>
      rw [List.forall_mem_cons] at h
      exact .region (name x) h.1 (ih h.2)

lemma nested_libraryMarkers : Nested Source.libraryMarkers :=
  nested_flatMap fun _ _ => nested_flatMap fun _ _ => .nil

end Region

/-! ### Generated texts -/

open Source

lemma markers_extend_empty (lines : Artifact → List Layout.Line) (artifact : Artifact) :
    (Draft.empty.extend lines).markers artifact = markersIn (lines artifact) := by
  rw [Draft.extend, Draft.markers_ofFn, Draft.empty, Bundle.get_ofFn]
  simp [Layout.Buffer.markers, Layout.Buffer.extend, Layout.Buffer.empty]

/-- The lines of a text that look like markers are its markers. In the texts beside the kernel text
nothing comes from the table, so it may have line feeds in its names. -/
lemma markerLines_libraryTexts {recipe : Recipe} {artifact : Artifact}
    (h : artifact ≠ .kernels ∨ recipe.table.OneLine) :
    (textLines ((libraryTexts recipe.chapters).get artifact)).filter isMarkerLine =
      libraryMarkers.map Marker.text := by
  have hshown : ∀ other : Recipe, other.table.OneLine →
      (textLines ((libraryTexts other.chapters).get artifact)).filter isMarkerLine =
        libraryMarkers.map Marker.text := by
    intro other htable
    rw [textLines_libraryTexts (Recipe.oneLine_chapters htable), List.filter_append,
      filter_isMarkerLine (evident_libraryLines other artifact), markersIn_libraryLines]
    exact List.append_nil _
  cases h with
  | inl hother =>
      rw [libraryTexts_eq_of_ne hother recipe (.shipped .full)]
      exact hshown _ BindingTable.oneLine_shipped
  | inr htable => exact hshown recipe htable

/-- Whatever steps are attempted, in whatever order and however each of them ends, the same markers are
added to the three texts, so that from empty texts on all three have the same ones. A step that is no region
adds its own marker if it has one. A region adds its opening marker and those that its body adds; if the
body succeeds, also a closing one, and if it ends early, with a defect or a crash, nothing more.

The markers of the texts that a recipe generates are those of a region for each operation, which holds one
for each type that is not reserved. They are the lines of each text that look like markers; provided, for
the kernel text, that no name in the table has a line feed. -/
theorem regions_lock_step :
    (∀ (draft : Draft) (steps : List Draft.Step), Draft.InStep draft (draft.attempt steps)) ∧
    (∀ (steps : List Draft.Step) (artifact other : Artifact),
      (Draft.empty.attempt steps).markers artifact = (Draft.empty.attempt steps).markers other) ∧
    (∀ (draft : Draft) (step : Draft.Step), (∀ name body, step ≠ .region name body) →
      Draft.Adds step.ownMarkers draft (final (step.run draft))) ∧
    (∀ (draft : Draft) (name : String) (body : List Draft.Step), ∃ opened marks inner,
      Draft.openRegion name draft = .ok () opened ∧ Draft.Adds marks opened inner ∧
        ((Draft.runAll body opened = .ok () inner ∧
            ∃ after, (Draft.Step.region name body).run draft = .ok () after ∧
              Draft.Adds (.opening name :: (marks ++ [.closing])) draft after) ∨
          ∃ stop, Draft.runAll body opened = .error stop inner ∧
            (Draft.Step.region name body).run draft = .error stop inner ∧
            Draft.Adds (.opening name :: marks) draft inner)) ∧
    Region.Nested libraryMarkers ∧
    ∀ (recipe : Recipe) (texts : Bundle String) (log : Array Log.Record),
      recipe.generate = (.ok texts, log) →
        ∃ draft, Draft.runAll (librarySteps recipe.chapters) .empty = .ok () draft ∧
          texts = draft.texts ∧ ∀ artifact, draft.markers artifact = libraryMarkers ∧
            (artifact ≠ .kernels ∨ recipe.table.OneLine →
              (textLines (texts.get artifact)).filter isMarkerLine =
                libraryMarkers.map Marker.text) := by
  refine ⟨fun draft steps => Draft.inStep_attempt steps draft, Draft.markers_attempt_empty,
    fun draft step hstep => Draft.adds_ownMarkers hstep draft,
    fun draft name body => Draft.adds_region name body draft, nested_libraryMarkers,
    fun recipe texts log hgenerate => ?_⟩
  rw [Recipe.generate_of_check (Recipe.check_of_generate hgenerate)] at hgenerate
  obtain ⟨htexts, -⟩ := Prod.mk.inj hgenerate
  rw [← Except.ok.inj htexts]
  refine ⟨_, run_librarySteps recipe.chapters, rfl, fun artifact => ⟨?_, markerLines_libraryTexts⟩⟩
  rw [markers_extend_empty, markersIn_libraryLines]

/-- The shipped tables generate three texts with the same regions. -/
theorem regions_lock_step_shipped : ∃ texts log,
    (Recipe.shipped .full).generate = (.ok texts, log) ∧ ∀ artifact,
      (textLines (texts.get artifact)).filter isMarkerLine = libraryMarkers.map Marker.text := by
  have hgenerate := Recipe.generate_shipped .full
  obtain ⟨-, -, -, -, -, hgenerated⟩ := regions_lock_step
  obtain ⟨draft, -, -, hmarkers⟩ := hgenerated _ _ _ hgenerate
  exact ⟨_, _, hgenerate, fun artifact => (hmarkers artifact).2 (.inr BindingTable.oneLine_shipped)⟩

/-- A crash on one text leaves two regions open on all of them, and the next step goes on from there. -/
example (artifact : Artifact) :
    (Draft.empty.attempt [.region "add" [.region "add/i32" [.write .traits [.pop]]], .closeRegion]).markers
      artifact = [.opening "add", .opening "add/i32", .closing] := by
  cases artifact <;> rfl

end LaneKernels
