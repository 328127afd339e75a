import Mathlib.Tactic
import LaneKernels.Proofs.Generation.AllOrNothing
import LaneKernels.Proofs.Output.Effects

/-!
What the stages of a run leave in the three files, where they end well and where they fail.

* `create_progress`: opening empties the files one after the other, up to the first that cannot be opened.
* `write_progress`: writing puts each text over what its file holds, up to the first that takes none.
* `writeLibrary_cases` puts both together. Generating never fails, so a run fails in one of these six
  places only.
-/

namespace LaneKernels

open FileTree Session

/-- The files that come before one. -/
def Artifact.earlier (artifact : Artifact) : List Artifact :=
  all.takeWhile (· ≠ artifact)

namespace OutputFiles

variable {α β : Type} {dir : String} {session after : Session}

/-! ### Running on a file tree -/

section

variable {first : ExceptT Stop (StateM Session) α} {next : α → ExceptT Stop (StateM Session) β}

/-- A run goes on where its first part ended. -/
lemma run_bind_of_ok {value : α} (h : first.run session = (.ok value, after)) :
    (first >>= next).run session = (next value).run after := by
  have hbind : (first >>= next).run session =
      ExceptT.bindCont next (first.run session).1 (first.run session).2 := rfl
  rw [hbind, h]
  rfl

/-- A run ends where its first part failed. -/
lemma run_bind_of_error {stop : Stop} (h : first.run session = (.error stop, after)) :
    (first >>= next).run session = (.error stop, after) := by
  have hbind : (first >>= next).run session =
      ExceptT.bindCont next (first.run session).1 (first.run session).2 := rfl
  rw [hbind, h]
  rfl

end

lemma run_lift (action : StateM Session α) (session : Session) :
    (ExceptT.lift action : ExceptT Stop (StateM Session) α).run session =
      (.ok (action.run session).1, (action.run session).2) := rfl

lemma host_create (path : String) (session : Session) : (host.create path).run session =
    match session.tree.create path with
    | .ok (handle, tree) => (.ok handle, ⟨tree, session.log⟩)
    | .error cause => (.error cause, session) := rfl

lemma host_write (handle : Handle) (text : String) (session : Session) :
    (host.write handle text).run session =
    match session.tree.write handle (bytesOf text) with
    | .ok tree => (.ok (), ⟨tree, session.log⟩)
    | .error cause => (.error cause, session) := rfl

/-- Logging does not touch the tree. -/
lemma forM_log (records : List Log.Record) (session : Session) :
    (records.forM host.log).run session = ((), ⟨session.tree, session.log ++ records.toArray⟩) := by
  rw [List.forM_eq_forM]
  induction records generalizing session with
  | nil => rw [Array.append_empty]; rfl
  | cons record rest ih =>
      rw [List.forM_cons]
      refine (ih ⟨session.tree, session.log.push record⟩).trans ?_
      simp

/-! ### Opening the files -/

/-- The files are open in a directory. -/
def OpenIn (files : OutputFiles Handle) (dir : String) (tree : FileTree) : Prop :=
  ∀ artifact, (files.get artifact).path = path dir artifact ∧
    tree.Opens (path dir artifact) (files.get artifact).handle

/-- Files stay open while their handles do. -/
lemma OpenIn.mono {files : OutputFiles Handle} {before after : FileTree} (h : files.OpenIn dir before)
    (hopens : ∀ path handle, before.Opens path handle → after.Opens path handle) :
    files.OpenIn dir after :=
  fun artifact => ⟨(h artifact).1, hopens _ _ (h artifact).2⟩

lemma createOne_cases (dir : String) (artifact : Artifact) (session : Session) :
    (∃ cause, session.tree.create (path dir artifact) = .error cause ∧
      (createOne host dir artifact).run session =
        (.error (.fault (.cannotOpen (path dir artifact) cause)), session)) ∨
    ∃ handle after location,
      (createOne host dir artifact).run session = (.ok ⟨path dir artifact, handle⟩, after) ∧
      Rewrites session.tree after.tree (path dir artifact) handle [] location := by
  rw [createOne, run_bind_of_ok (run_lift _ _), host_create]
  cases hcreate : session.tree.create (path dir artifact) with
  | error cause => exact .inl ⟨cause, rfl, rfl⟩
  | ok opened =>
      obtain ⟨handle, tree⟩ := opened
      obtain ⟨location, hstep⟩ := rewrites_create hcreate
      exact .inr ⟨handle, _, location, rfl, hstep⟩

/-- Opening the files empties all of them, or those before the first that cannot be opened. -/
lemma create_progress (dir : String) (session : Session) :
    match (OutputFiles.create host dir).run session with
    | (.ok files, after) => files.OpenIn dir after.tree ∧
        Progress dir session.tree after.tree ⟨some [], some [], some []⟩
    | (.error stop, after) => ∃ failing cause, stop = .fault (.cannotOpen (path dir failing) cause) ∧
        after.tree.create (path dir failing) = .error cause ∧
        Progress dir session.tree after.tree
          (.ofFn fun artifact => if artifact ∈ failing.earlier then some [] else none) := by
  rw [OutputFiles.create]
  rcases createOne_cases dir .kernels session with
    ⟨cause, hcreate, hkernels⟩ | ⟨kernels, session₁, place₁, hkernels, hstep₁⟩
  · rw [run_bind_of_error hkernels]
    exact ⟨.kernels, cause, rfl, hcreate, .start⟩
  have hprogress₁ := Progress.start.step hstep₁
  rw [run_bind_of_ok hkernels]
  rcases createOne_cases dir .traits session₁ with
    ⟨cause, hcreate, htraits⟩ | ⟨traits, session₂, place₂, htraits, hstep₂⟩
  · rw [run_bind_of_error htraits]
    exact ⟨.traits, cause, rfl, hcreate, hprogress₁⟩
  have hprogress₂ := hprogress₁.step hstep₂
  rw [run_bind_of_ok htraits]
  rcases createOne_cases dir .arrays session₂ with
    ⟨cause, hcreate, harrays⟩ | ⟨arrays, session₃, place₃, harrays, hstep₃⟩
  · rw [run_bind_of_error harrays]
    exact ⟨.arrays, cause, rfl, hcreate, hprogress₂⟩
  rw [run_bind_of_ok harrays]
  refine ⟨fun artifact => ?_, hprogress₂.step hstep₃⟩
  cases artifact with
  | kernels => exact ⟨rfl, hstep₃.opens (hstep₂.opens hstep₁.handle_opens)⟩
  | traits => exact ⟨rfl, hstep₃.opens hstep₂.handle_opens⟩
  | arrays => exact ⟨rfl, hstep₃.handle_opens⟩

/-! ### Writing the texts -/

lemma writeOne_cases (session : Session) (file : OutputFile Handle) {place : String} {old : List UInt8}
    (hfile : file.path = place ∧ session.tree.Opens place file.handle)
    (hold : session.tree.bytesAt? place = some old) (text : String) :
    (session.tree.at? place = some .fullDevice ∧ (writeOne host file text).run session =
      (.error (.fault (.cannotWrite place .noSpace)), session)) ∨
    ∃ after location, (writeOne host file text).run session = (.ok (), after) ∧
      Rewrites session.tree after.tree place file.handle (overlay (bytesOf text) old) location := by
  obtain ⟨rfl, hopens⟩ := hfile
  rw [writeOne, run_bind_of_ok (run_lift _ _), host_write]
  cases hwrite : session.tree.write file.handle (bytesOf text) with
  | error cause =>
      obtain ⟨hdevice, rfl⟩ := at?_of_write_error hopens hwrite
      exact .inl ⟨hdevice, rfl⟩
  | ok tree =>
      obtain ⟨location, hstep⟩ := rewrites_write hopens hold hwrite
      exact .inr ⟨_, location, rfl, hstep⟩

/-- Writing the texts puts each over what its file holds, or only those before the first file that takes
none. -/
lemma write_progress (session : Session) {files : OutputFiles Handle} {before : FileTree}
    {old : Bundle (List UInt8)} (hfiles : files.OpenIn dir session.tree)
    (h : Progress dir before session.tree (old.map some)) (texts : Bundle String) :
    match (OutputFiles.write host files texts).run session with
    | (.ok _, after) => Progress dir before after.tree
        (.ofFn fun artifact => some (overlay (bytesOf (texts.get artifact)) (old.get artifact)))
    | (.error stop, after) => ∃ failing, stop = .fault (.cannotWrite (path dir failing) .noSpace) ∧
        after.tree.at? (path dir failing) = some .fullDevice ∧
        Progress dir before after.tree (.ofFn fun artifact => some
          (if artifact ∈ failing.earlier then overlay (bytesOf (texts.get artifact)) (old.get artifact)
          else old.get artifact)) := by
  rw [OutputFiles.write]
  rcases writeOne_cases session files.kernels (hfiles .kernels) (h.bytesAt?_eq rfl) texts.kernels with
    ⟨hdevice, hkernels⟩ | ⟨session₁, place₁, hkernels, hstep₁⟩
  · rw [run_bind_of_error hkernels]
    exact ⟨.kernels, rfl, hdevice, h⟩
  have hprogress₁ := h.step hstep₁
  have hfiles₁ : files.OpenIn dir session₁.tree := hfiles.mono fun _ _ => hstep₁.opens
  rw [run_bind_of_ok hkernels]
  rcases writeOne_cases session₁ files.traits (hfiles₁ .traits) (hprogress₁.bytesAt?_eq rfl)
    texts.traits with ⟨hdevice, htraits⟩ | ⟨session₂, place₂, htraits, hstep₂⟩
  · rw [run_bind_of_error htraits]
    exact ⟨.traits, rfl, hdevice, hprogress₁⟩
  have hprogress₂ := hprogress₁.step hstep₂
  have hfiles₂ : files.OpenIn dir session₂.tree := hfiles₁.mono fun _ _ => hstep₂.opens
  rw [run_bind_of_ok htraits]
  rcases writeOne_cases session₂ files.arrays (hfiles₂ .arrays) (hprogress₂.bytesAt?_eq rfl)
    texts.arrays with ⟨hdevice, harrays⟩ | ⟨session₃, place₃, harrays, hstep₃⟩
  · rw [harrays]
    exact ⟨.arrays, rfl, hdevice, hprogress₂⟩
  rw [harrays]
  exact hprogress₂.step hstep₃

/-- Opened files are empty, so what is written to them is all that they hold. -/
lemma write_progress_of_empty {before : FileTree} {files : OutputFiles Handle} (opened : Session)
    (hfiles : files.OpenIn dir opened.tree)
    (h : Progress dir before opened.tree ⟨some [], some [], some []⟩) (texts : Bundle String) :
    match (OutputFiles.write host files texts).run opened with
    | (.ok _, after) => Progress dir before after.tree
        (.ofFn fun artifact => some (bytesOf (texts.get artifact)))
    | (.error stop, after) => ∃ failing, stop = .fault (.cannotWrite (path dir failing) .noSpace) ∧
        after.tree.at? (path dir failing) = some .fullDevice ∧
        Progress dir before after.tree (.ofFn fun artifact =>
          some (if artifact ∈ failing.earlier then bytesOf (texts.get artifact) else [])) := by
  have hempty : Progress dir before opened.tree (Bundle.map some ⟨[], [], []⟩) := h
  have hwrite := write_progress opened hfiles hempty texts
  have hold : ∀ artifact, Bundle.get ⟨[], [], []⟩ artifact = ([] : List UInt8) := by
    rintro (_ | _ | _) <;> rfl
  simpa only [hold, overlay_nil] using hwrite

end OutputFiles

/-! ### A whole run -/

open OutputFiles

section

variable {tiers : TierSet} {texts : Bundle String} {log : Array Log.Record} {dir : String}
  {session opened : Session}

/-- A run ends with the files it cannot open. -/
lemma writeLibrary_of_create_error {stop : Stop}
    (h : (OutputFiles.create host dir).run session = (.error stop, opened)) :
    (writeLibrary host dir tiers).run session = (.error stop, opened) :=
  run_bind_of_error h

/-- Generating comes between opening the files and writing to them, and touches no file. -/
lemma writeLibrary_of_create_ok {files : OutputFiles Handle}
    (hgenerate : (Recipe.shipped tiers).generate = (.ok texts, log))
    (h : (OutputFiles.create host dir).run session = (.ok files, opened)) :
    (writeLibrary host dir tiers).run session =
      (OutputFiles.write host files texts).run ⟨opened.tree, opened.log ++ log⟩ := by
  have hlog : (log.forM host.log).run opened = ((), ⟨opened.tree, opened.log ++ log⟩) := by
    obtain ⟨records⟩ := log
    rw [Array.forM_eq_forM, List.forM_toArray, forM_log]
  rw [writeLibrary, hgenerate, run_bind_of_ok h]
  dsimp only
  rw [run_bind_of_ok (run_lift _ _), hlog]

end

/-- A run leaves the generated texts in the three files, or stops at one that cannot be opened, with those
before it emptied, or at one that is the device and takes no text, with those before it written and those
behind it emptied. -/
lemma writeLibrary_cases {tiers : TierSet} {texts : Bundle String} {log : Array Log.Record}
    (hgenerate : (Recipe.shipped tiers).generate = (.ok texts, log)) (dir : String) (session : Session) :
    match (writeLibrary host dir tiers).run session with
    | (.ok _, after) => Progress dir session.tree after.tree
        (.ofFn fun artifact => some (bytesOf (texts.get artifact)))
    | (.error stop, after) =>
        (∃ failing cause, stop = .fault (.cannotOpen (path dir failing) cause) ∧
          after.tree.create (path dir failing) = .error cause ∧ Progress dir session.tree after.tree
            (.ofFn fun artifact => if artifact ∈ failing.earlier then some [] else none)) ∨
        ∃ failing, stop = .fault (.cannotWrite (path dir failing) .noSpace) ∧
          after.tree.at? (path dir failing) = some .fullDevice ∧ Progress dir session.tree after.tree
            (.ofFn fun artifact =>
              some (if artifact ∈ failing.earlier then bytesOf (texts.get artifact) else [])) := by
  have hcreate := create_progress dir session
  rcases hopened : (OutputFiles.create host dir).run session with ⟨stop | files, opened⟩
  · rw [hopened] at hcreate
    rw [writeLibrary_of_create_error hopened]
    exact .inl hcreate
  rw [hopened] at hcreate
  obtain ⟨hfiles, hprogress⟩ := hcreate
  rw [writeLibrary_of_create_ok hgenerate hopened]
  have hwrite := write_progress_of_empty ⟨opened.tree, opened.log ++ log⟩ hfiles hprogress texts
  rcases hwritten : (OutputFiles.write host files texts).run ⟨opened.tree, opened.log ++ log⟩ with
    ⟨stop | _, after⟩
  · rw [hwritten] at hwrite
    exact .inr hwrite
  · rw [hwritten] at hwrite
    exact hwrite

/-- What a run leaves, without the reason for a failure. -/
lemma writeLibrary_progress {tiers : TierSet} {texts : Bundle String} {log : Array Log.Record}
    (hgenerate : (Recipe.shipped tiers).generate = (.ok texts, log)) (dir : String) (session : Session) :
    match (writeLibrary host dir tiers).run session with
    | (.ok _, after) => Progress dir session.tree after.tree
        (.ofFn fun artifact => some (bytesOf (texts.get artifact)))
    | (.error stop, after) => ∃ failing cause,
        stop = .fault (.cannotOpen (path dir failing) cause) ∧ Progress dir session.tree after.tree
          (.ofFn fun artifact => if artifact ∈ failing.earlier then some [] else none) ∨
        stop = .fault (.cannotWrite (path dir failing) cause) ∧ Progress dir session.tree after.tree
          (.ofFn fun artifact =>
            some (if artifact ∈ failing.earlier then bytesOf (texts.get artifact) else [])) := by
  have hcases := writeLibrary_cases hgenerate dir session
  generalize (writeLibrary host dir tiers).run session = outcome at hcases
  rcases outcome with ⟨stop | _, after⟩
  · obtain ⟨failing, cause, hstop, -, hprogress⟩ | ⟨failing, hstop, -, hprogress⟩ := hcases
    · exact ⟨failing, cause, .inl ⟨hstop, hprogress⟩⟩
    · exact ⟨failing, .noSpace, .inr ⟨hstop, hprogress⟩⟩
  · exact hcases

end LaneKernels
