import Mathlib.Tactic
import LaneKernels.CommandLine
import LaneKernels.Proofs.Output.Stages

/-!
What the program leaves behind.

* A path `Takes` a text if it leads to a file or to nothing. A run succeeds exactly if the paths of its
  three files do (`writeLibrary_eq_ok_iff`): opening or writing only fails at one that does not, and no
  step changes which ones do (`Progress.takes`).
* In the working directory a run that succeeds leaves the texts in the three files and everything else as
  it was (`Delivered`).
* `CommandLine.run_outcome` puts this together with what comes before a run, the arguments and the
  selection of tiers, and with the exit code.
-/

namespace LaneKernels

open FileTree OutputFiles Session

/-! ### Where a text can go -/

/-- The entry is a file. -/
def Entry.IsFile (entry : Entry) : Prop :=
  ∃ birth bytes, entry = .file birth bytes

namespace Rewritten

variable {bytes : List UInt8} {old new : Option Entry}

/-- A file, or nothing, is rewritten to a file. -/
lemma eq_file (h : Rewritten bytes old new) (hold : ∀ entry ∈ old, entry.IsFile) :
    ∃ birth, new = some (.file birth bytes) := by
  cases old with
  | none => exact h
  | some entry =>
      obtain ⟨birth, others, rfl⟩ := hold entry rfl
      exact ⟨birth, h.1⟩

/-- Only a file can be rewritten with bytes, or nothing. -/
lemma isFile (h : Rewritten bytes old new) (hne : bytes ≠ []) : ∀ entry ∈ old, entry.IsFile := by
  rintro entry rfl
  cases entry with
  | directory => exact nomatch h.2
  | file birth others => exact ⟨birth, others, rfl⟩
  | fullDevice => exact absurd (Option.some.inj h.2).symm hne

end Rewritten

namespace FileTree

/-- A path leads to a file or to nothing. -/
structure Takes (tree : FileTree) (path : String) : Prop where
  leads : ∃ location, tree.locate path = .ok location
  file : ∀ entry ∈ tree.at? path, entry.IsFile

variable {dir : String} {tree before after : FileTree} {path : String} {artifact : Artifact}
  {contents : Bundle (Option (List UInt8))}

lemma exists_location_of_at? {entry : Entry} (h : tree.at? path = some entry) :
    ∃ location, tree.locate path = .ok location := by
  cases hlocate : tree.locate path with
  | ok location => exact ⟨location, rfl⟩
  | error cause =>
      rw [at?, hlocate] at h
      cases h

/-- Such a path can be opened. -/
lemma Takes.create_ne_error (h : tree.Takes path) (cause : FileFault) :
    tree.create path ≠ .error cause := by
  obtain ⟨⟨location, hleads⟩, hfile⟩ := h
  rw [at?_eq hleads] at hfile
  rw [create, hleads]
  show tree.createAt location ≠ .error cause
  rw [createAt]
  cases hentry : tree.get? location with
  | none =>
      intro heq
      cases heq
  | some entry =>
      obtain ⟨birth, bytes, rfl⟩ := hfile entry hentry
      intro heq
      cases heq

/-- The steps of a run do not close a path. -/
lemma Progress.takes (h : Progress dir before after contents)
    (htakes : before.Takes (OutputFiles.path dir artifact)) :
    after.Takes (OutputFiles.path dir artifact) := by
  obtain ⟨⟨location, hleads⟩, hfile⟩ := htakes
  refine ⟨⟨location, h.sameDirectories.locate_eq_ok.mp hleads⟩, ?_⟩
  cases hcontents : contents.get artifact with
  | none => rwa [h.untouched artifact hcontents]
  | some bytes =>
      obtain ⟨birth, hafter⟩ := (h.rewritten artifact bytes hcontents).eq_file hfile
      rw [hafter]
      rintro entry ⟨⟩
      exact ⟨birth, bytes, rfl⟩

/-- A file that holds a text now had a path that takes one. -/
lemma Progress.takes_of_mem (h : Progress dir before after contents) {bytes : List UInt8}
    (hbytes : bytes ∈ contents.get artifact) (hne : bytes ≠ []) :
    before.Takes (OutputFiles.path dir artifact) := by
  have hfile := (h.rewritten artifact bytes hbytes).isFile hne
  refine ⟨?_, hfile⟩
  obtain ⟨birth, hafter⟩ := (h.rewritten artifact bytes hbytes).eq_file hfile
  obtain ⟨location, hleads⟩ := exists_location_of_at? hafter
  exact ⟨location, h.sameDirectories.locate_eq_ok.mpr hleads⟩

end FileTree

/-! ### Where a run succeeds -/

/-- No generated text is empty, as each ends with a line feed. -/
lemma bytesOf_libraryTexts_ne_nil (chapters : List Chapter) (artifact : Artifact) :
    bytesOf ((Source.libraryTexts chapters).get artifact) ≠ [] := by
  intro h
  have hempty : (Source.libraryTexts chapters).get artifact = "" :=
    String.utf8ByteSize_eq_zero_iff.mp (congrArg List.length h)
  rw [Source.libraryTexts, Draft.texts, Bundle.get_map, Layout.Buffer.text] at hempty
  exact absurd (String.append_eq_empty_iff.mp hempty).2 (by decide)

section

variable {tiers : TierSet} {dir : String} {session after : Session}

/-- A run that fails does so at a path that takes no text. -/
lemma exists_not_takes_of_error {stop : Stop}
    (h : (writeLibrary host dir tiers).run session = (.error stop, after)) :
    ∃ artifact, ¬session.tree.Takes (path dir artifact) := by
  have hcases := writeLibrary_cases (Recipe.generate_shipped tiers) dir session
  rw [h] at hcases
  obtain ⟨failing, cause, -, herror, hprogress⟩ | ⟨failing, -, hdevice, hprogress⟩ := hcases
  · exact ⟨failing, fun htakes => (hprogress.takes htakes).create_ne_error cause herror⟩
  · refine ⟨failing, fun htakes => ?_⟩
    -- the device that took no text was there before the run
    obtain ⟨birth, bytes, hfile⟩ := (hprogress.takes htakes).file _ hdevice
    exact nomatch hfile

lemma progress_of_ok (h : (writeLibrary host dir tiers).run session = (.ok (), after)) :
    Progress dir session.tree after.tree (.ofFn fun artifact =>
      some (bytesOf ((Source.libraryTexts (Recipe.shipped tiers).chapters).get artifact))) := by
  have hprogress := writeLibrary_progress (Recipe.generate_shipped tiers) dir session
  rw [h] at hprogress
  exact hprogress

/-- A run succeeds exactly if its three paths lead to files or to nothing. -/
theorem writeLibrary_eq_ok_iff :
    (∃ after, (writeLibrary host dir tiers).run session = (.ok (), after)) ↔
      ∀ artifact, session.tree.Takes (path dir artifact) := by
  refine ⟨fun ⟨after, h⟩ artifact => ?_, fun htakes => ?_⟩
  · exact (progress_of_ok h).takes_of_mem (Bundle.get_ofFn _ artifact)
      (bytesOf_libraryTexts_ne_nil _ artifact)
  · rcases h : (writeLibrary host dir tiers).run session with ⟨stop | _, after⟩
    · obtain ⟨artifact, hnot⟩ := exists_not_takes_of_error h
      exact absurd (htakes artifact) hnot
    · exact ⟨after, rfl⟩

end

/-! ### The working directory -/

lemma path_here (artifact : Artifact) : path "." artifact = "./" ++ artifact.fileName := by
  have hslash : ¬".".endsWith "/" := fun h =>
    absurd (String.Slice.endsWith_string_iff.mp h) (by decide)
  have hdot : ¬(".".isEmpty || ".".endsWith "/") := by simpa using hslash
  rw [path, joinPath, if_neg hdot]
  rfl

lemma locate_here (tree : FileTree) (artifact : Artifact) :
    tree.locate (path "." artifact) = .ok [artifact.fileName] := by
  refine FileTree.locate_eq_ok.mpr ⟨by rw [path_here]; cases artifact <;> decide, ?_⟩
  have henter : tree.enter [] (components ".") = .ok [] := rfl
  rw [components_path, walk_concat, henter]
  exact descend_fileName [] artifact

lemma takes_here_iff {tree : FileTree} {artifact : Artifact} :
    tree.Takes (path "." artifact) ↔ ∀ entry ∈ tree.get? [artifact.fileName], entry.IsFile := by
  rw [← at?_eq (locate_here tree artifact)]
  exact ⟨Takes.file, Takes.mk ⟨_, locate_here tree artifact⟩⟩

/-- The three files of the working directory hold the texts, and everything else is as it was. -/
structure Delivered (texts : Bundle String) (before after : FileTree) : Prop where
  holds : ∀ artifact, ∃ birth,
    after.get? [artifact.fileName] = some (.file birth (bytesOf (texts.get artifact)))
  elsewhere : ∀ place, (∀ artifact, place ≠ [Artifact.fileName artifact]) →
    after.get? place = before.get? place

lemma delivered_of_ok {tiers : TierSet} {session after : Session}
    (h : (writeLibrary host "." tiers).run session = (.ok (), after)) :
    Delivered (Source.libraryTexts (Recipe.shipped tiers).chapters) session.tree after.tree where
  holds artifact := by
    have hrewritten := (progress_of_ok h).rewritten artifact _ (Bundle.get_ofFn _ artifact)
    rw [← at?_eq (locate_here after.tree artifact)]
    exact hrewritten.eq_file (hrewritten.isFile (bytesOf_libraryTexts_ne_nil _ artifact))
  elsewhere place hplace := by
    refine (progress_of_ok h).elsewhere place fun artifact hleads => hplace artifact ?_
    rw [locate_here] at hleads
    exact (Except.ok.inj hleads).symm

/-! ### The program -/

namespace CommandLine

section

variable {tiers : TierSet} {session after : Session}

lemma perform_of_ok (h : (writeLibrary host "." tiers).run session = (.ok (), after)) :
    (perform host (.ok tiers)).run session = (0, after) := by
  have hfirst : StateT.run (writeLibrary host "." tiers).run session = (.ok (), after) := h
  rw [perform, StateT.run_bind, hfirst]
  rfl

lemma perform_of_error {stop : Stop}
    (h : (writeLibrary host "." tiers).run session = (.error stop, after)) :
    (perform host (.ok tiers)).run session =
      (1, ⟨after.tree, after.log ++ (failureRecords stop).toArray⟩) := by
  have hfirst : StateT.run (writeLibrary host "." tiers).run session = (.error stop, after) := h
  rw [perform, StateT.run_bind, hfirst]
  show ((failureRecords stop).forM host.log >>= fun _ => pure 1).run after = _
  rw [StateT.run_bind, forM_log]
  rfl

lemma perform_of_fault (fault : Fault) (session : Session) :
    (perform host (.error fault)).run session =
      (1, ⟨session.tree, session.log ++ (failureRecords (.fault fault)).toArray⟩) := by
  show ((failureRecords (.fault fault)).forM host.log >>= fun _ => pure 1).run session = _
  rw [StateT.run_bind, forM_log]
  rfl

end

variable {interface : Interface} {invocation : Invocation} {tree : FileTree}

/-- Arguments that are answered without a run leave the tree as it is. -/
lemma run_of_answer {answer : Answer} (h : interface.answer? invocation.arguments = some answer) :
    run interface invocation tree = ⟨answer.code, answer.stdout, answer.stderr, tree⟩ := by
  rw [run, h]

/-- The log setting selects what is printed, and nothing else. -/
lemma run_logSetting (setting : Option ByteArray) :
    (run interface { invocation with logSetting := setting } tree).code =
        (run interface invocation tree).code ∧
      (run interface { invocation with logSetting := setting } tree).tree =
        (run interface invocation tree).tree := by
  rw [run, run]
  rcases interface.answer? invocation.arguments with _ | answer <;> exact ⟨rfl, rfl⟩

section

variable (hnone : interface.answer? invocation.arguments = none)

include hnone

/-- A run is performed on the tree, without a log. -/
lemma run_of_none {code : UInt32} {session : Session}
    (h : (perform host (TierSet.ofEnvironment invocation.tiers)).run (Session.start tree) =
      (code, session)) :
    (run interface invocation tree).code = code ∧
      (run interface invocation tree).tree = session.tree := by
  have hrun : ((run interface invocation tree).code, (run interface invocation tree).tree) =
      (((perform host (TierSet.ofEnvironment invocation.tiers)).run (Session.start tree)).1,
        ((perform host (TierSet.ofEnvironment invocation.tiers)).run (Session.start tree)).2.tree) := by
    rw [run, hnone]
    rfl
  rw [h] at hrun
  exact Prod.mk.inj hrun

/-- A selection that names no tier ends the run before a file is opened. -/
lemma run_of_fault {fault : Fault} (h : TierSet.ofEnvironment invocation.tiers = .error fault) :
    (run interface invocation tree).code = 1 ∧ (run interface invocation tree).tree = tree :=
  run_of_none hnone (h ▸ perform_of_fault fault (Session.start tree))

variable {tiers : TierSet} (htiers : TierSet.ofEnvironment invocation.tiers = .ok tiers)

include htiers

lemma run_of_ok {session : Session}
    (h : (writeLibrary host "." tiers).run (Session.start tree) = (.ok (), session)) :
    (run interface invocation tree).code = 0 ∧ (run interface invocation tree).tree = session.tree :=
  run_of_none hnone (htiers ▸ perform_of_ok h)

lemma run_of_error {stop : Stop} {session : Session}
    (h : (writeLibrary host "." tiers).run (Session.start tree) = (.error stop, session)) :
    (run interface invocation tree).code = 1 :=
  (run_of_none hnone (htiers ▸ perform_of_error h)).1

end

/-- However arguments are read and the log is printed: arguments that are answered without a run leave the
tree as it is, and the code and what is printed are the answer's. A run leaves the tree as it is if no
tiers can be selected: then the code is 1. With tiers the code is 0 exactly if generating into the working
directory succeeds, that is if nothing but files is in the way, and then the three files hold the
generated texts, whatever was there before, and everything else is as it was. Otherwise the code is 1.
Code and tree do not depend on the log setting. -/
theorem run_outcome (interface : Interface) (invocation : Invocation) (tree : FileTree) :
    (∀ answer, interface.answer? invocation.arguments = some answer →
        run interface invocation tree = ⟨answer.code, answer.stdout, answer.stderr, tree⟩) ∧
      (interface.answer? invocation.arguments = none →
        (∀ fault, TierSet.ofEnvironment invocation.tiers = .error fault →
          (run interface invocation tree).code = 1 ∧ (run interface invocation tree).tree = tree) ∧
        ∀ tiers, TierSet.ofEnvironment invocation.tiers = .ok tiers →
          ((run interface invocation tree).code = 0 ↔
            ∃ session, (writeLibrary host "." tiers).run (Session.start tree) = (.ok (), session)) ∧
          ((run interface invocation tree).code = 0 ↔
            ∀ artifact, ∀ entry ∈ tree.get? [Artifact.fileName artifact], entry.IsFile) ∧
          ((run interface invocation tree).code ≠ 0 → (run interface invocation tree).code = 1) ∧
          ∃ texts log, (Recipe.shipped tiers).generate = (.ok texts, log) ∧
            ((run interface invocation tree).code = 0 →
              Delivered texts tree (run interface invocation tree).tree)) ∧
      ∀ setting,
        (run interface { invocation with logSetting := setting } tree).code =
            (run interface invocation tree).code ∧
          (run interface { invocation with logSetting := setting } tree).tree =
            (run interface invocation tree).tree := by
  refine ⟨fun _ => run_of_answer, fun hnone => ⟨fun fault => run_of_fault hnone, fun tiers htiers => ?_⟩,
    run_logSetting⟩
  have hgenerate := Recipe.generate_shipped tiers
  have hfiles : (∃ session, (writeLibrary host "." tiers).run (Session.start tree) = (.ok (), session)) ↔
      ∀ artifact, ∀ entry ∈ tree.get? [Artifact.fileName artifact], entry.IsFile :=
    writeLibrary_eq_ok_iff.trans (forall_congr' fun _ => takes_here_iff)
  rw [← hfiles]
  -- whatever was asked before, the code says how generating ended
  rcases h : (writeLibrary host "." tiers).run (Session.start tree) with ⟨stop | _, session⟩
  · have hcode : (run interface invocation tree).code = 1 := run_of_error hnone htiers h
    have hfailed : ¬((run interface invocation tree).code = 0) := by rw [hcode]; decide
    refine ⟨iff_of_false hfailed nofun, iff_of_false hfailed nofun, fun _ => hcode, _, _, hgenerate,
      fun hzero => absurd hzero hfailed⟩
  · obtain ⟨hcode, htree⟩ := run_of_ok hnone htiers h
    refine ⟨iff_of_true hcode ⟨_, rfl⟩, iff_of_true hcode ⟨_, rfl⟩, fun hne => absurd hcode hne, _, _,
      hgenerate, fun _ => ?_⟩
    rw [htree]
    exact delivered_of_ok h

/-- Kernels from an earlier run, and a file that no run is about. -/
def staleTree : FileTree :=
  ⟨[(["kernels.rs"], .file 0 (bytesOf "old\n")), (["notes"], .file 1 (bytesOf "kept\n"))], 2⟩

/-- An interface that lets a run begin if there are no arguments, and prints nothing of the log. -/
def quietInterface : Interface where
  answer? arguments := if arguments = [] then none else some ⟨2, "", "unexpected argument\n"⟩
  printer _ := ⟨"", fun _ => ""⟩

/-- A run puts new texts in the place of old ones. -/
theorem run_outcome_stale : (run quietInterface ⟨[], none, some "off".toUTF8⟩ staleTree).code = 0 ∧
    ∃ texts, Delivered texts staleTree
      (run quietInterface ⟨[], none, some "off".toUTF8⟩ staleTree).tree := by
  obtain ⟨-, hgenerate, -⟩ := run_outcome quietInterface ⟨[], none, some "off".toUTF8⟩ staleTree
  obtain ⟨-, hfiles, -, texts, _, -, hdelivered⟩ := (hgenerate rfl).2 .full rfl
  have hzero := hfiles.mpr (by
    rintro (_ | _ | _) entry ⟨⟩
    exact ⟨0, _, rfl⟩)
  exact ⟨hzero, texts, hdelivered hzero⟩

end CommandLine

end LaneKernels
