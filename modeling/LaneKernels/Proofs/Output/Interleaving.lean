import Mathlib.Tactic
import LaneKernels.Proofs.Output.Stages

/-!
Several writers that share the files of one directory.

Opening the files empties them for everyone, but writing does not: every writer puts its texts over the
start of what is there. So a file can end with what is left of a longer text below a shorter one.

* A `Desk` is a file tree with the sets of files that are open on it. In a `Turn` a further set is opened,
  or one of the open sets is written to and closed.
* `layered` puts texts over each other: at each byte the latest text that reaches it shows
  (`getElem?_layered`).
* `Desk.Inv` is kept by each turn (`Desk.inv_turn`) and so by any sequence of turns (`Desk.inv_run`): a
  file holds the layers of all that was written to it since the files were opened last.
* `Desk.run_layered`: what this means for length and bytes of a file.
-/

namespace LaneKernels

open FileTree OutputFiles Session

/-! ### Texts over each other -/

/-- What a file holds after texts were written over its start, the first of them to an empty file. -/
def layered (texts : List (List UInt8)) : List UInt8 :=
  texts.foldl (fun below text => overlay text below) []

@[simp] lemma layered_concat (texts : List (List UInt8)) (text : List UInt8) :
    layered (texts ++ [text]) = overlay text (layered texts) := by
  rw [layered, List.foldl_append]
  rfl

lemma length_overlay (new old : List UInt8) : (overlay new old).length = max new.length old.length := by
  rw [overlay, List.length_append, List.length_drop]
  omega

lemma getElem?_overlay (new old : List UInt8) (p : ℕ) :
    (overlay new old)[p]? = if p < new.length then new[p]? else old[p]? := by
  rw [overlay]
  split
  case isTrue h => exact List.getElem?_append_left h
  case isFalse h =>
    rw [List.getElem?_append_right (not_lt.mp h), List.getElem?_drop, Nat.add_sub_cancel' (not_lt.mp h)]

/-- At each byte the latest text that is long enough shows. -/
lemma getElem?_layered (texts : List (List UInt8)) (p : ℕ) :
    (layered texts)[p]? = (texts.reverse.find? (p < ·.length)).bind (·[p]?) := by
  induction texts using List.reverseRecOn with
  | nil => rfl
  | append_singleton texts text ih =>
      rw [layered_concat, getElem?_overlay, List.reverse_append, List.reverse_singleton,
        List.singleton_append, List.find?_cons, ih]
      by_cases h : p < text.length <;> simp [h]

/-- No text is longer than all of them together. -/
lemma length_le_length_layered {texts : List (List UInt8)} :
    ∀ text ∈ texts, text.length ≤ (layered texts).length := by
  induction texts using List.reverseRecOn with
  | nil => exact fun _ h => absurd h List.not_mem_nil
  | append_singleton texts last ih =>
      intro text htext
      rw [layered_concat, length_overlay]
      rcases List.mem_append.mp htext with htext | htext
      · exact le_max_of_le_right (ih text htext)
      · exact le_max_of_le_left (List.mem_singleton.mp htext ▸ le_rfl)

/-- Together they are as long as one of them. -/
lemma exists_length_layered {texts : List (List UInt8)} (hne : texts ≠ []) :
    ∃ text ∈ texts, text.length = (layered texts).length := by
  induction texts using List.reverseRecOn with
  | nil => exact absurd rfl hne
  | append_singleton texts last ih =>
      rw [layered_concat, length_overlay]
      rcases le_total (layered texts).length last.length with hle | hle
      · exact ⟨last, List.mem_append_right _ List.mem_cons_self, (max_eq_left hle).symm⟩
      rw [max_eq_right hle]
      rcases eq_or_ne texts [] with rfl | htexts
      · exact ⟨last, List.mem_cons_self, Nat.le_zero.mp hle⟩
      · obtain ⟨text, htext, hlength⟩ := ih htexts
        exact ⟨text, List.mem_append_left _ htext, hlength⟩

/-- Nothing but the last text shows exactly if no other is longer. -/
lemma layered_eq_getLast_iff {texts : List (List UInt8)} (hne : texts ≠ []) :
    layered texts = texts.getLast hne ↔ ∀ text ∈ texts, text.length ≤ (texts.getLast hne).length := by
  obtain rfl | ⟨front, last, rfl⟩ := List.eq_nil_or_concat' texts
  · exact absurd rfl hne
  rw [List.getLast_append_singleton]
  refine ⟨fun hlast text htext => ?_, fun h => ?_⟩
  · have hlength := length_le_length_layered text htext
    rwa [hlast] at hlength
  · obtain ⟨text, htext, hlength⟩ := exists_length_layered hne
    have hwhole : (layered (front ++ [last])).length ≤ last.length := hlength ▸ h text htext
    rw [layered_concat, length_overlay, max_le_iff] at hwhole
    rw [layered_concat, overlay, List.drop_eq_nil_of_le hwhole.2, List.append_nil]

/-! ### Taking turns -/

/-- What the writers do: open the files, or write to files that one of them has opened, and close them. -/
inductive Turn where
  | opening
  | writing (position : ℕ) (texts : Bundle String)

/-- A file tree, and the files that are open, those of each writer together. -/
structure Desk where
  session : Session
  writers : List (OutputFiles Handle)

namespace Desk

/-- A tree before files are opened. -/
def start (tree : FileTree) : Desk :=
  ⟨.start tree, []⟩

/-- One turn on the files of a directory, if it succeeds. -/
def turn (dir : String) (desk : Desk) : Turn → Option Desk
  | .opening =>
    match (OutputFiles.create host dir).run desk.session with
    | (.ok files, session) => some ⟨session, desk.writers ++ [files]⟩
    | (.error _, _) => none
  | .writing position texts => do
    let files ← desk.writers[position]?
    match (OutputFiles.write host files texts).run desk.session with
    | (.ok _, session) => some ⟨session, desk.writers.eraseIdx position⟩
    | (.error _, _) => none

/-- Turns one after the other, if all succeed. -/
def run (dir : String) (desk : Desk) (turns : List Turn) : Option Desk :=
  turns.foldlM (turn dir) desk

end Desk

/-- The texts that were written to a file since the files were opened last. -/
def writtenSince (artifact : Artifact) (turns : List Turn) : List (List UInt8) :=
  turns.foldl (fun texts turn =>
    match turn with
    | .opening => []
    | .writing _ new => texts ++ [bytesOf (new.get artifact)]) []

@[simp] lemma writtenSince_opening (artifact : Artifact) (turns : List Turn) :
    writtenSince artifact (turns ++ [.opening]) = [] := by
  rw [writtenSince, List.foldl_append]
  rfl

@[simp] lemma writtenSince_writing (artifact : Artifact) (turns : List Turn) (position : ℕ)
    (texts : Bundle String) : writtenSince artifact (turns ++ [.writing position texts]) =
      writtenSince artifact turns ++ [bytesOf (texts.get artifact)] := by
  rw [writtenSince, List.foldl_append]
  rfl

namespace Desk

variable {dir : String} {desk next : Desk} {turns : List Turn}

/-- After some turns every writer's files are open, and each file holds what was written to it since they
were opened last. -/
structure Holds (dir : String) (desk : Desk) (turns : List Turn) : Prop where
  openIn : ∀ files ∈ desk.writers, files.OpenIn dir desk.session.tree
  bytes : ∀ artifact, desk.session.tree.bytesAt? (path dir artifact) =
    some (layered (writtenSince artifact turns))

/-- Before the first opening there is nobody who could write. -/
def Inv (dir : String) (desk : Desk) (turns : List Turn) : Prop :=
  desk.writers = [] ∧ (∀ artifact, writtenSince artifact turns = []) ∨ Holds dir desk turns

lemma Inv.openIn (h : Inv dir desk turns) {files : OutputFiles Handle} (hfiles : files ∈ desk.writers) :
    files.OpenIn dir desk.session.tree := by
  rcases h with ⟨hnone, -⟩ | h
  · exact absurd (hnone ▸ hfiles) List.not_mem_nil
  · exact h.openIn files hfiles

/-- Whoever opens the files empties them, for the other writers too. -/
lemma holds_opening (hopen : ∀ files ∈ desk.writers, files.OpenIn dir desk.session.tree)
    {files : OutputFiles Handle} {session : Session}
    (hcreate : (OutputFiles.create host dir).run desk.session = (.ok files, session)) :
    Holds dir ⟨session, desk.writers ++ [files]⟩ (turns ++ [.opening]) := by
  have hcreated := create_progress dir desk.session
  rw [hcreate] at hcreated
  obtain ⟨hfiles, hprogress⟩ := hcreated
  refine ⟨fun others hothers => ?_, fun artifact => ?_⟩
  · rcases List.mem_append.mp hothers with hothers | hothers
    · exact (hopen others hothers).mono hprogress.opens
    · exact List.mem_singleton.mp hothers ▸ hfiles
  · rw [writtenSince_opening]
    exact hprogress.bytesAt?_eq (by cases artifact <;> rfl)

/-- Whoever writes lays the texts over what the files hold. -/
lemma Holds.writing (h : Holds dir desk turns) {position : ℕ} {files : OutputFiles Handle}
    (hposition : desk.writers[position]? = some files) {texts : Bundle String} {session : Session}
    (hwrite : (OutputFiles.write host files texts).run desk.session = (.ok (), session)) :
    Holds dir ⟨session, desk.writers.eraseIdx position⟩ (turns ++ [.writing position texts]) := by
  -- writing does not empty the files, so it begins with what they hold
  have hheld : Progress dir desk.session.tree desk.session.tree
      ((Bundle.ofFn fun artifact => layered (writtenSince artifact turns)).map some) :=
    .of_held fun artifact bytes hbytes => by
      rw [Bundle.get_map, Bundle.get_ofFn] at hbytes
      rw [h.bytes artifact, hbytes]
  have hwritten := write_progress desk.session (h.openIn files (List.mem_of_getElem? hposition)) hheld
    texts
  rw [hwrite] at hwritten
  refine ⟨fun others hothers => ?_, fun artifact => ?_⟩
  · exact (h.openIn others (List.mem_of_mem_eraseIdx hothers)).mono hwritten.opens
  · rw [writtenSince_writing, layered_concat]
    refine hwritten.bytesAt?_eq ?_
    rw [Bundle.get_ofFn, Bundle.get_ofFn]

/-- A turn keeps the invariant. -/
theorem inv_turn {turn : Turn} (h : Inv dir desk turns) (hturn : desk.turn dir turn = some next) :
    Inv dir next (turns ++ [turn]) := by
  refine .inr ?_
  cases turn with
  | opening =>
      rw [Desk.turn] at hturn
      rcases hcreate : (OutputFiles.create host dir).run desk.session with ⟨stop | files, session⟩
      · rw [hcreate] at hturn
        cases hturn
      · rw [hcreate] at hturn
        cases hturn
        exact holds_opening (fun _ hfiles => h.openIn hfiles) hcreate
  | writing position texts =>
      rw [Desk.turn] at hturn
      obtain ⟨files, hposition, hturn⟩ := Option.bind_eq_some_iff.mp hturn
      obtain ⟨hnone, -⟩ | hholds := h
      · rw [hnone] at hposition
        cases hposition
      · rcases hwrite : (OutputFiles.write host files texts).run desk.session with ⟨stop | _, session⟩
        · rw [hwrite] at hturn
          cases hturn
        · rw [hwrite] at hturn
          cases hturn
          exact hholds.writing hposition hwrite

/-- So does any sequence of turns. -/
theorem inv_run {done turns : List Turn} (h : Inv dir desk done) (hrun : desk.run dir turns = some next) :
    Inv dir next (done ++ turns) := by
  induction turns generalizing desk done with
  | nil =>
      cases hrun
      rwa [List.append_nil]
  | cons turn rest ih =>
      rw [run, List.foldlM_cons] at hrun
      obtain ⟨middle, hturn, hrest⟩ := Option.bind_eq_some_iff.mp hrun
      have hinv := ih (inv_turn h hturn) hrest
      rwa [List.append_assoc] at hinv

/-- Whatever the order of turns, a file is as long as the longest text that was written to it since the
files were opened last. Each byte is that of the latest text that reaches it. So the file holds the last
text alone exactly if none of them is longer. -/
theorem run_layered {tree : FileTree} (hrun : (start tree).run dir turns = some desk)
    {artifact : Artifact} (hne : writtenSince artifact turns ≠ []) :
    ∃ bytes, desk.session.tree.bytesAt? (path dir artifact) = some bytes ∧
      (∃ text ∈ writtenSince artifact turns, text.length = bytes.length) ∧
      (∀ text ∈ writtenSince artifact turns, text.length ≤ bytes.length) ∧
      (∀ p, bytes[p]? =
        ((writtenSince artifact turns).reverse.find? (p < ·.length)).bind (·[p]?)) ∧
      (bytes = (writtenSince artifact turns).getLast hne ↔
        ∀ text ∈ writtenSince artifact turns,
          text.length ≤ ((writtenSince artifact turns).getLast hne).length) := by
  have hstart : Inv dir (start tree) [] := .inl ⟨rfl, fun _ => rfl⟩
  obtain ⟨-, hnone⟩ | hholds := inv_run hstart hrun
  · exact absurd (hnone artifact) hne
  · exact ⟨_, hholds.bytes artifact, exists_length_layered hne, length_le_length_layered,
      getElem?_layered _, layered_eq_getLast_iff hne⟩

/-- Two writers open the files, and the second one writes first, and more. -/
def crossing : List Turn :=
  [.opening, .opening, .writing 1 ⟨"kernels", "", ""⟩, .writing 0 ⟨"new", "", ""⟩]

/-- The end of the longer text shows behind the shorter one that came later. -/
theorem run_layered_crossing : ∃ desk bytes, (start .empty).run "" crossing = some desk ∧
    desk.session.tree.bytesAt? (path "" .kernels) = some bytes ∧ bytes ≠ bytesOf "new" ∧
    bytes[3]? = (bytesOf "kernels")[3]? := by
  have hrun : (start .empty).run "" crossing = some _ := rfl
  obtain ⟨bytes, hbytes, -, -, hshows, hlast⟩ :=
    run_layered hrun (show writtenSince .kernels crossing ≠ [] by decide)
  refine ⟨_, bytes, hrun, hbytes, fun h => ?_, ?_⟩
  · exact absurd (hlast.mp h) (by decide)
  · rw [hshows]
    rfl

end Desk

end LaneKernels
