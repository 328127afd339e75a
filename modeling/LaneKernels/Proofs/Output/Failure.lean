import Mathlib.Tactic
import LaneKernels.Proofs.Output.Stages

/-!
What a run that fails leaves in the three files.

Files are emptied when they are opened, before there is a text for them, and they are written one by one.
So a run that fails at a later file has changed the earlier ones for good.

* `writeLibrary_failed`: the three files stay as they are only if each of them held what the run leaves in
  it already.
* In `blockedTree` a run cannot open the second file, and what the first one held is lost.
-/

namespace LaneKernels

open FileTree OutputFiles Session

namespace FileTree

/-- The three files of a directory are as they were, or still are not there. -/
def Untouched (dir : String) (before after : FileTree) : Prop :=
  ∀ artifact, after.at? (path dir artifact) = before.at? (path dir artifact)

/-- The files stay as they are if what they were rewritten with is what they held. -/
lemma Progress.untouched_iff {dir : String} {before after : FileTree}
    {contents : Bundle (Option (List UInt8))} (h : Progress dir before after contents) :
    Untouched dir before after ↔ ∀ artifact, ∀ bytes ∈ contents.get artifact,
      before.bytesAt? (path dir artifact) = some bytes := by
  refine forall_congr' fun artifact => ?_
  cases hcontents : contents.get artifact with
  | none => exact iff_of_true (h.untouched artifact hcontents) fun _ hbytes => nomatch hbytes
  | some bytes =>
      rw [(h.rewritten artifact bytes hcontents).eq_iff]
      exact ⟨fun hheld _ hbytes => Option.some.inj hbytes ▸ hheld, fun hheld => hheld bytes rfl⟩

end FileTree

/-- What a run leaves in a file if it fails to write a text. -/
def leftBehind (texts : Bundle String) (failing artifact : Artifact) : List UInt8 :=
  if artifact ∈ failing.earlier then bytesOf (texts.get artifact) else []

/-- A run that fails does so at one of the three files. If it cannot open it, those before it are empty
now. If it cannot write to it, those before it hold the new texts and the others are empty. In both cases
the files are as before only if they held just that before. -/
theorem writeLibrary_failed {tiers : TierSet} {dir : String} {tree : FileTree} {stop : Stop}
    {session : Session}
    (h : (writeLibrary host dir tiers).run (Session.start tree) = (.error stop, session)) :
    ∃ texts log failing cause, (Recipe.shipped tiers).generate = (.ok texts, log) ∧
      (stop = .fault (.cannotOpen (path dir failing) cause) ∧
          (∀ artifact ∈ failing.earlier, session.tree.bytesAt? (path dir artifact) = some []) ∧
          (∀ artifact ∉ failing.earlier,
            session.tree.at? (path dir artifact) = tree.at? (path dir artifact)) ∧
          (Untouched dir tree session.tree ↔
            ∀ artifact ∈ failing.earlier, tree.bytesAt? (path dir artifact) = some []) ∨
        stop = .fault (.cannotWrite (path dir failing) cause) ∧
          (∀ artifact, session.tree.bytesAt? (path dir artifact) =
            some (leftBehind texts failing artifact)) ∧
          (Untouched dir tree session.tree ↔
            ∀ artifact, tree.bytesAt? (path dir artifact) =
              some (leftBehind texts failing artifact))) := by
  have hgenerate : (Recipe.shipped tiers).generate = _ :=
    Recipe.generate_of_check BindingTable.check_shipped
  have hprogress := writeLibrary_progress hgenerate dir (Session.start tree)
  rw [h] at hprogress
  obtain ⟨failing, cause, ⟨hstop, hprogress⟩ | ⟨hstop, hprogress⟩⟩ := hprogress
  · refine ⟨_, _, failing, cause, hgenerate, .inl ⟨hstop, fun artifact hearlier => ?_,
      fun artifact hlater => ?_, ?_⟩⟩
    · exact hprogress.bytesAt?_eq (by rw [Bundle.get_ofFn, if_pos hearlier])
    · exact hprogress.untouched artifact (by rw [Bundle.get_ofFn, if_neg hlater])
    · refine hprogress.untouched_iff.trans (forall_congr' fun artifact => ?_)
      rw [Bundle.get_ofFn]
      by_cases hearlier : artifact ∈ failing.earlier <;> simp [hearlier, Session.start]
  · refine ⟨_, _, failing, cause, hgenerate, .inr ⟨hstop, fun artifact => ?_, ?_⟩⟩
    · exact hprogress.bytesAt?_eq (Bundle.get_ofFn _ _)
    · refine hprogress.untouched_iff.trans (forall_congr' fun artifact => ?_)
      rw [Bundle.get_ofFn]
      simp [leftBehind, Session.start]

/-- Kernels from an earlier run, and a directory in the place of the traits. -/
def blockedTree : FileTree :=
  ⟨[(["kernels.rs"], .file 0 (bytesOf "old\n")), (["api.rs"], .directory)], 1⟩

/-- The kernels are gone after a run that cannot open the traits. -/
theorem writeLibrary_failed_blocked : ∃ stop session,
    (writeLibrary host "" .empty).run (Session.start blockedTree) = (.error stop, session) ∧
      session.tree.bytesAt? (path "" .kernels) = some [] := by
  have hrun : (writeLibrary host "" .empty).run (Session.start blockedTree) =
      (.error (.fault (.cannotOpen "api.rs" .isDirectory)), _) := rfl
  refine ⟨_, _, hrun, ?_⟩
  obtain ⟨_, _, failing, cause, -, ⟨hstop, hempty, -⟩ | ⟨hstop, -⟩⟩ := writeLibrary_failed hrun
  · have hpath : "api.rs" = path "" failing := by
      injection hstop with hfault
      injection hfault
    cases failing with
    | kernels | arrays => exact absurd hpath (by decide)
    | traits => exact hempty .kernels (by decide)
  · exact nomatch hstop

/-- A failed run does change the files. -/
theorem exists_failed_not_untouched : ∃ stop session,
    (writeLibrary host "" .empty).run (Session.start blockedTree) = (.error stop, session) ∧
      ¬Untouched "" blockedTree session.tree :=
  ⟨.fault (.cannotOpen "api.rs" .isDirectory), _, rfl, fun h => absurd (h .kernels) (by decide)⟩

end LaneKernels
