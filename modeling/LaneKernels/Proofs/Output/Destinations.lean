import Mathlib.Tactic
import LaneKernels.Proofs.Output.ExitCode

/-!
What a run does to the three files of a directory, told from the tree that it starts on.

* A path can be opened or not (`CanOpen`), and where it can, what is opened there may still refuse a text
  (`Refuses`), which only the device does (`refuses_iff`).
* Opening and writing the files of a directory does not change which of its paths can be opened
  (`Progress.create_eq_error_iff`), nor where the device is (`Progress.device_iff`). So where a run ends
  is settled before it starts: at the first file that cannot be opened (`BlockedAt`), else at the first
  that refuses its text (`RefusedAt`).
* `writeLibrary_effect`: in each case the files that the run came to are emptied or hold their texts, and
  everything else is as it was (`ChangedOnly`).
-/

namespace LaneKernels

open FileTree OutputFiles Session

/-- Of two different files one comes before the other. -/
lemma Artifact.eq_or_mem_earlier (a b : Artifact) : a = b ∨ a ∈ b.earlier ∨ b ∈ a.earlier := by
  cases a <;> cases b <;> decide

lemma Artifact.not_mem_earlier {a b : Artifact} (h : a ∈ b.earlier) : b ∉ a.earlier := by
  revert h
  cases a <;> cases b <;> decide

/-! ### What becomes of a file -/

/-- A file with some bytes is there now: the one that was there before, or a new one where there was
nothing. -/
inductive Filled (bytes : List UInt8) : Option Entry → Option Entry → Prop
  | kept (birth : ℕ) (others : List UInt8) :
    Filled bytes (some (.file birth others)) (some (.file birth bytes))
  | made (birth : ℕ) : Filled bytes none (some (.file birth bytes))

/-- An empty file is there now, or the device still is, which never holds anything. -/
inductive Emptied : Option Entry → Option Entry → Prop
  | file {old new : Option Entry} (h : Filled [] old new) : Emptied old new
  | device : Emptied (some .fullDevice) (some .fullDevice)

lemma Emptied.bytes?_eq {old new : Option Entry} (h : Emptied old new) :
    new.bind Entry.bytes? = some [] := by
  cases h with
  | file h => cases h <;> rfl
  | device => rfl

namespace Rewritten

variable {bytes : List UInt8} {old new : Option Entry}

lemma filled (h : Rewritten bytes old new) (hold : ∀ entry ∈ old, entry.IsFile) :
    Filled bytes old new := by
  cases old with
  | none =>
      obtain ⟨birth, rfl⟩ := h
      exact .made birth
  | some entry =>
      obtain ⟨birth, others, rfl⟩ := hold entry rfl
      obtain ⟨rfl, -⟩ := h
      exact .kept birth others

lemma emptied (h : Rewritten [] old new) : Emptied old new := by
  obtain hdevice | hdevice := eq_or_ne old (some .fullDevice)
  · rw [hdevice] at h ⊢
    rw [h.1]
    exact .device
  · refine .file (h.filled ?_)
    rintro entry rfl
    cases entry with
    | directory => exact nomatch h.2
    | file birth others => exact ⟨birth, others, rfl⟩
    | fullDevice => exact absurd rfl hdevice

/-- The device is where it was. -/
lemma device_iff (h : Rewritten bytes old new) :
    new = some .fullDevice ↔ old = some .fullDevice := by
  cases old with
  | none =>
      obtain ⟨birth, rfl⟩ := h
      exact iff_of_false nofun nofun
  | some entry =>
      obtain ⟨rfl, hbytes⟩ := h
      cases entry with
      | directory => exact nomatch hbytes
      | file birth others => exact iff_of_false nofun nofun
      | fullDevice => exact Iff.rfl

end Rewritten

namespace FileTree

/-- A path can be opened for writing. -/
def CanOpen (tree : FileTree) (path : String) : Prop :=
  ∃ opened, tree.create path = .ok opened

/-- A path can be opened, but what is open then does not take a text. -/
def Refuses (tree : FileTree) (path text : String) (cause : FileFault) : Prop :=
  ∃ handle opened, tree.create path = .ok (handle, opened) ∧
    opened.write handle (bytesOf text) = .error cause

/-- Nothing is changed but what the paths of some files lead to. -/
def ChangedOnly (dir : String) (files : Set Artifact) (before after : FileTree) : Prop :=
  ∀ place, (∀ artifact ∈ files, before.locate (path dir artifact) ≠ .ok place) →
    after.get? place = before.get? place

variable {dir : String} {tree before after : FileTree} {artifact : Artifact}
  {contents : Bundle (Option (List UInt8))}

lemma canOpen_iff {path : String} : tree.CanOpen path ↔ ∀ cause, tree.create path ≠ .error cause := by
  rw [CanOpen]
  cases tree.create path with
  | ok opened => exact iff_of_true ⟨opened, rfl⟩ nofun
  | error cause => exact iff_of_false nofun fun h => h cause rfl

/-- A path cannot be opened if it leads nowhere, or to a directory. -/
lemma create_eq_error_iff {path : String} {cause : FileFault} : tree.create path = .error cause ↔
    tree.locate path = .error cause ∨ cause = .isDirectory ∧
      ∃ place, tree.locate path = .ok place ∧ tree.get? place = some .directory := by
  cases hlocate : tree.locate path with
  | error other =>
      have hcreate : tree.create path = .error other := by
        rw [create, hlocate]
        rfl
      simp [hcreate]
  | ok place =>
      have hcreate : tree.create path = tree.createAt place := by
        rw [create, hlocate]
        rfl
      rw [hcreate, createAt]
      cases hentry : tree.get? place with
      | none => exact iff_of_false (fun h => by cases h) (by simp [hentry])
      | some entry =>
          cases entry with
          | directory => simp [hentry, eq_comm]
          | file birth bytes => exact iff_of_false (fun h => by cases h) (by simp [hentry])
          | fullDevice => exact iff_of_false (fun h => by cases h) (by simp [hentry])

/-- Only the device refuses a text that is not empty. -/
lemma refuses_iff {path text : String} {cause : FileFault} (hne : bytesOf text ≠ []) :
    tree.Refuses path text cause ↔ tree.at? path = some .fullDevice ∧ cause = .noSpace := by
  constructor
  · rintro ⟨handle, opened, hcreate, hwrite⟩
    obtain ⟨location, hstep⟩ := rewrites_create hcreate
    obtain ⟨hdevice, hcause⟩ := at?_of_write_error hstep.handle_opens hwrite
    exact ⟨hstep.at?_rewritten.device_iff.mp hdevice, hcause⟩
  · rintro ⟨hdevice, rfl⟩
    obtain ⟨location, hleads⟩ := exists_location_of_at? hdevice
    rw [at?_eq hleads] at hdevice
    refine ⟨.fullDevice, tree, ?_, ?_⟩
    · rw [create, hleads]
      show tree.createAt location = _
      rw [createAt, hdevice]
    · rw [write, List.isEmpty_eq_false_iff.mpr hne]
      rfl

/-! ### What a run does not change -/

/-- Names lead to the same place in trees with the same entries. -/
lemma walk_congr (h : ∀ place, after.get? place = before.get? place) (here : Location)
    (names : List String) : after.walk here names = before.walk here names := by
  induction names generalizing here with
  | nil => rfl
  | cons first rest ih =>
      cases rest with
      | nil => rfl
      | cons next rest =>
          rw [walk, walk]
          · refine bind_congr fun place => ?_
            rw [h, ih]
          all_goals exact nofun

namespace Progress

/-- The paths of the files lead where they did. -/
lemma locate_eq (h : Progress dir before after contents) (artifact : Artifact) :
    after.locate (path dir artifact) = before.locate (path dir artifact) := by
  have hwalk : after.walk [] (components (path dir artifact)) =
      before.walk [] (components (path dir artifact)) := by
    by_cases hleads : ∃ other place, before.locate (path dir other) = .ok place
    · -- the directory is there, and it stays
      obtain ⟨other, place, hplace⟩ := hleads
      obtain ⟨base, hbase, -⟩ := path_leads hplace
      rw [components_path, walk_concat, walk_concat, hbase, h.sameDirectories.enter_eq_ok.mp hbase]
    · -- no file has a place, so nothing was changed at all
      refine walk_congr (fun place => h.elsewhere place fun other hplace => ?_) _ _
      exact hleads ⟨other, place, hplace⟩
  rw [locate, locate, hwalk]

lemma create_eq_error_iff (h : Progress dir before after contents) {cause : FileFault} :
    after.create (path dir artifact) = .error cause ↔
      before.create (path dir artifact) = .error cause := by
  simp only [FileTree.create_eq_error_iff, h.locate_eq, ← h.sameDirectories _]

/-- A file that was come to could be opened. -/
lemma canOpen (h : Progress dir before after contents) {bytes : List UInt8}
    (hbytes : contents.get artifact = some bytes) : before.CanOpen (path dir artifact) := by
  have hheld := h.bytesAt?_eq hbytes
  obtain ⟨entry, hentry, hentrybytes⟩ := Option.bind_eq_some_iff.mp hheld
  obtain ⟨location, hleads⟩ := exists_location_of_at? hentry
  rw [at?_eq hleads] at hentry
  refine canOpen_iff.mpr fun cause herror => ?_
  rw [← h.create_eq_error_iff, FileTree.create_eq_error_iff, hleads] at herror
  obtain hnowhere | ⟨-, place, hplace, hdirectory⟩ := herror
  · cases hnowhere
  · cases hplace
    rw [hentry] at hdirectory
    cases hdirectory
    cases hentrybytes

lemma device_iff (h : Progress dir before after contents) :
    after.at? (path dir artifact) = some .fullDevice ↔
      before.at? (path dir artifact) = some .fullDevice := by
  cases hcontents : contents.get artifact with
  | none => rw [h.untouched artifact hcontents]
  | some bytes => exact (h.rewritten artifact bytes hcontents).device_iff

/-- A file that holds a text now would not have refused one. -/
lemma not_refuses (h : Progress dir before after contents) {text : String}
    (hbytes : contents.get artifact = some (bytesOf text)) (hne : bytesOf text ≠ [])
    (cause : FileFault) : ¬before.Refuses (path dir artifact) text cause := by
  rw [refuses_iff hne]
  rintro ⟨hdevice, -⟩
  obtain ⟨birth, others, hfile⟩ := (h.rewritten artifact _ hbytes).isFile hne _ hdevice
  cases hfile

lemma filled (h : Progress dir before after contents) {bytes : List UInt8}
    (hbytes : contents.get artifact = some bytes) (hne : bytes ≠ []) :
    Filled bytes (before.at? (path dir artifact)) (after.at? (path dir artifact)) :=
  (h.rewritten artifact bytes hbytes).filled ((h.rewritten artifact bytes hbytes).isFile hne)

lemma emptied (h : Progress dir before after contents) (hbytes : contents.get artifact = some []) :
    Emptied (before.at? (path dir artifact)) (after.at? (path dir artifact)) :=
  (h.rewritten artifact [] hbytes).emptied

lemma changedOnly (h : Progress dir before after contents) {files : Set Artifact}
    (hfiles : ∀ artifact ∉ files, after.at? (path dir artifact) = before.at? (path dir artifact)) :
    ChangedOnly dir files before after := by
  intro place hplace
  by_cases hleads : ∃ artifact, before.locate (path dir artifact) = .ok place
  · obtain ⟨artifact, hartifact⟩ := hleads
    have hsame := hfiles artifact fun hmem => hplace artifact hmem hartifact
    rwa [at?_eq hartifact, at?_eq (h.locate_eq artifact ▸ hartifact)] at hsame
  · exact h.elsewhere place (not_exists.mp hleads)

end Progress

end FileTree

/-! ### Where a run ends, and what it leaves -/

/-- A file cannot be opened, and those before it can. -/
structure BlockedAt (tree : FileTree) (dir : String) (artifact : Artifact) (cause : FileFault) :
    Prop where
  blocked : tree.create (path dir artifact) = .error cause
  before : ∀ other ∈ artifact.earlier, tree.CanOpen (path dir other)

/-- All files can be opened, and one refuses its text, which those before it do not. -/
structure RefusedAt (tree : FileTree) (dir : String) (texts : Bundle String) (artifact : Artifact)
    (cause : FileFault) : Prop where
  canOpen : ∀ other, tree.CanOpen (path dir other)
  refused : tree.Refuses (path dir artifact) (texts.get artifact) cause
  before : ∀ other ∈ artifact.earlier, ∀ reason,
    ¬tree.Refuses (path dir other) (texts.get other) reason

/-- The files before one are empty, and nothing else is changed. -/
structure LeftOpening (dir : String) (artifact : Artifact) (before after : FileTree) : Prop where
  emptied : ∀ other ∈ artifact.earlier,
    Emptied (before.at? (path dir other)) (after.at? (path dir other))
  elsewhere : ChangedOnly dir {other | other ∈ artifact.earlier} before after

/-- The files before one hold their texts, those behind it are empty, and nothing else is changed, not even
the one. -/
structure LeftWriting (dir : String) (texts : Bundle String) (artifact : Artifact)
    (before after : FileTree) : Prop where
  filled : ∀ other ∈ artifact.earlier,
    Filled (bytesOf (texts.get other)) (before.at? (path dir other)) (after.at? (path dir other))
  emptied : ∀ other, artifact ∈ other.earlier →
    Emptied (before.at? (path dir other)) (after.at? (path dir other))
  elsewhere : ChangedOnly dir {artifact}ᶜ before after

/-- All files hold their texts, and nothing else is changed. -/
structure LeftWritten (dir : String) (texts : Bundle String) (before after : FileTree) : Prop where
  filled : ∀ other,
    Filled (bytesOf (texts.get other)) (before.at? (path dir other)) (after.at? (path dir other))
  elsewhere : ChangedOnly dir Set.univ before after

section

variable {tree : FileTree} {dir : String} {texts : Bundle String} {artifact other : Artifact}
  {cause reason : FileFault}

/-- There is one first file that cannot be opened. -/
lemma BlockedAt.unique (h : BlockedAt tree dir artifact cause) (h' : BlockedAt tree dir other reason) :
    artifact = other ∧ cause = reason := by
  obtain rfl | hearlier | hearlier := Artifact.eq_or_mem_earlier artifact other
  · exact ⟨rfl, Except.error.inj (h.blocked.symm.trans h'.blocked)⟩
  · exact absurd h.blocked (canOpen_iff.mp (h'.before artifact hearlier) cause)
  · exact absurd h'.blocked (canOpen_iff.mp (h.before other hearlier) reason)

lemma RefusedAt.not_blockedAt (h : RefusedAt tree dir texts artifact cause) :
    ¬BlockedAt tree dir other reason :=
  fun hblocked => canOpen_iff.mp (h.canOpen other) reason hblocked.blocked

/-- There is one first file that refuses its text. -/
lemma RefusedAt.unique (hne : ∀ place, bytesOf (texts.get place) ≠ [])
    (h : RefusedAt tree dir texts artifact cause) (h' : RefusedAt tree dir texts other reason) :
    artifact = other ∧ cause = reason := by
  obtain rfl | hearlier | hearlier := Artifact.eq_or_mem_earlier artifact other
  · have hcause := ((refuses_iff (hne artifact)).mp h.refused).2
    have hreason := ((refuses_iff (hne artifact)).mp h'.refused).2
    exact ⟨rfl, hcause.trans hreason.symm⟩
  · exact absurd h.refused (h'.before artifact hearlier cause)
  · exact absurd h'.refused (h.before other hearlier reason)

end

namespace FileTree.Progress

variable {dir : String} {before after : FileTree} {texts : Bundle String} {failing : Artifact}
  {cause : FileFault}

/-- A run that has opened the files before one which cannot be opened. -/
lemma left_opening
    (h : Progress dir before after
      (.ofFn fun artifact => if artifact ∈ failing.earlier then some [] else none))
    (hcreate : after.create (path dir failing) = .error cause) :
    BlockedAt before dir failing cause ∧ LeftOpening dir failing before after := by
  have hempty : ∀ artifact ∈ failing.earlier, (Bundle.ofFn fun artifact =>
      if artifact ∈ failing.earlier then some ([] : List UInt8) else none).get artifact = some [] :=
    fun artifact hearlier => (Bundle.get_ofFn _ artifact).trans (if_pos hearlier)
  refine ⟨⟨h.create_eq_error_iff.mp hcreate, ?_⟩, ?_, ?_⟩
  · exact fun artifact hearlier => h.canOpen (hempty artifact hearlier)
  · exact fun artifact hearlier => h.emptied (hempty artifact hearlier)
  · refine h.changedOnly fun artifact hlater => h.untouched artifact ?_
    exact (Bundle.get_ofFn _ artifact).trans (if_neg hlater)

/-- A run that has written the files before one in whose place the device is. -/
lemma left_writing (hne : ∀ artifact, bytesOf (texts.get artifact) ≠ [])
    (h : Progress dir before after (.ofFn fun artifact =>
      some (if artifact ∈ failing.earlier then bytesOf (texts.get artifact) else [])))
    (hdevice : after.at? (path dir failing) = some .fullDevice) :
    RefusedAt before dir texts failing .noSpace ∧ LeftWriting dir texts failing before after := by
  have hwritten : ∀ artifact ∈ failing.earlier, (Bundle.ofFn fun artifact =>
      some (if artifact ∈ failing.earlier then bytesOf (texts.get artifact) else [])).get artifact =
        some (bytesOf (texts.get artifact)) :=
    fun artifact hearlier => (Bundle.get_ofFn _ artifact).trans (congrArg some (if_pos hearlier))
  have hopened : before.at? (path dir failing) = some .fullDevice := h.device_iff.mp hdevice
  refine ⟨⟨fun artifact => ?_, ?_, ?_⟩, ?_, ?_, ?_⟩
  · exact h.canOpen (Bundle.get_ofFn _ artifact)
  · exact (refuses_iff (hne failing)).mpr ⟨hopened, rfl⟩
  · exact fun artifact hearlier => h.not_refuses (hwritten artifact hearlier) (hne artifact)
  · exact fun artifact hearlier => h.filled (hwritten artifact hearlier) (hne artifact)
  · intro artifact hlater
    refine h.emptied ((Bundle.get_ofFn _ artifact).trans (congrArg some (if_neg ?_)))
    exact Artifact.not_mem_earlier hlater
  · refine h.changedOnly fun artifact hmem => ?_
    obtain rfl : artifact = failing := not_not.mp hmem
    rw [hdevice, hopened]

/-- A run that has written all files. -/
lemma left_written (hne : ∀ artifact, bytesOf (texts.get artifact) ≠ [])
    (h : Progress dir before after (.ofFn fun artifact => some (bytesOf (texts.get artifact)))) :
    (∀ artifact, before.CanOpen (path dir artifact)) ∧
      (∀ artifact reason, ¬before.Refuses (path dir artifact) (texts.get artifact) reason) ∧
      LeftWritten dir texts before after := by
  have hwritten := fun artifact => Bundle.get_ofFn
    (fun artifact => some (bytesOf (texts.get artifact))) artifact
  refine ⟨fun artifact => h.canOpen (hwritten artifact), fun artifact => ?_, fun artifact => ?_, ?_⟩
  · exact h.not_refuses (hwritten artifact) (hne artifact)
  · exact h.filled (hwritten artifact) (hne artifact)
  · exact h.changedOnly fun artifact hmem => absurd (Set.mem_univ artifact) hmem

end FileTree.Progress

/-- How a run ends tells which file stopped it, and what it did before. -/
lemma writeLibrary_outcome {tiers : TierSet} {texts : Bundle String} {log : Array Log.Record}
    (hgenerate : (Recipe.shipped tiers).generate = (.ok texts, log))
    (hne : ∀ artifact, bytesOf (texts.get artifact) ≠ []) (dir : String) (tree : FileTree) :
    match (writeLibrary host dir tiers).run (Session.start tree) with
    | (.ok _, after) => (∀ artifact, tree.CanOpen (path dir artifact)) ∧
        (∀ artifact cause, ¬tree.Refuses (path dir artifact) (texts.get artifact) cause) ∧
        LeftWritten dir texts tree after.tree
    | (.error stop, after) =>
        (∃ failing cause, stop = .fault (.cannotOpen (path dir failing) cause) ∧
          BlockedAt tree dir failing cause ∧ LeftOpening dir failing tree after.tree) ∨
        ∃ failing cause, stop = .fault (.cannotWrite (path dir failing) cause) ∧
          RefusedAt tree dir texts failing cause ∧ LeftWriting dir texts failing tree after.tree := by
  have hcases := writeLibrary_cases hgenerate dir (Session.start tree)
  have htree : (Session.start tree).tree = tree := rfl
  rw [htree] at hcases
  generalize (writeLibrary host dir tiers).run (Session.start tree) = outcome at hcases
  rcases outcome with ⟨stop | _, after⟩
  · obtain ⟨failing, cause, hstop, hcreate, hprogress⟩ | ⟨failing, hstop, hdevice, hprogress⟩ := hcases
    · exact .inl ⟨failing, cause, hstop, hprogress.left_opening hcreate⟩
    · exact .inr ⟨failing, .noSpace, hstop, hprogress.left_writing hne hdevice⟩
  · exact hcases.left_written hne

/-- A run ends with the first file that cannot be opened, as far as there is one, and has emptied the files
before it. If all can be opened, it ends with the first that refuses its text, and has written those before
it and emptied those behind it. Otherwise it succeeds, and all files hold their texts, whatever they held
before. Nothing else is changed. -/
theorem writeLibrary_effect (tiers : TierSet) (dir : String) (tree : FileTree) :
    ∃ texts log, (Recipe.shipped tiers).generate = (.ok texts, log) ∧
      (∀ failing cause, BlockedAt tree dir failing cause → ∃ session,
        (writeLibrary host dir tiers).run (Session.start tree) =
          (.error (.fault (.cannotOpen (path dir failing) cause)), session) ∧
        LeftOpening dir failing tree session.tree) ∧
      (∀ failing cause, RefusedAt tree dir texts failing cause → ∃ session,
        (writeLibrary host dir tiers).run (Session.start tree) =
          (.error (.fault (.cannotWrite (path dir failing) cause)), session) ∧
        LeftWriting dir texts failing tree session.tree) ∧
      ((∀ failing cause, ¬BlockedAt tree dir failing cause ∧ ¬RefusedAt tree dir texts failing cause) →
        ∃ session, (writeLibrary host dir tiers).run (Session.start tree) = (.ok (), session) ∧
          LeftWritten dir texts tree session.tree) := by
  have hgenerate := Recipe.generate_shipped tiers
  have hne := bytesOf_libraryTexts_ne_nil (Recipe.shipped tiers).chapters
  have houtcome := writeLibrary_outcome hgenerate hne dir tree
  generalize Source.libraryTexts (Recipe.shipped tiers).chapters = texts at hgenerate hne houtcome
  refine ⟨texts, _, hgenerate, ?_⟩
  -- each of the three endings happens for its own reason only
  generalize (writeLibrary host dir tiers).run (Session.start tree) = outcome at houtcome ⊢
  rcases outcome with ⟨stop | _, session⟩
  · obtain ⟨failing, cause, rfl, hblocked, hleft⟩ | ⟨failing, cause, rfl, hrefused, hleft⟩ := houtcome
    · refine ⟨fun other reason h => ?_, fun other reason h => ?_, fun h => ?_⟩
      · obtain ⟨rfl, rfl⟩ := hblocked.unique h
        exact ⟨session, rfl, hleft⟩
      · exact absurd hblocked h.not_blockedAt
      · exact absurd hblocked (h failing cause).1
    · refine ⟨fun other reason h => ?_, fun other reason h => ?_, fun h => ?_⟩
      · exact absurd h hrefused.not_blockedAt
      · obtain ⟨rfl, rfl⟩ := hrefused.unique hne h
        exact ⟨session, rfl, hleft⟩
      · exact absurd hrefused (h failing cause).2
  · obtain ⟨hopen, htakes, hleft⟩ := houtcome
    refine ⟨fun other reason h => ?_, fun other reason h => ?_, fun _ => ⟨session, rfl, hleft⟩⟩
    · exact absurd h.blocked (canOpen_iff.mp (hopen other) reason)
    · exact absurd h.refused (htakes other reason)

/-- Kernels from an earlier run, and the device in the place of the traits. -/
def deviceTree : FileTree :=
  ⟨[(["kernels.rs"], .file 0 (bytesOf "old\n")), (["api.rs"], .fullDevice)], 1⟩

/-- The device stops a run when the kernels are written already, and the arrays still empty. -/
theorem writeLibrary_effect_device : ∃ texts session,
    (writeLibrary host "" .empty).run (Session.start deviceTree) =
      (.error (.fault (.cannotWrite "api.rs" .noSpace)), session) ∧
    session.tree.at? "kernels.rs" = some (.file 0 (bytesOf (texts : Bundle String).kernels)) ∧
    session.tree.bytesAt? "arrays.rs" = some [] := by
  obtain ⟨texts, log, hgenerate, -, hrefused, -⟩ := writeLibrary_effect .empty "" deviceTree
  have htexts : texts = _ :=
    Except.ok.inj (Prod.mk.inj (hgenerate.symm.trans (Recipe.generate_shipped .empty))).1
  have hne : ∀ artifact, bytesOf (texts.get artifact) ≠ [] :=
    htexts ▸ bytesOf_libraryTexts_ne_nil (Recipe.shipped .empty).chapters
  have hrefusedAt : RefusedAt deviceTree "" texts .traits .noSpace := by
    refine ⟨fun other => ?_, (refuses_iff (hne .traits)).mpr ⟨rfl, rfl⟩, fun other hearlier reason => ?_⟩
    · cases other <;> exact ⟨_, rfl⟩
    · obtain rfl : other = .kernels := List.mem_singleton.mp hearlier
      rw [refuses_iff (hne .kernels)]
      exact fun h => absurd h.1 (by decide)
  obtain ⟨session, hrun, hleft⟩ := hrefused .traits .noSpace hrefusedAt
  refine ⟨texts, session, hrun, ?_, ?_⟩
  · have hkernels := hleft.filled .kernels (by decide)
    have hbefore : deviceTree.at? (path "" .kernels) = some (.file 0 (bytesOf "old\n")) := rfl
    rw [hbefore] at hkernels
    generalize hafter : session.tree.at? (path "" .kernels) = after at hkernels
    cases hkernels
    exact hafter
  · exact (hleft.emptied .arrays (by decide)).bytes?_eq

end LaneKernels
