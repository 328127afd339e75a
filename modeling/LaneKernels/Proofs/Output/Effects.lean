import Mathlib.Tactic
import LaneKernels.Proofs.Output.Places

/-!
What opening and writing files does to a tree.

* `Rewritten` compares what is at a place before and after: the same file or device with other bytes, or
  a new file where there was nothing.
* `Rewrites` is one step on a tree. Opening a path is one that leaves no bytes (`rewrites_create`), and
  writing through a handle one that leaves the new bytes over the old ones (`rewrites_write`). Handles
  stay open over such steps (`Rewrites.opens`).
* `Progress` describes any number of such steps on the three files of a directory.
-/

namespace LaneKernels

open OutputFiles

namespace Entry

/-- The bytes that an entry holds; a device holds none. -/
def bytes? : Entry → Option (List UInt8)
  | directory => none
  | file _ bytes => some bytes
  | fullDevice => some []

/-- The entry with other bytes, if it can hold them. -/
def withBytes (bytes : List UInt8) : Entry → Entry
  | directory => directory
  | file birth _ => file birth bytes
  | fullDevice => fullDevice

/-- The handle of an entry that is open for writing. -/
def handle? (location : Location) : Entry → Option Handle
  | directory => none
  | file birth _ => some (.file location birth)
  | fullDevice => some .fullDevice

variable (entry : Entry) (bytes : List UInt8)

@[simp] lemma withBytes_withBytes (others : List UInt8) :
    (entry.withBytes others).withBytes bytes = entry.withBytes bytes := by
  cases entry <;> rfl

@[simp] lemma handle?_withBytes (location : Location) :
    (entry.withBytes bytes).handle? location = entry.handle? location := by
  cases entry <;> rfl

lemma withBytes_eq_self {entry : Entry} {bytes : List UInt8} (h : entry.bytes? = some bytes) :
    entry.withBytes bytes = entry := by
  cases entry with
  | directory => exact nomatch h
  | file birth others => rw [withBytes, Option.some.inj h]
  | fullDevice => rfl

end Entry

/-- The second is the first with some bytes, or a new file with them where there was nothing. -/
def Rewritten (bytes : List UInt8) : Option Entry → Option Entry → Prop
  | none, new => ∃ birth, new = some (.file birth bytes)
  | some old, new => new = some (old.withBytes bytes) ∧ (old.withBytes bytes).bytes? = some bytes

namespace Rewritten

variable {bytes others : List UInt8} {old middle new : Option Entry}

lemma bytes?_eq (h : Rewritten bytes old new) : new.bind Entry.bytes? = some bytes := by
  cases old with
  | none =>
      obtain ⟨birth, rfl⟩ := h
      rfl
  | some entry =>
      obtain ⟨rfl, hbytes⟩ := h
      exact hbytes

/-- Of two rewrites the second one counts. -/
lemma trans (h : Rewritten others old middle) (h' : Rewritten bytes middle new) :
    Rewritten bytes old new := by
  cases old with
  | none =>
      obtain ⟨birth, rfl⟩ := h
      exact ⟨birth, h'.1⟩
  | some entry =>
      obtain ⟨rfl, -⟩ := h
      simpa [Rewritten] using h'

/-- Rewriting changes nothing exactly if the bytes are there already. -/
lemma eq_iff (h : Rewritten bytes old new) : new = old ↔ old.bind Entry.bytes? = some bytes := by
  refine ⟨fun heq => heq ▸ h.bytes?_eq, fun hbytes => ?_⟩
  cases old with
  | none => exact nomatch hbytes
  | some entry => rw [h.1, Entry.withBytes_eq_self hbytes]

lemma of_bytes? {entry : Entry} (h : entry.bytes? = some bytes) :
    Rewritten bytes (some entry) (some entry) := by
  rw [Rewritten, Entry.withBytes_eq_self h]
  exact ⟨rfl, h⟩

end Rewritten

namespace FileTree

/-- What a path leads to. -/
def at? (tree : FileTree) (path : String) : Option Entry :=
  (tree.locate path).toOption.bind tree.get?

/-- The bytes of the file that a path leads to. -/
def bytesAt? (tree : FileTree) (path : String) : Option (List UInt8) :=
  (tree.at? path).bind Entry.bytes?

lemma at?_eq {tree : FileTree} {path : String} {location : Location}
    (h : tree.locate path = .ok location) : tree.at? path = tree.get? location := by
  rw [at?, h]
  rfl

/-- A handle is open on what a path leads to. -/
def Opens (tree : FileTree) (path : String) (handle : Handle) : Prop :=
  ∃ location, tree.locate path = .ok location ∧
    (tree.get? location).bind (Entry.handle? location) = some handle

/-- A step between trees rewrote what a path leads to, which a handle is open on, and nothing else. -/
structure Rewrites (before after : FileTree) (path : String) (handle : Handle) (bytes : List UInt8)
    (location : Location) : Prop where
  leads : before.locate path = .ok location
  rewritten : Rewritten bytes (before.get? location) (after.get? location)
  opened : (after.get? location).bind (Entry.handle? location) = some handle
  elsewhere : ∀ place, place ≠ location → after.get? place = before.get? place

namespace Rewrites

variable {before after : FileTree} {path : String} {handle : Handle} {bytes : List UInt8}
  {location : Location}

lemma sameDirectories (h : Rewrites before after path handle bytes location) :
    SameDirectories before after := by
  intro place
  by_cases hplace : place = location
  · subst hplace
    -- there was no directory at the place before, and there is none now
    refine iff_of_false (fun hbefore => ?_) fun hafter => ?_
    · have hrewritten := h.rewritten
      rw [hbefore] at hrewritten
      exact nomatch hrewritten.2
    · have hopened := h.opened
      rw [hafter] at hopened
      exact nomatch hopened
  · rw [h.elsewhere place hplace]

/-- Other handles stay open on what they are open on. -/
lemma opens (h : Rewrites before after path handle bytes location) {place : String} {other : Handle}
    (hother : before.Opens place other) : after.Opens place other := by
  obtain ⟨l, hleads, hopened⟩ := hother
  refine ⟨l, h.sameDirectories.locate_eq_ok.mp hleads, ?_⟩
  by_cases hl : l = location
  · subst hl
    obtain ⟨entry, hentry, hhandle⟩ := Option.bind_eq_some_iff.mp hopened
    have hrewritten := h.rewritten
    rw [hentry] at hrewritten
    rw [hrewritten.1, Option.bind_some, Entry.handle?_withBytes, hhandle]
  · rw [h.elsewhere l hl, hopened]

lemma handle_opens (h : Rewrites before after path handle bytes location) : after.Opens path handle :=
  ⟨location, h.sameDirectories.locate_eq_ok.mp h.leads, h.opened⟩

lemma at?_rewritten (h : Rewrites before after path handle bytes location) :
    Rewritten bytes (before.at? path) (after.at? path) := by
  rw [at?_eq h.leads, at?_eq (h.sameDirectories.locate_eq_ok.mp h.leads)]
  exact h.rewritten

lemma at?_of_ne {dir : String} {a b : Artifact}
    (h : Rewrites before after (OutputFiles.path dir a) handle bytes location) (hne : b ≠ a) :
    after.at? (OutputFiles.path dir b) = before.at? (OutputFiles.path dir b) := by
  cases hb : before.locate (OutputFiles.path dir b) with
  | ok place =>
      have hplace : place ≠ location := fun heq => hne (artifact_eq hb (heq ▸ h.leads))
      rw [at?_eq hb, at?_eq (h.sameDirectories.locate_eq_ok.mp hb), h.elsewhere place hplace]
  | error cause =>
      cases ha : after.locate (OutputFiles.path dir b) with
      | ok place =>
          rw [h.sameDirectories.locate_eq_ok.mpr ha] at hb
          exact nomatch hb
      | error cause' =>
          rw [at?, at?, ha, hb]
          rfl

end Rewrites

/-! ### Opening and writing -/

@[simp] lemma overlay_nil (bytes : List UInt8) : overlay bytes [] = bytes := by
  rw [overlay, List.drop_nil, List.append_nil]

section

variable {tree after : FileTree} {path : String} {handle : Handle} {location : Location}

/-- A step that puts an entry where a path leads to. -/
lemma Rewrites.of_put {entry : Entry} {bytes : List UInt8} (hleads : tree.locate path = .ok location)
    (hlocation : location ≠ []) (hrewritten : Rewritten bytes (tree.get? location) (some entry))
    (hopened : entry.handle? location = some handle)
    (hafter : ∀ place, after.get? place = (tree.put location entry).get? place) :
    Rewrites tree after path handle bytes location := by
  have hself : after.get? location = some entry := by
    rw [hafter, get?_put tree hlocation, if_pos rfl]
  refine ⟨hleads, hself ▸ hrewritten, by rw [hself, Option.bind_some, hopened], fun place hplace => ?_⟩
  rw [hafter, get?_put tree hlocation, if_neg hplace]

/-- A step that leaves everything as it is. -/
lemma Rewrites.of_self {entry : Entry} {bytes : List UInt8} (hleads : tree.locate path = .ok location)
    (hentry : tree.get? location = some entry) (hbytes : entry.bytes? = some bytes)
    (hopened : entry.handle? location = some handle) :
    Rewrites tree tree path handle bytes location := by
  refine ⟨hleads, ?_, by rw [hentry, Option.bind_some, hopened], fun _ _ => rfl⟩
  rw [hentry]
  exact .of_bytes? hbytes

/-- Opening a path leaves an empty file there, or the device. -/
lemma rewrites_create (h : tree.create path = .ok (handle, after)) :
    ∃ location, Rewrites tree after path handle [] location := by
  cases hleads : tree.locate path with
  | error cause => rw [create, hleads] at h; exact nomatch h
  | ok location =>
      rw [create, hleads] at h
      replace h : tree.createAt location = .ok (handle, after) := h
      -- the root is a directory and is never opened
      have hlocation : location ≠ [] := by
        rintro rfl
        exact nomatch h
      refine ⟨location, ?_⟩
      rw [createAt] at h
      cases hentry : tree.get? location with
      | none =>
          rw [hentry] at h
          obtain ⟨rfl, rfl⟩ := Prod.mk.inj (Except.ok.inj h)
          exact .of_put hleads hlocation (hentry ▸ ⟨_, rfl⟩) rfl fun _ => rfl
      | some entry =>
          rw [hentry] at h
          cases entry with
          | directory => exact nomatch h
          | file birth bytes =>
              obtain ⟨rfl, rfl⟩ := Prod.mk.inj (Except.ok.inj h)
              exact .of_put hleads hlocation (hentry ▸ ⟨rfl, rfl⟩) rfl fun _ => rfl
          | fullDevice =>
              obtain ⟨rfl, rfl⟩ := Prod.mk.inj (Except.ok.inj h)
              exact .of_self hleads hentry rfl rfl

/-- Writing through a handle leaves the new bytes over the old ones. -/
lemma rewrites_write {bytes old : List UInt8} (hopens : tree.Opens path handle)
    (hold : tree.bytesAt? path = some old) (h : tree.write handle bytes = .ok after) :
    ∃ location, Rewrites tree after path handle (overlay bytes old) location := by
  obtain ⟨location, hleads, hopened⟩ := hopens
  obtain ⟨entry, hentry, hhandle⟩ := Option.bind_eq_some_iff.mp hopened
  rw [bytesAt?, at?_eq hleads, hentry, Option.bind_some] at hold
  refine ⟨location, ?_⟩
  cases entry with
  | directory => exact nomatch hhandle
  | file birth others =>
      cases hhandle
      cases hold
      rw [write, hentry] at h
      have hlocation : location ≠ [] := by
        rintro rfl
        exact nomatch hentry
      replace h : tree.put location (.file birth (overlay bytes old)) = after := by
        simpa using h
      have hrewritten : Rewritten (overlay bytes old) (tree.get? location)
          (some (.file birth (overlay bytes old))) := by
        rw [hentry]
        exact ⟨rfl, rfl⟩
      exact .of_put hleads hlocation hrewritten rfl fun place => by rw [h]
  | fullDevice =>
      cases hhandle
      cases hold
      rw [write] at h
      -- the device takes no bytes, and so it only takes an empty text
      split at h
      · next hempty =>
        rw [List.isEmpty_iff] at hempty
        cases h
        subst hempty
        exact .of_self hleads hentry rfl rfl
      · exact nomatch h

/-- Only the device takes no bytes, for want of space. -/
lemma at?_of_write_error {bytes : List UInt8} {cause : FileFault} (hopens : tree.Opens path handle)
    (h : tree.write handle bytes = .error cause) :
    tree.at? path = some .fullDevice ∧ cause = .noSpace := by
  obtain ⟨location, hleads, hopened⟩ := hopens
  obtain ⟨entry, hentry, hhandle⟩ := Option.bind_eq_some_iff.mp hopened
  rw [at?_eq hleads, hentry]
  cases entry with
  | directory => exact nomatch hhandle
  | file birth others =>
      cases hhandle
      simp [write, hentry] at h
  | fullDevice =>
      cases hhandle
      rw [write] at h
      split at h
      · cases h
      · cases h
        exact ⟨rfl, rfl⟩

end

/-! ### What was done to the three files -/

/-- Between the trees the three files of a directory were rewritten with the given contents, those without
contents not at all, and nothing else was. -/
structure Progress (dir : String) (before after : FileTree)
    (contents : Bundle (Option (List UInt8))) : Prop where
  untouched : ∀ artifact, contents.get artifact = none →
    after.at? (OutputFiles.path dir artifact) = before.at? (OutputFiles.path dir artifact)
  rewritten : ∀ artifact, ∀ bytes ∈ contents.get artifact,
    Rewritten bytes (before.at? (OutputFiles.path dir artifact)) (after.at? (OutputFiles.path dir artifact))
  elsewhere : ∀ place, (∀ artifact, before.locate (OutputFiles.path dir artifact) ≠ .ok place) →
    after.get? place = before.get? place
  sameDirectories : SameDirectories before after
  opens : ∀ path handle, before.Opens path handle → after.Opens path handle

namespace Progress

variable {dir : String} {before tree after : FileTree} {contents : Bundle (Option (List UInt8))}

/-- Files that hold their contents already need no step for it. -/
lemma of_held (h : ∀ artifact, ∀ bytes ∈ contents.get artifact,
    before.bytesAt? (OutputFiles.path dir artifact) = some bytes) :
    Progress dir before before contents where
  untouched _ _ := rfl
  rewritten artifact bytes hbytes := by
    obtain ⟨entry, hentry, hheld⟩ := Option.bind_eq_some_iff.mp (h artifact bytes hbytes)
    rw [hentry]
    exact .of_bytes? hheld
  elsewhere _ _ := rfl
  sameDirectories _ := Iff.rfl
  opens _ _ hopens := hopens

lemma start : Progress dir before before ⟨none, none, none⟩ :=
  .of_held fun artifact _ h => by cases artifact <;> exact nomatch h

lemma bytesAt?_eq (h : Progress dir before after contents) {artifact : Artifact} {bytes : List UInt8}
    (hbytes : contents.get artifact = some bytes) :
    after.bytesAt? (OutputFiles.path dir artifact) = some bytes :=
  (h.rewritten artifact bytes hbytes).bytes?_eq

/-- One more step on the three files. -/
lemma step (h : Progress dir before tree contents) {artifact : Artifact} {handle : Handle}
    {bytes : List UInt8} {location : Location}
    (hstep : Rewrites tree after (OutputFiles.path dir artifact) handle bytes location) :
    Progress dir before after (contents.set artifact (some bytes)) where
  untouched other hother := by
    have hne : other ≠ artifact := by
      rintro rfl
      simp at hother
    rw [Bundle.get_set, if_neg hne] at hother
    rw [hstep.at?_of_ne hne, h.untouched other hother]
  rewritten other others hothers := by
    by_cases hne : other = artifact
    · subst hne
      rw [Bundle.get_set, if_pos rfl] at hothers
      cases hothers
      -- the step starts from what is there now, which is what was there before or a rewrite of it
      cases hcontents : contents.get other with
      | none => rw [← h.untouched other hcontents]; exact hstep.at?_rewritten
      | some previous => exact (h.rewritten other previous hcontents).trans hstep.at?_rewritten
    · rw [Bundle.get_set, if_neg hne] at hothers
      rw [hstep.at?_of_ne hne]
      exact h.rewritten other others hothers
  elsewhere place hplace := by
    have hne : place ≠ location := by
      rintro rfl
      exact hplace artifact (h.sameDirectories.locate_eq_ok.mpr hstep.leads)
    rw [hstep.elsewhere place hne, h.elsewhere place hplace]
  sameDirectories place := (h.sameDirectories place).trans (hstep.sameDirectories place)
  opens path handle hopens := hstep.opens (h.opens path handle hopens)

end Progress

end FileTree

end LaneKernels
