import Mathlib.Tactic
import LaneKernels.OutputFiles

/-!
The places that the three files of a directory have in a tree.

* `FileTree.enter` follows names that all lead to directories. Following a path is entering all names but
  the last and stepping to that one (`walk_concat`).
* `path_leads`: the three files have places in one directory, so different files have different places
  (`artifact_eq`).
* `SameDirectories`: trees with the same directories lead every path to the same place (`locate_eq_ok`).
-/

namespace LaneKernels

open OutputFiles

/-! ### The names in a path -/

lemma Artifact.fileName_injective : Function.Injective Artifact.fileName := by
  intro a b h
  cases a <;> cases b <;> first | rfl | exact absurd h (by decide)

namespace FileTree

/-- The names in a path up to a slash and a file name behind it. -/
lemma components_slash (dir : String) (artifact : Artifact) :
    components (dir ++ "/" ++ artifact.fileName) = components dir ++ [artifact.fileName] := by
  have hname : ((Text.pieces '/' artifact.fileName.toList).filter (!·.isEmpty)).map String.ofList =
      [artifact.fileName] := by
    cases artifact <;> rfl
  have hslash : "/".toList = ['/'] := rfl
  rw [components, components, String.toList_append, String.toList_append, hslash, List.append_assoc,
    List.singleton_append, Text.pieces_append_separator, List.filter_append, List.map_append, hname]

/-- A slash at the end of a path adds no name. -/
lemma components_append_slash (dir : String) : components (dir ++ "/") = components dir := by
  have hslash : "/".toList = '/' :: [] := rfl
  rw [components, components, String.toList_append, hslash, Text.pieces_append_separator,
    List.filter_append, List.map_append]
  exact List.append_nil _

/-- The names that lead to a file are those that lead to its directory, and its own. -/
lemma components_path (dir : String) (artifact : Artifact) :
    components (path dir artifact) = components dir ++ [artifact.fileName] := by
  rw [path, joinPath]
  split
  case isFalse => exact components_slash dir artifact
  case isTrue h =>
    rcases Bool.or_eq_true_iff.mp h with hempty | hslash
    · rw [String.isEmpty_iff.mp hempty]
      cases artifact <;> rfl
    · obtain ⟨front, hfront⟩ := String.Slice.endsWith_string_iff.mp hslash
      have hdir : dir = String.ofList front ++ "/" := by
        rw [← String.toList_inj, String.toList_append, String.toList_ofList, hfront,
          String.copy_toSlice]
      rw [hdir, components_slash, components_append_slash]

lemma descend_fileName (here : Location) (artifact : Artifact) :
    descend here artifact.fileName = .ok (here ++ [artifact.fileName]) := by
  cases artifact <;> rfl

/-! ### Following a path -/

/-- Follows names from a directory; all must lead to directories. -/
def enter (tree : FileTree) : Location → List String → Except FileFault Location
  | here, [] => .ok here
  | here, name :: rest => do
    let next ← descend here name
    match tree.get? next with
    | some .directory => tree.enter next rest
    | some _ => .error .notDirectory
    | none => .error .notFound

lemma walk_concat (tree : FileTree) (here : Location) (names : List String) (name : String) :
    tree.walk here (names ++ [name]) = (tree.enter here names).bind (descend · name) := by
  induction names generalizing here with
  | nil => rfl
  | cons first rest ih =>
      -- there is a name behind the first one, which so has to lead to a directory
      have hwalk : tree.walk here (first :: (rest ++ [name])) = (do
          let next ← descend here first
          match tree.get? next with
          | some .directory => tree.walk next (rest ++ [name])
          | some _ => .error .notDirectory
          | none => .error .notFound) := by
        cases rest <;> rfl
      rw [List.cons_append, hwalk, enter]
      cases descend here first with
      | error cause => rfl
      | ok next =>
          dsimp only [bind, Except.bind]
          cases tree.get? next with
          | none => rfl
          | some entry =>
              cases entry with
              | directory => exact ih next
              | file | fullDevice => rfl

lemma enter_cons_eq_ok {tree : FileTree} {here place : Location} {name : String} {rest : List String} :
    tree.enter here (name :: rest) = .ok place ↔ ∃ next, descend here name = .ok next ∧
      tree.get? next = some .directory ∧ tree.enter next rest = .ok place := by
  rw [enter]
  cases descend here name with
  | error => exact ⟨fun h => (nomatch h), fun ⟨_, h, _⟩ => (nomatch h)⟩
  | ok next =>
      dsimp only [bind, Except.bind]
      refine ⟨fun h => ?_, fun ⟨_, hnext, hdirectory, hrest⟩ => ?_⟩
      · split at h
        · exact ⟨next, rfl, ‹_›, h⟩
        · exact nomatch h
        · exact nomatch h
      · cases hnext
        rw [hdirectory]
        exact hrest

lemma locate_eq_ok {tree : FileTree} {path : String} {location : Location} :
    tree.locate path = .ok location ↔ ('\x00' ∉ path.toList ∧ path ≠ "" ∧ path.utf8ByteSize < 4096) ∧
      tree.walk [] (components path) = .ok location := by
  simp only [locate, List.contains_iff_mem, String.isEmpty_iff]
  split_ifs with hnul hempty hlong
  · simp [hnul]
  · simp [hempty]
  · simp [hlong]
  · simp [hnul, hempty, not_le.mp hlong]

/-- The three files have their places in one directory. -/
lemma path_leads {tree : FileTree} {dir : String} {artifact : Artifact} {location : Location}
    (h : tree.locate (path dir artifact) = .ok location) : ∃ base,
      tree.enter [] (components dir) = .ok base ∧ location = base ++ [artifact.fileName] := by
  have hwalk := (locate_eq_ok.mp h).2
  rw [components_path, walk_concat] at hwalk
  cases hbase : tree.enter [] (components dir) with
  | error cause => rw [hbase] at hwalk; exact nomatch hwalk
  | ok base =>
      rw [hbase] at hwalk
      have hlocation : .ok (base ++ [artifact.fileName]) = Except.ok location :=
        (descend_fileName base artifact).symm.trans hwalk
      exact ⟨base, rfl, (Except.ok.inj hlocation).symm⟩

/-- Different files have different places. -/
lemma artifact_eq {tree : FileTree} {dir : String} {a b : Artifact} {location : Location}
    (ha : tree.locate (path dir a) = .ok location) (hb : tree.locate (path dir b) = .ok location) :
    a = b := by
  obtain ⟨base, hbase, hlocation⟩ := path_leads ha
  obtain ⟨base', hbase', hlocation'⟩ := path_leads hb
  rw [hbase, Except.ok.injEq] at hbase'
  rw [hlocation, hbase', List.append_cancel_left_eq] at hlocation'
  exact Artifact.fileName_injective (List.singleton_inj.mp hlocation')

/-! ### Trees with the same directories -/

/-- The trees have the same directories. -/
def SameDirectories (before after : FileTree) : Prop :=
  ∀ place, before.get? place = some .directory ↔ after.get? place = some .directory

variable {before after : FileTree}

lemma SameDirectories.enter_eq_ok (h : SameDirectories before after) {here place : Location}
    {names : List String} :
    before.enter here names = .ok place ↔ after.enter here names = .ok place := by
  induction names generalizing here with
  | nil => exact Iff.rfl
  | cons name rest ih =>
      rw [enter_cons_eq_ok, enter_cons_eq_ok]
      exact exists_congr fun next => and_congr_right fun _ => and_congr (h next) ih

lemma SameDirectories.walk_eq_ok (h : SameDirectories before after) {place : Location}
    {names : List String} (hwalk : before.walk [] names = .ok place) : after.walk [] names = .ok place := by
  rcases List.eq_nil_or_concat names with rfl | ⟨front, name, rfl⟩
  · exact hwalk
  · rw [List.concat_eq_append, walk_concat] at hwalk ⊢
    cases henter : before.enter [] front with
    | error cause => rw [henter] at hwalk; exact nomatch hwalk
    | ok base => rw [h.enter_eq_ok.mp henter, ← hwalk, henter]

lemma SameDirectories.symm (h : SameDirectories before after) : SameDirectories after before :=
  fun place => (h place).symm

/-- A path leads to the same place in trees with the same directories. -/
lemma SameDirectories.locate_eq_ok (h : SameDirectories before after) {path : String} {place : Location} :
    before.locate path = .ok place ↔ after.locate path = .ok place := by
  rw [FileTree.locate_eq_ok, FileTree.locate_eq_ok]
  exact and_congr_right fun _ => ⟨h.walk_eq_ok, h.symm.walk_eq_ok⟩

end FileTree

end LaneKernels
