import LaneKernels.Fault
import LaneKernels.Text.Pieces

/-!
A tree of files, as far as creating and writing files can tell.

* A `Location` is a list of names from the root down. An `Entry` is a directory, a file with its bytes, or
  a device on which every write fails for want of space.
* Each file has a birth number, new for each file that is made. A `Handle` remembers location and birth,
  so a write through a handle never reaches a file that was made later in the same place.
* `locate` follows a path, `create` opens it for writing and empties the file, and `write` overwrites from
  the start of the file without shortening it (`overlay`).
-/

namespace LaneKernels

/-- The names that lead from the root to a place. -/
abbrev Location := List String

/-- What is at a place. -/
inductive Entry where
  | directory
  | file (birth : Nat) (bytes : List UInt8)
  | fullDevice
  deriving DecidableEq, Repr

/-- A tree of files. -/
structure FileTree where
  entries : List (Location × Entry)
  /-- The birth number of the next file. -/
  births : Nat
  deriving DecidableEq, Repr

/-- An open file. -/
inductive Handle where
  | file (location : Location) (birth : Nat)
  | fullDevice
  deriving DecidableEq, Repr

namespace FileTree

/-- The tree that has only its root. -/
def empty : FileTree :=
  ⟨[], 0⟩

/-- What is at a place; the root is always a directory. -/
def get? (tree : FileTree) (location : Location) : Option Entry :=
  if location = [] then some .directory else tree.entries.lookup location

/-- The tree without the entry at a place; what is below it stays. -/
def erase (tree : FileTree) (location : Location) : FileTree :=
  { tree with entries := tree.entries.filter (·.1 ≠ location) }

/-- The tree with an entry put at a place. -/
def put (tree : FileTree) (location : Location) (entry : Entry) : FileTree :=
  { tree with entries := (location, entry) :: (tree.erase location).entries }

theorem lookup_filter_ne (entries : List (Location × Entry)) {location place : Location}
    (h : place ≠ location) :
    (entries.filter (·.1 ≠ location)).lookup place = entries.lookup place := by
  induction entries with
  | nil => rfl
  | cons pair rest ih =>
    obtain ⟨l, e⟩ := pair
    by_cases hl : l = location
    · subst hl
      rw [List.filter_cons_of_neg (by simp), ih, List.lookup_cons, beq_false_of_ne h]
    · rw [List.filter_cons_of_pos (by simpa using hl), List.lookup_cons, List.lookup_cons, ih]

theorem get?_put (tree : FileTree) {location : Location} (h : location ≠ []) (entry : Entry)
    (place : Location) :
    (tree.put location entry).get? place =
      if place = location then some entry else tree.get? place := by
  by_cases hp : place = location
  · subst hp
    simp [get?, put, h]
  · simp only [get?, put, erase, if_neg hp, List.lookup_cons, beq_false_of_ne hp,
      lookup_filter_ne _ hp]

/-- The tree without what is at a place and below it. -/
def remove (tree : FileTree) (location : Location) : FileTree :=
  { tree with entries := tree.entries.filter fun (place, _) => !location.isPrefixOf place }

/-- The tree with a directory, and directories above it where there was nothing. -/
def mkdir (tree : FileTree) (location : Location) : FileTree :=
  (List.range location.length).foldl (fun t depth =>
    let place := location.take (depth + 1)
    if (t.get? place).isSome then t else t.put place .directory) tree

/-- The entries by location, each directory before what is in it. -/
def listing (tree : FileTree) : List (Location × Entry) :=
  tree.entries.mergeSort fun a b => !decide (b.1 < a.1)

/-! ### Paths -/

/-- The names in a path. -/
def components (path : String) : List String :=
  ((Text.pieces '/' path.toList).filter (!·.isEmpty)).map String.ofList

/-- The place that a name leads to from a directory. -/
def descend (here : Location) (name : String) : Except FileFault Location :=
  if name = "." then .ok here
  else if name = ".." then .ok here.dropLast
  else if 255 < name.utf8ByteSize then .error .nameTooLong
  else .ok (here ++ [name])

/-- Follows names from a directory; all but the last must lead to directories. -/
def walk (tree : FileTree) : Location → List String → Except FileFault Location
  | here, [] => .ok here
  | here, [name] => descend here name
  | here, name :: rest => do
    let next ← descend here name
    match tree.get? next with
    | some .directory => tree.walk next rest
    | some _ => .error .notDirectory
    | none => .error .notFound

/-- Follows a path from the root. -/
def locate (tree : FileTree) (path : String) : Except FileFault Location :=
  if path.toList.contains '\x00' then .error .nulInName
  else if path.isEmpty then .error .notFound
  else if 4096 ≤ path.utf8ByteSize then .error .nameTooLong
  else tree.walk [] (components path)

/-- The path of a name in a directory. -/
def joinPath (dir name : String) : String :=
  if dir.isEmpty || dir.endsWith "/" then dir ++ name else s!"{dir}/{name}"

/-! ### Opening and writing -/

/-- The bytes of a file after some bytes are written over its start. -/
def overlay (new old : List UInt8) : List UInt8 :=
  new ++ old.drop new.length

/-- Opens a place for writing: a file is emptied, and where there is nothing a file is made. -/
def createAt (tree : FileTree) (location : Location) : Except FileFault (Handle × FileTree) :=
  match tree.get? location with
  | some .directory => .error .isDirectory
  | some .fullDevice => .ok (.fullDevice, tree)
  | some (.file birth _) => .ok (.file location birth, tree.put location (.file birth []))
  | none =>
    .ok (.file location tree.births,
      { tree.put location (.file tree.births []) with births := tree.births + 1 })

/-- Opens a path for writing. -/
def create (tree : FileTree) (path : String) : Except FileFault (Handle × FileTree) := do
  tree.createAt (← tree.locate path)

/-- Writes bytes over the start of an open file. A file that is gone takes them unseen. -/
def write (tree : FileTree) (handle : Handle) (bytes : List UInt8) : Except FileFault FileTree :=
  match handle with
  | .fullDevice => if bytes.isEmpty then .ok tree else .error .noSpace
  | .file location birth =>
    match tree.get? location with
    | some (.file b old) =>
      if b = birth then .ok (tree.put location (.file b (overlay bytes old))) else .ok tree
    | _ => .ok tree

end FileTree

end LaneKernels
