import LaneKernels.FileTree
import LaneKernels.Generation

/-!
The three files that take the generated texts.

* A `Host` can create files, write to them and log; the file tree with a log is one (`Session.host`).
* `OutputFiles.create` opens all three files, which empties them, and `OutputFiles.write` writes the texts
  through the handles opened before. Each ends at the first file that fails.
* `writeLibrary` opens the files, generates, and writes.
-/

namespace LaneKernels

/-- What files are created, written and reported with. -/
structure Host (m : Type → Type) (η : Type) where
  create : String → m (Except FileFault η)
  write : η → String → m (Except FileFault Unit)
  log : Log.Record → m Unit

/-- An open file with its path. -/
structure OutputFile (η : Type) where
  path : String
  handle : η
  deriving Repr

/-- The three open files. -/
abbrev OutputFiles (η : Type) := Bundle (OutputFile η)

namespace OutputFiles

variable {m : Type → Type} [Monad m] {η : Type}

/-- The path of a text's file in a directory. -/
def path (dir : String) (artifact : Artifact) : String :=
  FileTree.joinPath dir artifact.fileName

/-- Reports what happened to the files. -/
def log (host : Host m η) (message : String) : ExceptT Stop m Unit :=
  ExceptT.lift (host.log ⟨.debug, "lanewise_gen::srcgen", message⟩)

/-- Opens the file of one text. -/
def createOne (host : Host m η) (dir : String) (artifact : Artifact) :
    ExceptT Stop m (OutputFile η) := do
  match ← ExceptT.lift (host.create (path dir artifact)) with
  | .ok handle => return ⟨path dir artifact, handle⟩
  | .error cause => throw (.fault (.cannotOpen (path dir artifact) cause))

/-- Opens the three files in a directory. -/
def create (host : Host m η) (dir : String) : ExceptT Stop m (OutputFiles η) := do
  let kernels ← createOne host dir .kernels
  let traits ← createOne host dir .traits
  let arrays ← createOne host dir .arrays
  log host s!"opened output sink in {dir}"
  return ⟨kernels, traits, arrays⟩

/-- Writes one text to its file. -/
def writeOne (host : Host m η) (file : OutputFile η) (text : String) : ExceptT Stop m Unit := do
  match ← ExceptT.lift (host.write file.handle text) with
  | .ok _ => log host s!"wrote {file.path} ({text.utf8ByteSize} bytes)"
  | .error cause => throw (.fault (.cannotWrite file.path cause))

/-- Writes the three texts. -/
def write (host : Host m η) (files : OutputFiles η) (texts : Bundle String) :
    ExceptT Stop m Unit := do
  writeOne host files.kernels texts.kernels
  writeOne host files.traits texts.traits
  writeOne host files.arrays texts.arrays

end OutputFiles

/-- Opens the files in a directory, generates from the shipped tables, and writes the texts. -/
def writeLibrary {m : Type → Type} [Monad m] {η : Type} (host : Host m η) (dir : String)
    (tiers : TierSet) : ExceptT Stop m Unit := do
  let files ← OutputFiles.create host dir
  let (result, records) := (Recipe.shipped tiers).generate
  ExceptT.lift (records.forM host.log)
  match result with
  | .ok texts => OutputFiles.write host files texts
  | .error stop => throw stop

/-! ### A file tree as host -/

/-- A file tree with the log of what happened to it. -/
structure Session where
  tree : FileTree
  log : Array Log.Record

namespace Session

/-- A tree before anything is logged. -/
def start (tree : FileTree) : Session :=
  ⟨tree, #[]⟩

/-- The bytes of a text in a file. -/
def bytesOf (text : String) : List UInt8 :=
  text.toUTF8.data.toList

/-- The host that works on a file tree. -/
def host : Host (StateM Session) Handle where
  create path := fun session =>
    match session.tree.create path with
    | .ok (handle, tree) => (.ok handle, { session with tree })
    | .error cause => (.error cause, session)
  write handle text := fun session =>
    match session.tree.write handle (bytesOf text) with
    | .ok tree => (.ok (), { session with tree })
    | .error cause => (.error cause, session)
  log record := modify fun session => { session with log := session.log.push record }

end Session

end LaneKernels
