import LaneKernels.OutputFiles
import LaneKernels.TierSet.Setting

/-!
The command line.

* An `Interface` is what the program has from elsewhere: a reader of its arguments, which lets a run begin
  or answers in its place, and a printer of the log.
* `perform` is a run on a host: it takes the selected tiers, generates into the working directory, and
  reports a failure with what caused it. Nothing is opened if the selection is wrong.
* `run` is the whole program on a file tree, with what it prints and its exit code.
-/

namespace LaneKernels.CommandLine

/-- What the program answers without a run. -/
structure Answer where
  code : UInt32
  stdout : String
  stderr : String
  deriving DecidableEq, Repr

/-- What is printed of a log: a text when it starts, and one for each record. -/
structure Printer where
  greeting : String
  printed : Log.Record → String

/-- The parts of the program that read its arguments and print its log. -/
structure Interface where
  /-- The answer to the arguments; without one a run begins. -/
  answer? : List ByteArray → Option Answer
  /-- The printer that the log setting asks for, if there is one. -/
  printer : Option ByteArray → Printer

/-! ### A run -/

/-- The records that report why a run ended early. -/
def failureRecords (stop : Stop) : List Log.Record :=
  let record (message : String) : Log.Record := ⟨.error, "lanewise_gen", message⟩
  let cause? :=
    match stop with
    | .fault fault => fault.cause?
    | .crash _ => none
  record stop.message :: (cause?.map fun cause => record s!"  caused by: {cause.message}").toList

/-- Generates into the working directory for the selected tiers; the answer is the exit code. -/
def perform {m : Type → Type} [Monad m] {η : Type} (host : Host m η)
    (selection : Except Fault TierSet) : m UInt32 := do
  let result ←
    match selection with
    | .ok tiers => (writeLibrary host "." tiers).run
    | .error fault => pure (.error (.fault fault))
  match result with
  | .ok _ => return 0
  | .error stop =>
    (failureRecords stop).forM host.log
    return 1

/-! ### The program on a file tree -/

/-- What the program is started with; arguments and settings are bytes. -/
structure Invocation where
  arguments : List ByteArray
  /-- The value of the variable that selects tiers, if it is set. -/
  tiers : Option ByteArray
  /-- The log setting, if there is one. -/
  logSetting : Option ByteArray

/-- What the program leaves behind. -/
structure Outcome where
  code : UInt32
  stdout : String
  stderr : String
  tree : FileTree

/-- The program on a file tree. -/
def run (interface : Interface) (invocation : Invocation) (tree : FileTree) : Outcome :=
  match interface.answer? invocation.arguments with
  | some answer => ⟨answer.code, answer.stdout, answer.stderr, tree⟩
  | none =>
    let printer := interface.printer invocation.logSetting
    let selection := TierSet.ofEnvironment invocation.tiers
    let (code, session) := (perform Session.host selection).run (Session.start tree)
    ⟨code, "", printer.greeting ++ String.join (session.log.toList.map printer.printed), session.tree⟩

end LaneKernels.CommandLine
