import LaneKernels.CommandLine.Standard

/-!
The program: arguments and environment in, files in the working directory and an exit code out.
-/

namespace LaneKernels

/-- The trouble with a file that the system reports. -/
def FileFault.ofError : IO.Error → FileFault
  | .noFileOrDirectory .. => .notFound
  | .inappropriateType _ 20 _ => .notDirectory
  | .inappropriateType _ 21 _ => .isDirectory
  | .resourceExhausted _ 28 _ => .noSpace
  | error => .other (toString error)

/-- Runs an action on files and keeps its failure as a value. -/
def attempt {α : Type} (action : IO α) : IO (Except FileFault α) :=
  try
    return .ok (← action)
  catch error =>
    return .error (FileFault.ofError error)

/-- The host that works on real files and prints its log. -/
def systemHost (printer : CommandLine.Printer) : Host IO IO.FS.Handle where
  create path := attempt (IO.FS.Handle.mk path .write)
  write handle text := attempt do
    handle.write text.toUTF8
    handle.flush
  log record := IO.eprint (printer.printed record)

/-- The program on the system. -/
def runOnSystem (interface : CommandLine.Interface) (arguments : List ByteArray) : IO UInt32 := do
  match interface.answer? arguments with
  | some answer =>
    IO.print answer.stdout
    IO.eprint answer.stderr
    return answer.code
  | none =>
    let printer := interface.printer ((← IO.getEnv "RUST_LOG").map String.toUTF8)
    IO.eprint printer.greeting
    let selection := (← IO.getEnv "LANEWISE_TIERS").map String.toUTF8
    CommandLine.perform (systemHost printer) (TierSet.ofEnvironment selection)

end LaneKernels

/-- Runs the program. -/
def main (arguments : List String) : IO UInt32 :=
  LaneKernels.runOnSystem .standard (arguments.map String.toUTF8)
