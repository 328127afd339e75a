/-!
Log records: a level, the part of the program that speaks, and a message. Levels are ordered from errors to
traces, and a record is up to a level if it is at least as grave (`Record.isUpTo`).
-/

namespace LaneKernels.Log

/-- How grave a record is, gravest first. -/
inductive Level where
  | error
  | warn
  | info
  | debug
  | trace
  deriving DecidableEq, Repr

namespace Level

/-- Every level, gravest first. -/
def all : List Level :=
  [error, warn, info, debug, trace]

/-- The place of a level among all levels. -/
def rank (level : Level) : Nat :=
  all.idxOf level

/-- The name of a level. -/
def name : Level → String
  | error => "ERROR"
  | warn => "WARN"
  | info => "INFO"
  | debug => "DEBUG"
  | trace => "TRACE"

end Level

/-- One message of the log. -/
structure Record where
  level : Level
  target : String
  message : String
  deriving DecidableEq, Repr

/-- Whether a record is at least as grave as a level. -/
def Record.isUpTo (record : Record) (level : Level) : Bool :=
  record.level.rank ≤ level.rank

end LaneKernels.Log
