import LaneKernels.Pattern.Basic

/-!
Whether a pattern matches somewhere in a text.

* A set of places in a text is a number: bit `i` stands for the place before character `i`, and the last one
  for the end. `places` is the set of those with some property.
* `ends` is the set of the places where a match can end that starts in one of some places. A character moves
  places on by one, a condition picks some of them, and a repetition goes on until nothing new is reached.
* `isIn` asks for a match that starts anywhere.
-/

namespace LaneKernels.Pattern

/-- A set of places in a text. -/
abbrev Places := Nat

/-- The places with a property, in order. -/
def places {α : Type} (holds : α → Bool) (items : List α) : Places :=
  items.foldr (fun item more => 2 * more + if holds item then 1 else 0) 0

/-- The characters before and behind each place of a text. -/
def neighbours (text : List Char) : List (Option Char × Option Char) :=
  (none :: text.map some).zip (text.map some ++ [none])

/-- Whether a character is part of a word of seven-bit characters. -/
def isWordChar (c : Char) : Bool :=
  c.isAlphanum || c = '_'

/-- Whether a place between two characters is a word edge of a kind. -/
def WordEdge.holds (edge : WordEdge) (before behind : Option Char) : Bool :=
  let inWord := before.any isWordChar
  let toWord := behind.any isWordChar
  match edge with
  | boundary => inWord != toWord
  | noBoundary => inWord == toWord
  | start => !inWord && toWord
  | stop => inWord && !toWord
  | startHalf => !inWord
  | stopHalf => !toWord

/-- Whether a condition holds between two characters. -/
def Look.holds (look : Look) (before behind : Option Char) : Bool :=
  match look with
  | textStart => before.isNone
  | textEnd => behind.isNone
  | lineStart false => before.all (· = '\n')
  | lineStart true => before.all fun c => c = '\n' || (c = '\r' && behind ≠ some '\n')
  | lineEnd false => behind.all (· = '\n')
  | lineEnd true => behind.all fun c => c = '\r' || (c = '\n' && before ≠ some '\r')
  | word _ edge => edge.holds before behind

/-- Goes on a number of times, or until nothing changes. -/
def iterate (step : Places → Places) : Nat → Places → Places
  | 0, reached => reached
  | count + 1, reached =>
    if reached = 0 then 0
    else
      let next := step reached
      if next = reached then reached else iterate step count next

/-- What is reached in at most so many steps from places that were reached, of which some are new. -/
def reach (step : Places → Places) : Nat → Places → Places → Places
  | 0, reached, _ => reached
  | count + 1, reached, new =>
    if new = 0 then reached
    else
      let all := reached ||| step new
      reach step count all (all ^^^ reached)

/-- The places where a match ends that starts in some places. -/
def ends (text : List Char) : Pattern → Places → Places
  | empty, starts => starts
  | chars set, starts => (starts &&& places (fun c => set.contains c.toNat) text) <<< 1
  | look l, starts => starts &&& places (fun (before, behind) => l.holds before behind) (neighbours text)
  | captured body, starts => body.ends text starts
  | sequence p q, starts => q.ends text (p.ends text starts)
  | either p q, starts => p.ends text starts ||| q.ends text starts
  | repeated least most body, starts =>
    let first := iterate (fun reached => body.ends text reached) least starts
    let more := (most.map (· - least)).getD (text.length + 1)
    reach (fun reached => body.ends text reached) more first first

/-- All places of a text. -/
def everywhere (text : List Char) : Places :=
  places (fun _ => true) (neighbours text)

/-- Whether a pattern matches somewhere in a text. -/
def isIn (pattern : Pattern) (text : String) : Bool :=
  pattern.ends text.toList (everywhere text.toList) ≠ 0

end LaneKernels.Pattern
