/-!
The three texts of a run, or three of anything that belongs to them.

`Artifact` names the three places, and a `Bundle` has a value for each: kernels with their scalar
defaults, the traits that make them entry points, and the array entry points.
-/

namespace LaneKernels

/-- The generated texts. -/
inductive Artifact where
  | kernels
  | traits
  | arrays
  deriving DecidableEq, Repr

namespace Artifact

/-- The three, in the order in which they are written. -/
def all : List Artifact :=
  [kernels, traits, arrays]

@[simp] theorem mem_all (artifact : Artifact) : artifact ∈ all := by
  cases artifact <;> decide

/-- The name of the file that a text goes to. -/
def fileName : Artifact → String
  | kernels => "kernels.rs"
  | traits => "api.rs"
  | arrays => "arrays.rs"

end Artifact

/-- A value for each generated text. -/
@[ext] structure Bundle (α : Type) where
  kernels : α
  traits : α
  arrays : α
  deriving DecidableEq, Repr

namespace Bundle

variable {α β : Type}

/-- The value at a place. -/
def get (bundle : Bundle α) : Artifact → α
  | .kernels => bundle.kernels
  | .traits => bundle.traits
  | .arrays => bundle.arrays

/-- The bundle of a value for each place. -/
def ofFn (f : Artifact → α) : Bundle α :=
  ⟨f .kernels, f .traits, f .arrays⟩

/-- The bundle with the value at one place replaced. -/
def set (bundle : Bundle α) (artifact : Artifact) (value : α) : Bundle α :=
  match artifact with
  | .kernels => { bundle with kernels := value }
  | .traits => { bundle with traits := value }
  | .arrays => { bundle with arrays := value }

/-- The bundle with a function applied at each place. -/
def map (f : α → β) (bundle : Bundle α) : Bundle β :=
  ⟨f bundle.kernels, f bundle.traits, f bundle.arrays⟩

/-- The values in the order of the places. -/
def toList (bundle : Bundle α) : List α :=
  Artifact.all.map bundle.get

@[simp] theorem get_ofFn (f : Artifact → α) (artifact : Artifact) :
    (ofFn f).get artifact = f artifact := by
  cases artifact <;> rfl

@[simp] theorem get_map (f : α → β) (bundle : Bundle α) (artifact : Artifact) :
    (bundle.map f).get artifact = f (bundle.get artifact) := by
  cases artifact <;> rfl

@[simp] theorem get_set (bundle : Bundle α) (artifact place : Artifact) (value : α) :
    (bundle.set artifact value).get place = if place = artifact then value else bundle.get place := by
  cases artifact <;> cases place <;> rfl

end Bundle

end LaneKernels
