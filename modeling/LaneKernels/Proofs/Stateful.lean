import Mathlib.Tactic

/-!
Running code with a state, one part after the other.

* `run_bind` and its kin run code after code.
* `Keeps` says what holds between the state in which code starts and the one that it leaves, whether it
  fails or not. It is enough to know it of the parts (`Keeps.bind`).
-/

namespace LaneKernels

section

variable {ε σ α β : Type} {first : EStateM ε σ α} {next : α → EStateM ε σ β} {before middle after : σ}
  {a : α} {b : β} {e : ε}

/-- Code after code goes on from the state that the first one leaves. -/
lemma run_bind_ok (hfirst : first before = .ok a middle) :
    (first >>= next) before = next a middle := by
  show EStateM.bind first next before = _
  rw [EStateM.bind, hfirst]

/-- Code after code that fails ends in the state that it leaves. -/
lemma run_bind_error (hfirst : first before = .error e middle) :
    (first >>= next) before = .error e middle := by
  show EStateM.bind first next before = _
  rw [EStateM.bind, hfirst]

/-- Code after code succeeds from the state that the first one leaves. -/
lemma run_bind (hfirst : first before = .ok a middle) (hnext : next a middle = .ok b after) :
    (first >>= next) before = .ok b after :=
  (run_bind_ok hfirst).trans hnext

/-- The state that a run leaves, whether it fails or not. -/
def final : EStateM.Result ε σ α → σ
  | .ok _ after | .error _ after => after

/-- The code leaves a state that is related to the one in which it starts, whether it fails or not. -/
def Keeps (R : σ → σ → Prop) (code : EStateM ε σ α) : Prop :=
  ∀ before, R before (final (code before))

variable {R : σ → σ → Prop}

lemma keeps_pure (hrefl : ∀ s, R s s) (a : α) : Keeps R (pure a : EStateM ε σ α) :=
  hrefl

/-- Code after code keeps what both keep, also if the second is not reached. -/
lemma Keeps.bind (htrans : ∀ {s t u}, R s t → R t u → R s u) (hfirst : Keeps R first)
    (hnext : ∀ a, Keeps R (next a)) : Keeps R (first >>= next) := by
  intro before
  have hstart := hfirst before
  cases hrun : first before with
  | ok a middle =>
      rw [hrun] at hstart
      rw [run_bind_ok hrun]
      exact htrans hstart (hnext a middle)
  | error e middle =>
      rw [hrun] at hstart
      rw [run_bind_error hrun]
      exact hstart

end

end LaneKernels
