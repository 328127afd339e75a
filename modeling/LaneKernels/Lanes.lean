/-!
Registers cut into lanes of one width.

* `lane` is one lane of a register, counted from the low end, and `ofLanes` puts lanes together
  (`lane_ofLanes`).
* `lanewise` combines two registers lane by lane: a lane of the result depends on the lanes in the same
  place alone (`lane_lanewise`).
-/

namespace LaneKernels.Lanes

variable {n : Nat}

/-- A lane of a register, counted from the low end. -/
def lane (width index : Nat) (register : BitVec n) : BitVec width :=
  register.extractLsb' (width * index) width

/-- The register with some lanes, the first one lowest; what does not fit is dropped. -/
def ofLanes (n : Nat) {width : Nat} : List (BitVec width) → BitVec n
  | [] => 0
  | first :: rest => (ofLanes n rest <<< width) ||| first.setWidth n

/-- Combines two registers lane by lane. -/
def lanewise (width : Nat) (combine : BitVec width → BitVec width → BitVec width)
    (x y : BitVec n) : BitVec n :=
  ofLanes n ((List.range (n / width)).map fun index =>
    combine (lane width index x) (lane width index y))

/-- Bit `i` of lane `k` is bit `width * k + i` of the register. -/
theorem getLsbD_lane (width index : Nat) (register : BitVec n) {i : Nat} (hi : i < width) :
    (lane width index register).getLsbD i = register.getLsbD (width * index + i) := by
  simp [lane, hi]

theorem lane_ofLanes {width : Nat} (lanes : List (BitVec width)) {index : Nat}
    (hindex : index < lanes.length) (hfit : width * (index + 1) ≤ n) :
    lane width index (ofLanes n lanes) = lanes[index] := by
  induction lanes generalizing index with
  | nil => simp at hindex
  | cons first rest ih =>
    apply BitVec.eq_of_getLsbD_eq
    intro i hi
    rw [Nat.mul_succ] at hfit
    rw [getLsbD_lane _ _ _ hi, ofLanes, BitVec.getLsbD_or, BitVec.getLsbD_shiftLeft,
      BitVec.getLsbD_setWidth]
    cases index with
    | zero => simp [hi, show i < n by omega]
    | succ index =>
      rw [Nat.mul_succ] at hfit ⊢
      have hrest : index < rest.length := by simpa using hindex
      have hstep := ih hrest (by rw [Nat.mul_succ]; omega)
      have hbit := congrArg (·.getLsbD i) hstep
      simp only [getLsbD_lane _ _ _ hi] at hbit
      have hsub : width * index + width + i - width = width * index + i := by omega
      have hge : ¬ width * index + width + i < width := by omega
      have hlt : width * index + width + i < n := by omega
      have hfirst : first.getLsbD (width * index + width + i) = false :=
        BitVec.getLsbD_of_ge _ _ (by omega)
      simp [hsub, hge, hlt, hbit, hfirst]

/-- A lane of the result is the combination of the lanes in the same place. -/
theorem lane_lanewise {width : Nat} (hwidth : 0 < width)
    (combine : BitVec width → BitVec width → BitVec width) (x y : BitVec n) {index : Nat}
    (hfit : width * (index + 1) ≤ n) :
    lane width index (lanewise width combine x y) =
      combine (lane width index x) (lane width index y) := by
  have hindex : index < n / width := by
    rw [Nat.lt_iff_add_one_le, Nat.le_div_iff_mul_le hwidth, Nat.mul_comm]
    exact hfit
  rw [lanewise, lane_ofLanes _ (by simpa using hindex) hfit]
  simp

end LaneKernels.Lanes
