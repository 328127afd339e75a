/-!
Memory as a row of bytes, and little-endian words in it.

* `byte` reads one byte, zero beyond the end; `setByte` writes one, without effect beyond the end.
* `load` assembles a word of any number of bytes, the first byte lowest (`getLsbD_load`), and `store` takes
  a word apart in the same way (`byte_store`); a store keeps the size (`size_store`).
-/

namespace LaneKernels

/-- The bytes of memory from address zero on. -/
structure Memory where
  bytes : Array (BitVec 8)
  deriving DecidableEq, Repr

namespace Memory

/-- Memory with a number of bytes, all zero. -/
def zeros (size : Nat) : Memory :=
  ⟨Array.replicate size 0#8⟩

/-- The number of bytes. -/
def size (memory : Memory) : Nat :=
  memory.bytes.size

/-- The byte at an address. -/
def byte (memory : Memory) (address : Nat) : BitVec 8 :=
  (memory.bytes[address]?).getD 0#8

/-- Memory with one byte replaced. -/
def setByte (memory : Memory) (address : Nat) (value : BitVec 8) : Memory :=
  ⟨memory.bytes.setIfInBounds address value⟩

/-- The word of some bytes from an address on, the first byte lowest. -/
def load (memory : Memory) (address : Nat) : (count : Nat) → BitVec (8 * count)
  | 0 => 0#0
  | count + 1 => memory.load (address + 1) count ++ memory.byte address

/-- Memory with a word of some bytes written from an address on, the lowest byte first. -/
def store (memory : Memory) (address : Nat) : (count : Nat) → BitVec (8 * count) → Memory
  | 0, _ => memory
  | count + 1, word =>
    (memory.setByte address (word.setWidth 8)).store (address + 1) count
      (word.extractLsb' 8 (8 * count))

@[simp] theorem size_setByte (memory : Memory) (address : Nat) (value : BitVec 8) :
    (memory.setByte address value).size = memory.size := by
  simp [size, setByte]

theorem byte_setByte (memory : Memory) {address : Nat} (h : address < memory.size)
    (value : BitVec 8) (place : Nat) :
    (memory.setByte address value).byte place =
      if place = address then value else memory.byte place := by
  simp only [byte, setByte, Array.getElem?_setIfInBounds]
  by_cases hp : place = address
  · subst hp
    rw [if_pos rfl, if_pos rfl, if_pos (show place < memory.bytes.size from h), Option.getD_some]
  · rw [if_neg (Ne.symm hp), if_neg hp]

@[simp] theorem size_store (memory : Memory) (address count : Nat) (word : BitVec (8 * count)) :
    (memory.store address count word).size = memory.size := by
  induction count generalizing memory address with
  | zero => rfl
  | succ count ih => rw [store, ih, size_setByte]

/-- Bit `j` of a loaded word is bit `j % 8` of byte `j / 8`. -/
theorem getLsbD_load (memory : Memory) (address count j : Nat) :
    (memory.load address count).getLsbD j =
      (decide (j < 8 * count) && (memory.byte (address + j / 8)).getLsbD (j % 8)) := by
  induction count generalizing address j with
  | zero => simp [load]
  | succ count ih =>
    rw [load, BitVec.getLsbD_append]
    by_cases hj : j < 8
    · simp [hj, show j < 8 * (count + 1) by omega, show j / 8 = 0 by omega,
        show j % 8 = j by omega]
    · have hdiv : address + 1 + (j - 8) / 8 = address + j / 8 := by omega
      have hmod : (j - 8) % 8 = j % 8 := by omega
      rw [if_neg (by simpa using hj), ih, hdiv, hmod]
      congr 1
      exact decide_eq_decide.mpr (by omega)

/-- A stored word puts its bytes, the lowest first, in the places it covers and leaves all others. -/
theorem byte_store (memory : Memory) (address count : Nat) (word : BitVec (8 * count))
    (h : address + count ≤ memory.size) (place : Nat) :
    (memory.store address count word).byte place =
      if address ≤ place ∧ place < address + count then
        word.extractLsb' (8 * (place - address)) 8
      else memory.byte place := by
  induction count generalizing memory address with
  | zero => rw [store, if_neg (by omega)]
  | succ count ih =>
    rw [store, ih _ _ _ (by rw [size_setByte]; omega), byte_setByte _ (by omega)]
    by_cases hlow : place = address
    · subst hlow
      rw [if_neg (by omega), if_pos rfl, if_pos (by omega), Nat.sub_self, Nat.mul_zero]
      apply BitVec.eq_of_getLsbD_eq
      intro i hi
      simp [hi]
    · rw [if_neg hlow]
      by_cases hin : address ≤ place ∧ place < address + (count + 1)
      · rw [if_pos hin, if_pos (by omega)]
        apply BitVec.eq_of_getLsbD_eq
        intro i hi
        have hbit : 8 * (place - (address + 1)) + i < 8 * count := by omega
        have hplace : 8 + (8 * (place - (address + 1)) + i) = 8 * (place - address) + i := by omega
        simp only [BitVec.getLsbD_extractLsb', hbit, decide_true, Bool.true_and, hplace]
      · rw [if_neg hin, if_neg (by omega)]

end Memory

end LaneKernels
