import Mathlib.Tactic
import LaneKernels.Execution

/-!
Arrays of elements in memory, and the output array filled element by element.

* `Memory.element` reads an element and `Memory.setElement` writes one. A word is read back lane by
  lane (`load_store_lane`), a word elsewhere is as before (`load_store_apart`), and memory is
  determined by the elements of one array and the bytes around it (`eq_of_elements`).
* `Operands.Fit` says that the arrays lie in memory and that the output overlaps no input.
* `combineRange` is the memory after some consecutive elements were combined one after the other.
  Since no input is overwritten, each element of the output is combined from the inputs as they were
  (`element_combineRange`), and nothing else changes (`byte_combineRange`).
-/

namespace LaneKernels

namespace Memory

variable {memory other : Memory} {address count : ℕ}

/-! ### Words -/

lemma eq_of_byte (hsize : memory.size = other.size) (h : ∀ p, memory.byte p = other.byte p) :
    memory = other := by
  obtain ⟨bytes⟩ := memory
  obtain ⟨others⟩ := other
  congr 1
  refine Array.ext hsize fun p hp hq => ?_
  have hbyte := h p
  simp only [byte, Array.getElem?_eq_getElem hp, Array.getElem?_eq_getElem hq,
    Option.getD_some] at hbyte
  exact hbyte

/-- A word depends on its own bytes alone. -/
lemma load_congr (h : ∀ j < count, memory.byte (address + j) = other.byte (address + j)) :
    memory.load address count = other.load address count := by
  apply BitVec.eq_of_getLsbD_eq
  intro j hj
  rw [getLsbD_load, getLsbD_load, h _ (by omega)]

/-- A byte of a word that was loaded. -/
lemma byte_eq_extractLsb'_load {j : ℕ} (hj : j < count) :
    memory.byte (address + j) = (memory.load address count).extractLsb' (8 * j) 8 := by
  apply BitVec.eq_of_getLsbD_eq
  intro i hi
  rw [BitVec.getLsbD_extractLsb', getLsbD_load, show (8 * j + i) / 8 = j by omega,
    show (8 * j + i) % 8 = i by omega]
  simp [hi, show 8 * j + i < 8 * count by omega]

/-- A lane of a loaded word is the word of the bytes in its place. -/
lemma lane_load {inner k : ℕ} (h : inner * (k + 1) ≤ count) :
    Lanes.lane (8 * inner) k (memory.load address count) = memory.load (address + inner * k) inner := by
  rw [Nat.mul_add_one] at h
  apply BitVec.eq_of_getLsbD_eq
  intro j hj
  have hplace : 8 * inner * k + j = 8 * (inner * k) + j := by rw [Nat.mul_assoc]
  rw [Lanes.getLsbD_lane _ _ _ hj, getLsbD_load, getLsbD_load, hplace,
    show (8 * (inner * k) + j) / 8 = inner * k + j / 8 by omega,
    show (8 * (inner * k) + j) % 8 = j % 8 by omega, ← Nat.add_assoc]
  simp [hj, show 8 * (inner * k) + j < 8 * count by omega]

/-- A word is read back lane by lane. -/
lemma load_store_lane {inner k : ℕ} (hfit : address + count ≤ memory.size)
    (h : inner * (k + 1) ≤ count) (word : BitVec (8 * count)) :
    (memory.store address count word).load (address + inner * k) inner =
      Lanes.lane (8 * inner) k word := by
  rw [Nat.mul_add_one] at h
  apply BitVec.eq_of_getLsbD_eq
  intro j hj
  have hplace : 8 * inner * k + j = 8 * (inner * k) + j := by rw [Nat.mul_assoc]
  rw [Lanes.getLsbD_lane _ _ _ hj, getLsbD_load, byte_store _ _ _ _ hfit, if_pos (by omega),
    BitVec.getLsbD_extractLsb', hplace,
    show 8 * (address + inner * k + j / 8 - address) + j % 8 = 8 * (inner * k) + j by omega]
  simp [hj, show j % 8 < 8 by omega]

/-- A word is read back whole. -/
lemma load_store (hfit : address + count ≤ memory.size) (word : BitVec (8 * count)) :
    (memory.store address count word).load address count = word := by
  have h : (memory.store address count word).load (address + count * 0) count =
      Lanes.lane (8 * count) 0 word := load_store_lane hfit (by omega) word
  rw [Nat.mul_zero, Nat.add_zero] at h
  rw [h]
  apply BitVec.eq_of_getLsbD_eq
  intro j hj
  rw [Lanes.getLsbD_lane _ _ _ hj, Nat.mul_zero, Nat.zero_add]

/-- Bytes outside of a word stay as they are when it is stored, whether it lies in memory or not. -/
lemma byte_store_apart {p : ℕ} (h : p < address ∨ address + count ≤ p) (word : BitVec (8 * count)) :
    (memory.store address count word).byte p = memory.byte p := by
  induction count generalizing memory address with
  | zero => rfl
  | succ count ih =>
      have hp : address ≠ p := by omega
      rw [store, ih (by omega), byte, byte, setByte, Array.getElem?_setIfInBounds_ne hp]

/-- A word apart from the one that is written is as before. -/
lemma load_store_apart {place inner : ℕ} (h : place + inner ≤ address ∨ address + count ≤ place)
    (word : BitVec (8 * count)) :
    (memory.store address count word).load place inner = memory.load place inner :=
  load_congr fun j hj => byte_store_apart (by omega) word

/-! ### Elements -/

/-- The element of an array at an index. -/
def element (memory : Memory) (type : ElementType) (base index : ℕ) : BitVec type.bits :=
  memory.load (base + type.bytes * index) type.bytes

/-- Memory with the element of an array at an index replaced. -/
def setElement (memory : Memory) (type : ElementType) (base index : ℕ) (value : BitVec type.bits) :
    Memory :=
  memory.store (base + type.bytes * index) type.bytes value

variable {type : ElementType} {base index : ℕ}

@[simp] lemma size_setElement (value : BitVec type.bits) :
    (memory.setElement type base index value).size = memory.size :=
  size_store _ _ _ _

/-- An element before another one ends where the other begins or before. -/
lemma mul_add_le (bytes : ℕ) {i j : ℕ} (h : i < j) : bytes * i + bytes ≤ bytes * j := by
  rw [← Nat.mul_add_one]
  exact Nat.mul_le_mul_left bytes h

lemma element_setElement_self (hfit : base + type.bytes * index + type.bytes ≤ memory.size)
    (value : BitVec type.bits) :
    (memory.setElement type base index value).element type base index = value :=
  load_store hfit value

lemma element_setElement_ne {place : ℕ} (h : place ≠ index) (value : BitVec type.bits) :
    (memory.setElement type base index value).element type base place =
      memory.element type base place := by
  refine load_store_apart ?_ value
  rcases Nat.lt_or_gt_of_ne h with hlt | hgt
  · left
    have hle := mul_add_le type.bytes hlt
    omega
  · right
    have hle := mul_add_le type.bytes hgt
    omega

/-- Bytes outside an element stay as they are when it is replaced. -/
lemma byte_setElement_apart {p : ℕ}
    (h : p < base + type.bytes * index ∨ base + type.bytes * index + type.bytes ≤ p)
    (value : BitVec type.bits) :
    (memory.setElement type base index value).byte p = memory.byte p :=
  byte_store_apart h value

/-- An address among some elements of an array is a byte of one of them. -/
lemma exists_index {first n p : ℕ} (hlow : base + type.bytes * first ≤ p)
    (hhigh : p < base + type.bytes * (first + n)) :
    ∃ index offset, first ≤ index ∧ index < first + n ∧ offset < type.bytes ∧
      p = base + type.bytes * index + offset := by
  have hpos := type.bytes_pos
  have hsplit := Nat.div_add_mod (p - base) type.bytes
  have hmod := Nat.mod_lt (p - base) hpos
  refine ⟨(p - base) / type.bytes, (p - base) % type.bytes, ?_, ?_, hmod, by omega⟩
  · rw [Nat.le_div_iff_mul_le hpos, Nat.mul_comm]
    omega
  · rw [Nat.div_lt_iff_lt_mul hpos, Nat.mul_comm]
    omega

/-- Memory is determined by some consecutive elements of an array and the bytes around them. -/
lemma eq_of_elements (type : ElementType) (base first n : ℕ) (hsize : memory.size = other.size)
    (hin : ∀ index, first ≤ index → index < first + n →
      memory.element type base index = other.element type base index)
    (hout : ∀ p, p < base + type.bytes * first ∨ base + type.bytes * (first + n) ≤ p →
      memory.byte p = other.byte p) : memory = other := by
  refine eq_of_byte hsize fun p => ?_
  by_cases h : p < base + type.bytes * first ∨ base + type.bytes * (first + n) ≤ p
  · exact hout p h
  · push Not at h
    obtain ⟨index, offset, hfirst, hlast, hoffset, rfl⟩ := exists_index h.1 h.2
    have hword : memory.load (base + type.bytes * index) type.bytes =
        other.load (base + type.bytes * index) type.bytes := hin index hfirst hlast
    rw [byte_eq_extractLsb'_load hoffset, byte_eq_extractLsb'_load hoffset, hword]

end Memory

/-! ### The output filled element by element -/

/-- The arrays lie in memory, and the output overlaps neither input. -/
structure Operands.Fit (operands : Operands) (type : ElementType) (memory : Memory) : Prop where
  a_le : operands.a + type.bytes * operands.len ≤ memory.size
  b_le : operands.b + type.bytes * operands.len ≤ memory.size
  c_le : operands.c + type.bytes * operands.len ≤ memory.size
  a_apart : operands.a + type.bytes * operands.len ≤ operands.c ∨
    operands.c + type.bytes * operands.len ≤ operands.a
  b_apart : operands.b + type.bytes * operands.len ≤ operands.c ∨
    operands.c + type.bytes * operands.len ≤ operands.b

/-- The arrays fit in any memory of the same size. -/
lemma Operands.Fit.of_size {operands : Operands} {type : ElementType} {memory other : Memory}
    (h : operands.Fit type memory) (hsize : other.size = memory.size) : operands.Fit type other :=
  ⟨hsize ▸ h.a_le, hsize ▸ h.b_le, hsize ▸ h.c_le, h.a_apart, h.b_apart⟩

section

variable {type : ElementType} (f : BitVec type.bits → BitVec type.bits → BitVec type.bits)
  (operands : Operands)

/-- Memory with the elements at an index combined into the output. -/
def combineAt (memory : Memory) (index : ℕ) : Memory :=
  memory.setElement type operands.c index
    (f (memory.element type operands.a index) (memory.element type operands.b index))

/-- Memory with some consecutive elements combined into the output, one after the other. -/
def combineRange (memory : Memory) (first count : ℕ) : Memory :=
  (List.range' first count).foldl (combineAt f operands) memory

lemma combineRange_succ (memory : Memory) (first count : ℕ) :
    combineRange f operands memory first (count + 1) =
      combineAt f operands (combineRange f operands memory first count) (first + count) := by
  rw [combineRange, List.range'_concat, List.foldl_append, Nat.one_mul]
  rfl

lemma combineRange_succ' (memory : Memory) (first count : ℕ) :
    combineRange f operands memory first (count + 1) =
      combineRange f operands (combineAt f operands memory first) (first + 1) count := by
  rw [combineRange, List.range'_succ]
  rfl

/-- Combining one stretch after another combines both. -/
lemma combineRange_add (memory : Memory) (first m n : ℕ) :
    combineRange f operands (combineRange f operands memory first m) (first + m) n =
      combineRange f operands memory first (m + n) := by
  rw [combineRange, combineRange, combineRange, ← List.foldl_append, List.range'_append_1]

variable {operands} {memory : Memory}

@[simp] lemma size_combineRange (first count : ℕ) :
    (combineRange f operands memory first count).size = memory.size := by
  induction count with
  | zero => rfl
  | succ count ih => rw [combineRange_succ, combineAt, Memory.size_setElement, ih]

/-- Bytes outside the elements that are combined stay as they are. -/
lemma byte_combineRange {first count p : ℕ}
    (hp : p < operands.c + type.bytes * first ∨ operands.c + type.bytes * (first + count) ≤ p) :
    (combineRange f operands memory first count).byte p = memory.byte p := by
  induction count with
  | zero => rfl
  | succ count ih =>
      have hnext : type.bytes * (first + (count + 1)) = type.bytes * (first + count) + type.bytes := by
        rw [← Nat.add_assoc, Nat.mul_add_one]
      have hstart : type.bytes * first ≤ type.bytes * (first + count) :=
        Nat.mul_le_mul_left _ (by omega)
      rw [combineRange_succ, combineAt, Memory.byte_setElement_apart (by omega), ih (by omega)]

/-- The elements of an array that the output does not overlap stay as they are. -/
lemma element_combineRange_apart {first count base index : ℕ}
    (hapart : base + type.bytes * operands.len ≤ operands.c ∨
      operands.c + type.bytes * operands.len ≤ base)
    (hlen : first + count ≤ operands.len) (hindex : index < operands.len) :
    (combineRange f operands memory first count).element type base index =
      memory.element type base index := by
  have hend : type.bytes * (first + count) ≤ type.bytes * operands.len := Nat.mul_le_mul_left _ hlen
  have hplace := Memory.mul_add_le type.bytes hindex
  refine Memory.load_congr fun j hj => byte_combineRange f ?_
  omega

/-- Each element of the output is combined from the inputs as they were. -/
lemma element_combineRange (hfit : operands.Fit type memory) {first count index : ℕ}
    (hlen : first + count ≤ operands.len) (hfirst : first ≤ index) (hindex : index < first + count) :
    (combineRange f operands memory first count).element type operands.c index =
      f (memory.element type operands.a index) (memory.element type operands.b index) := by
  induction count with
  | zero => omega
  | succ count ih =>
      have hend := Memory.mul_add_le type.bytes (show first + count < operands.len by omega)
      have hroom : operands.c + type.bytes * (first + count) + type.bytes ≤
          (combineRange f operands memory first count).size := by
        rw [size_combineRange]
        exact le_trans (by omega) hfit.c_le
      rw [combineRange_succ, combineAt]
      rcases Nat.lt_or_ge index (first + count) with hlt | hge
      · rw [Memory.element_setElement_ne (by omega)]
        exact ih (by omega) hlt
      · obtain rfl : index = first + count := by omega
        rw [Memory.element_setElement_self hroom,
          element_combineRange_apart f hfit.a_apart (by omega) (by omega),
          element_combineRange_apart f hfit.b_apart (by omega) (by omega)]

end

end LaneKernels
