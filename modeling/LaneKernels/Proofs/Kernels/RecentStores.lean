import Mathlib.Tactic
import LaneKernels.Proofs.Kernels.Acceleration

/-!
Words of eight bytes on their way between memory and the narrowest registers.

* A `WordStep` loads or stores such a word at any address, so that stores may overlap in part. It is a call of
  the callable that the shipped tables bind for the narrowest tier (`WordStep.binding?_slot`).
* `byteAfter` is the byte of the most recent store that covers an address, or the byte that was there before
  all steps. A run of steps leaves these bytes (`toNat_byte_effects`), and each load answers with the word of
  the bytes that it finds (`getElem?_answers`).
* `recent_stores` puts this together. Whether a step asks for alignment makes no difference, and the lanes of
  a word are the elements of the array that it is loaded from or stored to.
-/

namespace LaneKernels

open Execution

/-! ### The bytes of a word -/

namespace Memory

/-- The bytes at an address are the digits of the word there, the first one lowest. -/
lemma toNat_load (memory : Memory) (address count : ℕ) : (memory.load address count).toNat =
    Nat.ofDigits 256 ((List.range count).map fun j => (memory.byte (address + j)).toNat) := by
  induction count generalizing address with
  | zero => rfl
  | succ count ih =>
      have hshift : (List.range count).map (fun j => (memory.byte (address + 1 + j)).toNat) =
          (List.range count).map fun j => (memory.byte (address + (j + 1))).toNat :=
        List.map_congr_left fun j _ => by rw [Nat.add_assoc, Nat.add_comm 1 j]
      calc (memory.load address (count + 1)).toNat
          = (memory.load (address + 1) count).toNat * 2 ^ 8 + (memory.byte address).toNat := by
            rw [load, BitVec.toNat_append, ← Nat.shiftLeft_add_eq_or_of_lt (memory.byte address).isLt,
              Nat.shiftLeft_eq]
        _ = Nat.ofDigits 256 ((memory.byte address).toNat ::
              (List.range count).map fun j => (memory.byte (address + (j + 1))).toNat) := by
            rw [Nat.ofDigits_cons, ← hshift, ← ih, Nat.add_comm, Nat.mul_comm]
            rfl
        _ = _ := by
            rw [List.range_succ_eq_map, List.map_cons, List.map_map]
            rfl

end Memory

/-! ### Steps -/

/-- A word is moved between memory and the machine. -/
inductive WordStep where
  | load (access : Access)
  | store (access : Access) (word : BitVec 64)

namespace WordStep

/-- The access to memory. -/
def access : WordStep → Access
  | load access | store access _ => access

/-- The slot that the callable fills. -/
def slot : WordStep → Slot
  | load access => if access.aligned then .alignedLoad else .unalignedLoad
  | store access _ => if access.aligned then .alignedStore else .unalignedStore

/-- The path of the callable. -/
def path : WordStep → String
  | load access => if access.aligned then "crate::mm64::load" else "crate::mm64::loadu"
  | store access _ => if access.aligned then "crate::mm64::store" else "crate::mm64::storeu"

/-- What the callable does. -/
def transfer : WordStep → Transfer
  | load access => ⟨.load, 8, access.aligned⟩
  | store access _ => ⟨.store, 8, access.aligned⟩

/-- Takes the step. A load has an answer. -/
def run : WordStep → Execution (Option (BitVec 64))
  | load access => do
    let word ← Execution.load 8 access
    return some word
  | store access word => do
    Execution.store 8 access word
    return none

/-- The step is in memory, and at a multiple of the word's bytes if it asks for that. -/
structure Allowed (step : WordStep) (memory : Memory) : Prop where
  le_size : step.access.address + 8 ≤ memory.size
  granted : step.access.Granted 8

/-- The step without a wish for alignment. -/
def unaligned : WordStep → WordStep
  | load access => load { access with aligned := false }
  | store access word => store { access with aligned := false } word

/-- The byte that a step stores at an address, if it covers it. -/
def stored? (p : ℕ) : WordStep → Option ℕ
  | load _ => none
  | store access word =>
    if access.address ≤ p ∧ p < access.address + 8 then
      some (word.toNat / 256 ^ (p - access.address) % 256)
    else none

/-- The steps are the callables that are bound for the narrowest tier. -/
lemma binding?_slot (step : WordStep) {type : ElementType} (h : type ∈ ElementType.integersUpTo 32) :
    BindingTable.shipped.binding? .mmx step.slot type = some ⟨step.path, .element⟩ := by
  have key : ∀ aligned : Bool, ∀ type ∈ ElementType.integersUpTo 32,
      BindingTable.shipped.binding? .mmx (if aligned then .alignedLoad else .unalignedLoad) type =
          some ⟨if aligned then "crate::mm64::load" else "crate::mm64::loadu", .element⟩ ∧
        BindingTable.shipped.binding? .mmx (if aligned then .alignedStore else .unalignedStore) type =
          some ⟨if aligned then "crate::mm64::store" else "crate::mm64::storeu", .element⟩ := by
    decide
  cases step with
  | load access => exact (key access.aligned type h).1
  | store access word => exact (key access.aligned type h).2

/-- Each of these callables moves eight bytes. -/
lemma named?_path (step : WordStep) : Transfer.named? step.path = some step.transfer := by
  have key : ∀ aligned : Bool,
      Transfer.named? (if aligned then "crate::mm64::load" else "crate::mm64::loadu") =
          some ⟨.load, 8, aligned⟩ ∧
        Transfer.named? (if aligned then "crate::mm64::store" else "crate::mm64::storeu") =
          some ⟨.store, 8, aligned⟩ := by
    decide
  cases step with
  | load access => exact (key access.aligned).1
  | store access word => exact (key access.aligned).2

/-! ### What a step does -/

/-- What a load finds. -/
def answer (memory : Memory) : WordStep → Option (BitVec 64)
  | load access => some (memory.load access.address 8)
  | store _ _ => none

/-- Memory after a step. -/
def effect (memory : Memory) : WordStep → Memory
  | load _ => memory
  | store access word => memory.store access.address 8 word

variable {memory : Memory} {step : WordStep}

lemma runs_run (memory : Memory) (step : WordStep) :
    Runs step.run memory (step.answer memory) (step.effect memory) [.accessed step.access] := by
  cases step with
  | load access =>
      refine (runs_load memory 8 access).bind ?_
      exact runs_pure memory _
  | store access word =>
      refine (runs_store memory 8 access word).bind ?_
      exact runs_pure _ none

@[simp] lemma size_effect : (step.effect memory).size = memory.size := by
  cases step with
  | load access => rfl
  | store access word => exact Memory.size_store _ _ _ _

@[simp] lemma answer_unaligned : step.unaligned.answer memory = step.answer memory := by
  cases step <;> rfl

@[simp] lemma effect_unaligned : step.unaligned.effect memory = step.effect memory := by
  cases step <;> rfl

/-- A step changes the bytes that it stores. -/
lemma toNat_byte_effect (h : step.Allowed memory) (p : ℕ) :
    ((step.effect memory).byte p).toNat = (step.stored? p).getD (memory.byte p).toNat := by
  cases step with
  | load access => rfl
  | store access word =>
      have hfit : access.address + 8 ≤ memory.size := h.le_size
      rw [effect, Memory.byte_store _ _ _ _ hfit, stored?]
      split
      · rw [BitVec.extractLsb'_toNat, Nat.shiftRight_eq_div_pow, Nat.pow_mul]
        rfl
      · rfl

end WordStep

/-! ### Runs of steps -/

/-- The byte at an address after some steps: that of the most recent store that covers it, or the byte that
was there before. -/
def byteAfter (memory : Memory) (steps : List WordStep) (p : ℕ) : ℕ :=
  (steps.filterMap (·.stored? p)).getLast?.getD (memory.byte p).toNat

namespace WordStep

/-- Memory after some steps. -/
def effects (memory : Memory) (steps : List WordStep) : Memory :=
  steps.foldl effect memory

/-- The answers to some steps. -/
def answers (memory : Memory) : List WordStep → List (Option (BitVec 64))
  | [] => []
  | step :: steps => step.answer memory :: answers (step.effect memory) steps

lemma runs_steps (memory : Memory) (steps : List WordStep) :
    Runs (steps.mapM run) memory (answers memory steps) (effects memory steps)
      (steps.map fun step => .accessed step.access) := by
  induction steps generalizing memory with
  | nil => exact runs_pure memory []
  | cons step steps ih =>
      rw [List.mapM_cons]
      have hrest : Runs (do let rest ← steps.mapM run; return step.answer memory :: rest)
          (step.effect memory) (answers memory (step :: steps)) (effects memory (step :: steps))
          (steps.map (fun step => Event.accessed step.access) ++ []) := by
        refine (ih (step.effect memory)).bind ?_
        exact runs_pure _ _
      rw [List.append_nil] at hrest
      exact (runs_run memory step).bind hrest

lemma size_effects (memory : Memory) (steps : List WordStep) :
    (effects memory steps).size = memory.size := by
  induction steps generalizing memory with
  | nil => rfl
  | cons step steps ih => rw [effects, List.foldl_cons, ← effects, ih, size_effect]

/-- Some steps leave the bytes of the most recent stores. -/
lemma toNat_byte_effects {memory : Memory} {steps : List WordStep}
    (h : ∀ step ∈ steps, step.Allowed memory) (p : ℕ) :
    ((effects memory steps).byte p).toNat = byteAfter memory steps p := by
  induction steps generalizing memory with
  | nil => rfl
  | cons step steps ih =>
      have hstep := h step List.mem_cons_self
      have hrest : ∀ later ∈ steps, later.Allowed (step.effect memory) := fun later hlater =>
        have hallowed := h later (List.mem_cons_of_mem step hlater)
        ⟨size_effect.symm ▸ hallowed.le_size, hallowed.granted⟩
      rw [effects, List.foldl_cons, ← effects, ih hrest, byteAfter, byteAfter, toNat_byte_effect hstep,
        List.filterMap_cons]
      -- what this step stores takes the place of the initial byte for the later ones
      cases step.stored? p with
      | none => rfl
      | some byte => rw [List.getLast?_cons]; rfl

@[simp] lemma length_answers (memory : Memory) (steps : List WordStep) :
    (answers memory steps).length = steps.length := by
  induction steps generalizing memory with
  | nil => rfl
  | cons step steps ih => rw [answers, List.length_cons, List.length_cons, ih]

/-- The later steps find the memory that the earlier ones leave. -/
lemma answers_append (memory : Memory) (earlier later : List WordStep) :
    answers memory (earlier ++ later) = answers memory earlier ++ answers (effects memory earlier) later := by
  induction earlier generalizing memory with
  | nil => rfl
  | cons step earlier ih => rw [List.cons_append, answers, ih]; rfl

/-- A load finds the word in the memory that the earlier steps leave. -/
lemma getElem?_answers (memory : Memory) (earlier later : List WordStep) (access : Access) :
    (answers memory (earlier ++ load access :: later))[earlier.length]? =
      some (some ((effects memory earlier).load access.address 8)) := by
  rw [answers_append, List.getElem?_append_right (length_answers memory earlier).le, length_answers,
    Nat.sub_self]
  rfl

/-- Steps that differ in their wishes for alignment alone do the same. -/
lemma answers_effects_congr (memory : Memory) {steps others : List WordStep}
    (h : others.map unaligned = steps.map unaligned) :
    answers memory others = answers memory steps ∧ effects memory others = effects memory steps := by
  have key : ∀ (steps : List WordStep) (memory : Memory),
      answers memory (steps.map unaligned) = answers memory steps ∧
        effects memory (steps.map unaligned) = effects memory steps := fun steps => by
    induction steps with
    | nil => exact fun memory => ⟨rfl, rfl⟩
    | cons step steps ih =>
        intro memory
        obtain ⟨hanswers, heffects⟩ := ih (step.effect memory)
        rw [List.map_cons, answers, answers, effects, List.foldl_cons, answer_unaligned, effect_unaligned,
          hanswers]
        exact ⟨rfl, heffects⟩
  rw [← (key others memory).1, ← (key others memory).2, h]
  exact key steps memory

/-- Some steps leave the bytes of the most recent stores, and they answer with the words of such bytes. -/
structure Recalls (memory : Memory) (steps : List WordStep) (answers : List (Option (BitVec 64)))
    (after : Memory) : Prop where
  size : after.size = memory.size
  byte : ∀ p, (after.byte p).toNat = byteAfter memory steps p
  /-- The first of the eight bytes is the lowest one of the word. -/
  load : ∀ earlier access later, steps = earlier ++ .load access :: later →
    ∃ word, answers[earlier.length]? = some (some word) ∧ word.toNat =
      Nat.ofDigits 256 ((List.range 8).map fun j => byteAfter memory earlier (access.address + j))

lemma recalls {memory : Memory} {steps : List WordStep} (h : ∀ step ∈ steps, step.Allowed memory) :
    Recalls memory steps (answers memory steps) (effects memory steps) where
  size := size_effects memory steps
  byte := toNat_byte_effects h
  load := by
    rintro earlier access later rfl
    have hearlier : ∀ step ∈ earlier, step.Allowed memory := fun step hstep =>
      h step (List.mem_append_left _ hstep)
    refine ⟨_, getElem?_answers memory earlier later access, ?_⟩
    rw [Memory.toNat_load]
    simp only [toNat_byte_effects hearlier]

/-! ### Elements -/

/-- The lanes of a word are the elements of the array that it is loaded from or stored to. -/
structure MovesElements (type : ElementType) (memory : Memory) : Prop where
  /-- The lanes fill the word. -/
  fill : Tier.mmx.lanes type * type.bits = 64
  load : ∀ base index (access : Access), access.address = base + type.bytes * index →
    ∃ word, Runs (WordStep.load access).run memory (some word) memory [.accessed access] ∧
      ∀ k < Tier.mmx.lanes type, Lanes.lane type.bits k word = memory.element type base (index + k)
  /-- The other elements stay. -/
  store : ∀ base index (access : Access) word, access.address = base + type.bytes * index →
    (WordStep.store access word).Allowed memory →
      ∃ after, Runs (WordStep.store access word).run memory none after [.accessed access] ∧
        (∀ k < Tier.mmx.lanes type, after.element type base (index + k) = Lanes.lane type.bits k word) ∧
        ∀ place, place < index ∨ index + Tier.mmx.lanes type ≤ place →
          after.element type base place = memory.element type base place

lemma movesElements {type : ElementType} (h : type ∈ ElementType.integersUpTo 32) (memory : Memory) :
    MovesElements type memory := by
  have hbits : type.bits ≤ Tier.mmx.registerBits := by
    simp only [ElementType.integersUpTo, List.mem_filter, Bool.and_eq_true, decide_eq_true_eq] at h
    exact h.2.2.trans (by decide)
  have hfill : Tier.mmx.lanes type * type.bytes = 8 := Tier.lanes_mul_bytes (Tier.lanes_pos_iff.mpr hbits)
  have hlane : ∀ k < Tier.mmx.lanes type, type.bytes * (k + 1) ≤ 8 := fun k hk => by
    rw [← hfill, Nat.mul_comm]
    exact Nat.mul_le_mul_right _ hk
  refine ⟨?_, fun base index access haddress => ?_, fun base index access word haddress hallowed => ?_⟩
  · rw [ElementType.bits, Nat.mul_left_comm, hfill]
  · refine ⟨_, runs_run memory (.load access), fun k hk => ?_⟩
    rw [Memory.element, Nat.mul_add, ← Nat.add_assoc, ← haddress]
    exact Memory.lane_load (hlane k hk)
  · refine ⟨_, runs_run memory (.store access word), fun k hk => ?_, fun place hplace => ?_⟩
    · have hfit : access.address + 8 ≤ memory.size := hallowed.le_size
      rw [Memory.element, Nat.mul_add, ← Nat.add_assoc, ← haddress, effect]
      exact Memory.load_store_lane hfit (hlane k hk) word
    · have hapart : base + type.bytes * place + type.bytes ≤ access.address ∨
          access.address + 8 ≤ base + type.bytes * place := by
        rw [haddress]
        obtain hbefore | hbehind := hplace
        · left
          have hle := Memory.mul_add_le type.bytes hbefore
          omega
        · right
          -- the lanes fill the word, so it ends where the element behind its last lane begins
          have hle := Nat.mul_le_mul_left type.bytes hbehind
          rw [Nat.mul_add, Nat.mul_comm type.bytes (Tier.mmx.lanes type), hfill] at hle
          omega
      rw [effect, Memory.element, Memory.load_store_apart hapart]
      rfl

end WordStep

/-! ### The whole -/

/-- Some steps in memory run to their end, however their words overlap. Each byte is then that of the most
recent store that covers it, and each load answers with the word of the bytes at its address. Steps that differ
in their wishes for alignment alone, and are allowed too, do the same. The steps are what is bound for the
integers of at most 32 bits on the narrowest tier, and for these the lanes of a word are elements of an
array. -/
theorem recent_stores (steps : List WordStep) (memory : Memory)
    (h : ∀ step ∈ steps, step.Allowed memory) :
    (∃ answers after,
      Runs (steps.mapM WordStep.run) memory answers after
        (steps.map fun step => .accessed step.access) ∧
      WordStep.Recalls memory steps answers after ∧
      ∀ others : List WordStep, (∀ other ∈ others, other.Allowed memory) →
        others.map WordStep.unaligned = steps.map WordStep.unaligned →
          ∃ events, Runs (others.mapM WordStep.run) memory answers after events) ∧
    ∀ type ∈ ElementType.integersUpTo 32, WordStep.MovesElements type memory ∧
      ∀ step ∈ steps, BindingTable.shipped.binding? .mmx step.slot type = some ⟨step.path, .element⟩ ∧
        Transfer.named? step.path = some step.transfer := by
  refine ⟨⟨_, _, WordStep.runs_steps memory steps, WordStep.recalls h, fun others _ hsame => ?_⟩,
    fun type htype => ⟨WordStep.movesElements htype memory, fun step _ =>
      ⟨step.binding?_slot htype, step.named?_path⟩⟩⟩
  obtain ⟨hanswers, heffects⟩ := WordStep.answers_effects_congr memory hsame
  rw [← hanswers, ← heffects]
  exact ⟨_, WordStep.runs_steps memory others⟩

/-- Two stores to twelve bytes, the second one over the last five bytes of the first, and a load of bytes of
both. -/
theorem recent_stores_overlapping :
    ∃ (answers : List (Option (BitVec 64))) (after : Memory) (events : List Event),
      Runs ([.store ⟨.store, .c, 0, 8, 0, true⟩ 0x1716151413121110,
        .store ⟨.store, .c, 3, 8, 3, false⟩ 0x2726252423222120,
        .load ⟨.load, .a, 1, 8, 1, false⟩].mapM WordStep.run) (.zeros 12) answers after events ∧
      ((List.range 12).map fun p => (after.byte p).toNat) =
        [0x10, 0x11, 0x12, 0x20, 0x21, 0x22, 0x23, 0x24, 0x25, 0x26, 0x27, 0] ∧
      ∃ word, answers[2]? = some (some word) ∧ word.toNat = 0x2524232221201211 := by
  have hallowed : ∀ step ∈ ([.store ⟨.store, .c, 0, 8, 0, true⟩ 0x1716151413121110,
      .store ⟨.store, .c, 3, 8, 3, false⟩ 0x2726252423222120,
      .load ⟨.load, .a, 1, 8, 1, false⟩] : List WordStep), step.Allowed (.zeros 12) := by
    simp only [List.forall_mem_cons, List.not_mem_nil, false_imp_iff, implies_true, and_true]
    exact ⟨⟨by decide, fun _ => ⟨0, rfl⟩⟩, ⟨by decide, fun h => absurd h Bool.false_ne_true⟩,
      ⟨by decide, fun h => absurd h Bool.false_ne_true⟩⟩
  obtain ⟨⟨answers, after, hruns, hrecalls, -⟩, -⟩ := recent_stores _ _ hallowed
  obtain ⟨word, hanswer, hword⟩ := hrecalls.load [_, _] _ [] rfl
  refine ⟨answers, after, _, hruns, ?_, word, hanswer, hword.trans (by decide +kernel)⟩
  simp only [hrecalls.byte]
  decide +kernel

end LaneKernels
