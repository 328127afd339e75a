import LaneKernels.ElementType

/-!
The five instruction-set tiers.

* A tier is a register width (`registerBytes`) with the names that gate its code (a build symbol, a target
  feature and a detection name) and the architectures that have it.
* `all` lists the tiers narrowest first (`mem_all`), and `index` orders them (`LT Tier`). No tier
  implies another: the order only fixes what comes first and which variant is preferred.
* `lanes` is the number of elements that fill one register, `0` when one element is wider
  (`lanes_pos_iff`), and `lanes_mul_bytes` says that the lanes of a type that fits fill the register.
-/

namespace LaneKernels

/-- The instruction-set levels, narrowest first. -/
inductive Tier where
  | mmx
  | sse
  | sse2
  | avx
  | avx2
  deriving DecidableEq, Repr

namespace Tier

/-- Every tier, narrowest first. -/
def all : List Tier :=
  [mmx, sse, sse2, avx, avx2]

@[simp] theorem mem_all (tier : Tier) : tier ∈ all := by
  cases tier <;> decide

/-- The place of a tier in declaration order. -/
def index (tier : Tier) : Nat :=
  all.idxOf tier

instance : LT Tier where
  lt s t := s.index < t.index

instance (s t : Tier) : Decidable (s < t) :=
  inferInstanceAs (Decidable (s.index < t.index))

/-- The name, which is also the last part of an accelerated kernel's name. -/
def name : Tier → String
  | mmx => "mmx"
  | sse => "sse"
  | sse2 => "sse2"
  | avx => "avx"
  | avx2 => "avx2"

/-- The tier of a name; names are matched exactly. -/
def named? (name : String) : Option Tier :=
  all.find? (·.name = name)

/-- The name of the tier in the generated enumeration. -/
def enumName : Tier → String
  | mmx => "Mmx"
  | sse => "Sse"
  | sse2 => "Sse2"
  | avx => "Avx"
  | avx2 => "Avx2"

/-- The build symbol that is defined when the tier is compiled in. -/
def buildGuard : Tier → String
  | mmx => "lanewise_mmx"
  | sse => "lanewise_sse"
  | sse2 => "lanewise_sse2"
  | avx => "lanewise_avx"
  | avx2 => "lanewise_avx2"

/-- The target feature that the tier's kernels enable, if they need one. -/
def targetFeature? : Tier → Option String
  | mmx => none
  | sse => some "sse"
  | sse2 => some "sse2"
  | avx => some "avx"
  | avx2 => some "avx2"

/-- The feature that is probed on the running machine; without one the tier is always there. -/
def detection? : Tier → Option String
  | mmx => none
  | sse => some "sse"
  | sse2 => some "sse2"
  | avx => some "avx"
  | avx2 => some "avx2"

/-- Bytes of one register. -/
def registerBytes : Tier → Nat
  | mmx => 8
  | sse | sse2 => 16
  | avx | avx2 => 32

/-- Bits of one register. -/
def registerBits (tier : Tier) : Nat :=
  8 * tier.registerBytes

/-- The byte alignment that aligned loads and stores ask for: the whole register. -/
def alignment (tier : Tier) : Nat :=
  tier.registerBytes

theorem alignment_pos (tier : Tier) : 0 < tier.alignment := by
  cases tier <;> decide

/-- The architectures that have the tier. -/
def arches : Tier → List String
  | _ => ["x86", "x86_64"]

/-- Whether an architecture has the tier. -/
def isOnArch (tier : Tier) (arch : String) : Bool :=
  tier.arches.contains arch

/-- The statement that releases the register file after the last element, where one is due. -/
def release? : Tier → Option String
  | mmx => some "crate::mm64::empty()"
  | _ => none

/-- Elements of a type in one register, which is also how far one step of the main loop goes. -/
def lanes (tier : Tier) (type : ElementType) : Nat :=
  tier.registerBits / type.bits

theorem lanes_eq (tier : Tier) (type : ElementType) :
    tier.lanes type = tier.registerBytes / type.bytes := by
  cases tier <;> cases type <;> decide

theorem lanes_pos_iff {tier : Tier} {type : ElementType} :
    0 < tier.lanes type ↔ type.bits ≤ tier.registerBits := by
  rw [lanes, Nat.div_pos_iff]
  exact ⟨fun h => h.2, fun h => ⟨type.bits_pos, h⟩⟩

/-- The lanes of a type that fits fill the register exactly. -/
theorem lanes_mul_bytes {tier : Tier} {type : ElementType} (h : 0 < tier.lanes type) :
    tier.lanes type * type.bytes = tier.registerBytes := by
  revert h
  cases tier <;> cases type <;> decide

end Tier

end LaneKernels
