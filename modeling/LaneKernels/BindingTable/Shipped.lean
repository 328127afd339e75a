import LaneKernels.BindingTable
import LaneKernels.Capabilities.Shipped

/-!
The shipped table of the x86 vector extensions.

Memory callables come in families: a tier has one register type and four callables for a group of
types. Computations are named by operation and lane width. The table has all that the shipped matrix
asks for (`check_shipped`).
-/

namespace LaneKernels.BindingTable

/-- The register type and the memory callables that a group of types shares on one tier. -/
structure MemoryFamily where
  tier : Tier
  types : List ElementType
  register : String
  pointer : PointerForm
  alignedLoad : String
  unalignedLoad : String
  alignedStore : String
  unalignedStore : String

/-- The path of the callable that a family has for a slot. -/
def MemoryFamily.path? (family : MemoryFamily) : Slot → Option String
  | .alignedLoad => some family.alignedLoad
  | .unalignedLoad => some family.unalignedLoad
  | .alignedStore => some family.alignedStore
  | .unalignedStore => some family.unalignedStore
  | .compute _ => none

/-- The shipped families. -/
def shippedFamilies : List MemoryFamily :=
  [⟨.mmx, ElementType.integersUpTo 32, "crate::mm64::Mm64", .element, "crate::mm64::load",
      "crate::mm64::loadu", "crate::mm64::store", "crate::mm64::storeu"⟩,
    ⟨.sse, [.float32], "__m128", .element, "_mm_load_ps", "_mm_loadu_ps", "_mm_store_ps",
      "_mm_storeu_ps"⟩,
    ⟨.sse2, ElementType.integersUpTo 64, "__m128i", .register, "_mm_load_si128", "_mm_loadu_si128",
      "_mm_store_si128", "_mm_storeu_si128"⟩,
    ⟨.sse2, [.float64], "__m128d", .element, "_mm_load_pd", "_mm_loadu_pd", "_mm_store_pd",
      "_mm_storeu_pd"⟩,
    ⟨.avx, [.float32], "__m256", .element, "_mm256_load_ps", "_mm256_loadu_ps", "_mm256_store_ps",
      "_mm256_storeu_ps"⟩,
    ⟨.avx, [.float64], "__m256d", .element, "_mm256_load_pd", "_mm256_loadu_pd", "_mm256_store_pd",
      "_mm256_storeu_pd"⟩,
    ⟨.avx2, ElementType.integersUpTo 64, "__m256i", .register, "_mm256_load_si256", "_mm256_loadu_si256",
      "_mm256_store_si256", "_mm256_storeu_si256"⟩]

/-- The path of the shipped computation for a tier, an operation and a type. -/
def shippedCompute? : Tier → ArithOp → ElementType → Option String
  | .mmx, .add, .int8 | .mmx, .add, .uint8 => some "crate::mm64::add_pi8"
  | .mmx, .add, .int16 | .mmx, .add, .uint16 => some "crate::mm64::add_pi16"
  | .mmx, .add, .int32 | .mmx, .add, .uint32 => some "crate::mm64::add_pi32"
  | .mmx, .sub, .int8 | .mmx, .sub, .uint8 => some "crate::mm64::sub_pi8"
  | .mmx, .sub, .int16 | .mmx, .sub, .uint16 => some "crate::mm64::sub_pi16"
  | .mmx, .sub, .int32 | .mmx, .sub, .uint32 => some "crate::mm64::sub_pi32"
  | .mmx, .mul, .int16 | .mmx, .mul, .uint16 => some "crate::mm64::mullo_pi16"
  | .sse, .add, .float32 => some "_mm_add_ps"
  | .sse, .sub, .float32 => some "_mm_sub_ps"
  | .sse, .mul, .float32 => some "_mm_mul_ps"
  | .sse, .div, .float32 => some "_mm_div_ps"
  | .sse2, .add, .int8 | .sse2, .add, .uint8 => some "_mm_add_epi8"
  | .sse2, .add, .int16 | .sse2, .add, .uint16 => some "_mm_add_epi16"
  | .sse2, .add, .int32 | .sse2, .add, .uint32 => some "_mm_add_epi32"
  | .sse2, .add, .int64 | .sse2, .add, .uint64 => some "_mm_add_epi64"
  | .sse2, .add, .float64 => some "_mm_add_pd"
  | .sse2, .sub, .int8 | .sse2, .sub, .uint8 => some "_mm_sub_epi8"
  | .sse2, .sub, .int16 | .sse2, .sub, .uint16 => some "_mm_sub_epi16"
  | .sse2, .sub, .int32 | .sse2, .sub, .uint32 => some "_mm_sub_epi32"
  | .sse2, .sub, .int64 | .sse2, .sub, .uint64 => some "_mm_sub_epi64"
  | .sse2, .sub, .float64 => some "_mm_sub_pd"
  | .sse2, .mul, .int16 | .sse2, .mul, .uint16 => some "_mm_mullo_epi16"
  | .sse2, .mul, .float64 => some "_mm_mul_pd"
  | .sse2, .div, .float64 => some "_mm_div_pd"
  | .avx, .add, .float32 => some "_mm256_add_ps"
  | .avx, .add, .float64 => some "_mm256_add_pd"
  | .avx, .sub, .float32 => some "_mm256_sub_ps"
  | .avx, .sub, .float64 => some "_mm256_sub_pd"
  | .avx, .mul, .float32 => some "_mm256_mul_ps"
  | .avx, .mul, .float64 => some "_mm256_mul_pd"
  | .avx, .div, .float32 => some "_mm256_div_ps"
  | .avx, .div, .float64 => some "_mm256_div_pd"
  | .avx2, .add, .int8 | .avx2, .add, .uint8 => some "_mm256_add_epi8"
  | .avx2, .add, .int16 | .avx2, .add, .uint16 => some "_mm256_add_epi16"
  | .avx2, .add, .int32 | .avx2, .add, .uint32 => some "_mm256_add_epi32"
  | .avx2, .add, .int64 | .avx2, .add, .uint64 => some "_mm256_add_epi64"
  | .avx2, .sub, .int8 | .avx2, .sub, .uint8 => some "_mm256_sub_epi8"
  | .avx2, .sub, .int16 | .avx2, .sub, .uint16 => some "_mm256_sub_epi16"
  | .avx2, .sub, .int32 | .avx2, .sub, .uint32 => some "_mm256_sub_epi32"
  | .avx2, .sub, .int64 | .avx2, .sub, .uint64 => some "_mm256_sub_epi64"
  | .avx2, .mul, .int16 | .avx2, .mul, .uint16 => some "_mm256_mullo_epi16"
  | .avx2, .mul, .int32 | .avx2, .mul, .uint32 => some "_mm256_mullo_epi32"
  | _, _, _ => none

/-- The family of a tier for a type. -/
def family? (tier : Tier) (type : ElementType) : Option MemoryFamily :=
  shippedFamilies.find? fun family => family.tier = tier && family.types.contains type

/-- The shipped table. -/
def shipped : BindingTable where
  binding? tier slot type :=
    match slot with
    | .compute op => (shippedCompute? tier op type).map Binding.ofPath
    | slot => do
      let family ← family? tier type
      let path ← family.path? slot
      return ⟨path, family.pointer⟩
  register? tier type := (family? tier type).map (·.register)

theorem check_shipped : shipped.check Capabilities.shipped = .ok () := by
  have h : (shipped.check Capabilities.shipped).toBool = true := by decide +kernel
  revert h
  cases shipped.check Capabilities.shipped with
  | ok => exact fun _ => rfl
  | error => exact fun h => by contradiction

end LaneKernels.BindingTable
