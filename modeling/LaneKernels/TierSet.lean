import LaneKernels.Tier

/-!
Sets of tiers: the tiers for which accelerated kernels are wanted.

* A set is its membership test, so two sets with the same tiers are equal (`ext`), and equality is
  decided tier by tier.
* `toList` lists the tiers narrowest first; `ofList` is its inverse on the left (`ofList_toList`).
* `display` joins the names with commas and writes `none` for the empty set.
-/

namespace LaneKernels

/-- A set of tiers. -/
@[ext] structure TierSet where
  /-- Whether a tier is in the set. -/
  contains : Tier → Bool

namespace TierSet

instance : DecidableEq TierSet := fun s t =>
  decidable_of_iff (∀ tier ∈ Tier.all, s.contains tier = t.contains tier)
    ⟨fun h => TierSet.ext (funext fun tier => h tier (Tier.mem_all tier)),
      fun h tier _ => by rw [h]⟩

/-- The set without tiers. -/
def empty : TierSet :=
  ⟨fun _ => false⟩

/-- The set of all tiers. -/
def full : TierSet :=
  ⟨fun _ => true⟩

/-- The set with one tier put in. -/
def insert (set : TierSet) (tier : Tier) : TierSet :=
  ⟨fun t => t = tier || set.contains t⟩

/-- The set with one tier taken out. -/
def erase (set : TierSet) (tier : Tier) : TierSet :=
  ⟨fun t => t ≠ tier && set.contains t⟩

@[simp] theorem contains_empty (tier : Tier) : empty.contains tier = false := rfl

@[simp] theorem contains_full (tier : Tier) : full.contains tier = true := rfl

@[simp] theorem contains_insert (set : TierSet) (tier t : Tier) :
    (set.insert tier).contains t = (t = tier || set.contains t) := rfl

@[simp] theorem contains_erase (set : TierSet) (tier t : Tier) :
    (set.erase tier).contains t = (t ≠ tier && set.contains t) := rfl

/-- The tiers of the set, narrowest first. -/
def toList (set : TierSet) : List Tier :=
  Tier.all.filter set.contains

@[simp] theorem mem_toList {set : TierSet} {tier : Tier} :
    tier ∈ set.toList ↔ set.contains tier = true := by
  simp [toList]

/-- The set of the tiers in a list. -/
def ofList (tiers : List Tier) : TierSet :=
  tiers.foldl insert empty

theorem contains_foldl_insert (tiers : List Tier) (set : TierSet) (tier : Tier) :
    (tiers.foldl insert set).contains tier = (tiers.contains tier || set.contains tier) := by
  induction tiers generalizing set with
  | nil => simp
  | cons t rest ih =>
    rw [List.foldl_cons, ih, contains_insert, List.contains_cons, Bool.beq_eq_decide_eq,
      Bool.or_left_comm, Bool.or_assoc]

@[simp] theorem contains_ofList (tiers : List Tier) (tier : Tier) :
    (ofList tiers).contains tier = tiers.contains tier := by
  rw [ofList, contains_foldl_insert, contains_empty, Bool.or_false]

@[simp] theorem ofList_toList (set : TierSet) : ofList set.toList = set := by
  ext tier
  rw [Bool.eq_iff_iff]
  simp

/-- Whether the set has no tiers. -/
def isEmpty (set : TierSet) : Bool :=
  set.toList.isEmpty

/-- The tiers of the set that exist on an architecture. -/
def restrictTo (set : TierSet) (arch : String) : TierSet :=
  ofList (set.toList.filter (·.isOnArch arch))

@[simp] theorem contains_restrictTo (set : TierSet) (arch : String) (tier : Tier) :
    (set.restrictTo arch).contains tier = (set.contains tier && tier.isOnArch arch) := by
  rw [Bool.eq_iff_iff]
  simp [restrictTo]

/-- The names with commas between them, or `none`. -/
def display (set : TierSet) : String :=
  if set.isEmpty then "none" else ",".intercalate (set.toList.map Tier.name)

end TierSet

end LaneKernels
