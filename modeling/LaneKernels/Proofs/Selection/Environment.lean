import Mathlib.Tactic
import LaneKernels.Proofs.Selection.Grammar
import LaneKernels.Text.Lossy

/-!
The selection of tiers in an environment variable, whose value is any sequence of bytes.

* Bytes are read as the text that they encode, if they encode any (`Text.fromUTF8?_eq_some_iff`).
* `AsksForAll` holds of the values that stand for all tiers: none at all, and the texts that are blank,
  the word for all tiers, or a list of all of them. Bytes that encode no text are `Unread`.
* `ofEnvironment_outcome`: all tiers are selected by the values that ask for them, and by unread bytes,
  which so have the effect of no value. A text that lists anything else than tiers is rejected.
-/

namespace LaneKernels.TierSet

open Text

/-! ### Bytes and texts -/

lemma ofEnvironment_toUTF8 (text : String) : ofEnvironment (some text.toUTF8) = parse text := by
  rw [ofEnvironment, Option.bind_some, fromUTF8?_eq_some_iff.mpr rfl]

/-- The variable is set, and its bytes encode no text. -/
def Unread (value : Option ByteArray) : Prop :=
  ∃ bytes ∈ value, ∀ text : String, text.toUTF8 ≠ bytes

lemma Unread.ofEnvironment_eq {value : Option ByteArray} (h : Unread value) :
    ofEnvironment value = .ok full := by
  obtain ⟨bytes, rfl, hbytes⟩ := h
  have hnone : String.fromUTF8? bytes = none :=
    Option.eq_none_iff_forall_ne_some.mpr fun text htext => hbytes text (fromUTF8?_eq_some_iff.mp htext)
  rw [ofEnvironment, Option.bind_some, hnone]

/-- A variable is unset, has a text, or is unread. -/
lemma unset_or_text_or_unread (value : Option ByteArray) :
    value = none ∨ (∃ text : String, value = some text.toUTF8) ∨ Unread value := by
  cases value with
  | none => exact .inl rfl
  | some bytes =>
      by_cases h : ∃ text : String, text.toUTF8 = bytes
      · obtain ⟨text, rfl⟩ := h
        exact .inr (.inl ⟨text, rfl⟩)
      · exact .inr (.inr ⟨bytes, rfl, not_exists.mp h⟩)

/-! ### Asking for all tiers -/

/-- The text is blank, the word for all tiers, or a list that names all of them and nothing else. -/
def MeansAll (text : List Char) : Prop :=
  Padded [] text ∨ Padded "all".toList text ∨ IsList text ∧
    ∃ items, Lists text items ∧ AreNames items ∧ ∀ tier : Tier, tier.name ∈ items

/-- The variable is unset, or its text means all tiers. -/
def AsksForAll (value : Option ByteArray) : Prop :=
  value = none ∨ ∃ text : String, value = some text.toUTF8 ∧ MeansAll text.toList

lemma selects_full_iff {text : List Char} : Selects text full ↔ MeansAll text := by
  constructor
  · intro h
    generalize hset : full = set at h
    cases h with
    | blank h => exact .inl h
    | all h => exact .inr (.inl h)
    | none h => exact absurd (congrArg (·.contains .mmx) hset) (by decide)
    | list hlist hitems hnames hmem =>
        subst hset
        exact .inr (.inr ⟨hlist, _, hitems, hnames, fun tier => (hmem tier).mp rfl⟩)
  · rintro (h | h | ⟨hlist, items, hitems, hnames, hall⟩)
    · exact .blank h
    · exact .all h
    · exact .list hlist hitems hnames fun tier => iff_of_true rfl (hall tier)

/-- A list with an item that is no tier is rejected. -/
lemma exists_rejects {text : String} {items : List String} (hlist : IsList text.toList)
    (hitems : Lists text.toList items) {item : String} (hitem : item ∈ items)
    (hname : ∀ tier : Tier, tier.name ≠ item) : ∃ name, Rejects text.toList name := by
  cases h : parse text with
  | error fault =>
      obtain ⟨name, hrejects, -⟩ := parse_eq_error_iff.mp h
      exact ⟨name, hrejects⟩
  | ok set =>
      -- a list that is accepted has only names of tiers for items
      rw [parse_of_isList hlist, foldlM_eq_ok_iff, ← lists_iff.mp hitems] at h
      obtain ⟨tier, htier⟩ := h.1 item hitem
      exact absurd htier (hname tier)

/-- All tiers are selected if the variable asks for them, and also if its bytes encode no text, which are
passed over as if the variable were unset. Of a text that is a list, the first item that is no tier is
reported, so a list with such an item selects nothing. -/
theorem ofEnvironment_outcome (value : Option ByteArray) :
    (ofEnvironment value = .ok full ↔ AsksForAll value ∨ Unread value) ∧
      (Unread value → ofEnvironment value = ofEnvironment none) ∧
      (∀ fault, ofEnvironment value = .error fault ↔ ∃ (text : String) (name : String),
        value = some text.toUTF8 ∧ Rejects text.toList name ∧ fault = .unknownTier name) ∧
      ∀ (text : String) items, value = some text.toUTF8 → IsList text.toList →
        Lists text.toList items → (∃ item ∈ items, ∀ tier : Tier, tier.name ≠ item) →
        ∃ name, Rejects text.toList name ∧ ofEnvironment value = .error (.unknownTier name) := by
  refine ⟨⟨fun h => ?_, ?_⟩, fun h => h.ofEnvironment_eq, fun fault => ⟨fun h => ?_, ?_⟩, ?_⟩
  · obtain rfl | ⟨text, rfl⟩ | hunread := unset_or_text_or_unread value
    · exact .inl (.inl rfl)
    · rw [ofEnvironment_toUTF8, parse_eq_ok_iff, selects_full_iff] at h
      exact .inl (.inr ⟨text, rfl, h⟩)
    · exact .inr hunread
  · rintro ((rfl | ⟨text, rfl, hall⟩) | hunread)
    · rfl
    · rw [ofEnvironment_toUTF8, parse_eq_ok_iff, selects_full_iff]
      exact hall
    · exact hunread.ofEnvironment_eq
  · obtain rfl | ⟨text, rfl⟩ | hunread := unset_or_text_or_unread value
    · cases h
    · rw [ofEnvironment_toUTF8, parse_eq_error_iff] at h
      obtain ⟨name, hname⟩ := h
      exact ⟨text, name, rfl, hname⟩
    · rw [hunread.ofEnvironment_eq] at h
      cases h
  · rintro ⟨text, name, rfl, hname⟩
    rw [ofEnvironment_toUTF8, parse_eq_error_iff]
    exact ⟨name, hname⟩
  · rintro text items rfl hlist hitems ⟨item, hitem, hname⟩
    obtain ⟨name, hrejects⟩ := exists_rejects hlist hitems hitem hname
    refine ⟨name, hrejects, ?_⟩
    rw [ofEnvironment_toUTF8, parse_eq_error_iff]
    exact ⟨name, hrejects, rfl⟩

/-- The name of a tier, a comma, and a byte that belongs to no character. -/
def strayByte : ByteArray :=
  ⟨#[0x73, 0x73, 0x65, 0x32, 0x2c, 0xff]⟩

/-- Bytes that ask for one tier and hold something that is no tier select all of them. -/
theorem exists_full_not_asksForAll :
    ofEnvironment (some strayByte) = .ok full ∧ ¬AsksForAll (some strayByte) := by
  refine ⟨rfl, ?_⟩
  rintro (hunset | ⟨text, htext, -⟩)
  · cases hunset
  · have hnone : String.fromUTF8? strayByte = none := by rfl
    rw [fromUTF8?_eq_some_iff.mpr (Option.some.inj htext).symm] at hnone
    cases hnone

end LaneKernels.TierSet
