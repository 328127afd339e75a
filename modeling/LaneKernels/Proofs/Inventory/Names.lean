import Mathlib.Data.List.TakeWhile
import Mathlib.Tactic
import LaneKernels.Proofs.Inventory.Reading

/-!
The names of the generated functions.

* `IsName`: a text of letters, digits and underscores. All names are such texts, so reading stops at
  their end (`nameAt_append`).
* `suffixed` is the first part of a kernel's name with something behind a further underscore, or with
  nothing. No part has an underscore in it, so a name has the parts of no other one (`suffixed_inj`).
-/

namespace LaneKernels

open Inventory

/-- A text of letters, digits and underscores. -/
def IsName (text : String) : Prop :=
  ∀ c ∈ text.toList, isNameChar c = true

namespace IsName

lemma append {left right : String} (hleft : IsName left) (hright : IsName right) :
    IsName (left ++ right) := by
  rw [IsName, String.toList_append, List.forall_mem_append]
  exact ⟨hleft, hright⟩

/-- A name that is given by its characters. -/
lemma ofChars (chars : List Char) (h : chars.all isNameChar = true) : IsName (String.ofList chars) := by
  rw [IsName, String.toList_ofList]
  exact List.all_eq_true.mp h

end IsName

lemma takeWhile_append_name {name : String} (h : IsName name) {c : Char} (hc : isNameChar c = false)
    (rest : List Char) : (name.toList ++ c :: rest).takeWhile isNameChar = name.toList := by
  rw [List.takeWhile_append_of_pos h, List.takeWhile_cons_of_neg (by simp [hc]), List.append_nil]

/-- A name is read up to the first other character. -/
lemma nameAt_append {name : String} (h : IsName name) {c : Char} (hc : isNameChar c = false)
    (rest : List Char) : nameAt (name.toList ++ c :: rest) = name := by
  rw [nameAt, takeWhile_append_name h hc, String.ofList_toList]

/-- A name that ends the text is read to its end. -/
lemma nameAt_toList {name : String} (h : IsName name) : nameAt name.toList = name := by
  rw [nameAt, List.takeWhile_eq_self_iff.mpr h, String.ofList_toList]

lemma dropWhile_append_name {name : String} (h : IsName name) {c : Char} (hc : isNameChar c = false)
    (rest : List Char) : (name.toList ++ c :: rest).dropWhile isNameChar = c :: rest := by
  rw [List.dropWhile_append_of_pos h, List.dropWhile_cons_of_neg (by simp [hc])]

/-! ### The parts of names -/

lemma ArithOp.isName_name (op : ArithOp) : IsName op.name := by
  cases op <;> exact .ofChars _ rfl

lemma ArithOp.isName_traitName (op : ArithOp) : IsName op.traitName := by
  cases op <;> exact .ofChars _ rfl

lemma ArithOp.isName_macroName (op : ArithOp) : IsName op.macroName := by
  cases op <;> exact .ofChars _ rfl

lemma ArithOp.isName_wrappingMethod (op : ArithOp) : IsName op.wrappingMethod := by
  cases op <;> exact .ofChars _ rfl

lemma ElementType.isName_shortName (type : ElementType) : IsName type.shortName := by
  cases type <;> exact .ofChars _ rfl

lemma Tier.isName_name (tier : Tier) : IsName tier.name := by
  cases tier <;> exact .ofChars _ rfl

lemma Tier.isName_enumName (tier : Tier) : IsName tier.enumName := by
  cases tier <;> exact .ofChars _ rfl

lemma Tier.isName_buildGuard (tier : Tier) : IsName tier.buildGuard := by
  cases tier <;> exact .ofChars _ rfl

/-- The digits of a number are characters of names. -/
lemma isName_repr (n : ℕ) : IsName n.repr := by
  intro c hc
  have hdigit : c.isDigit = true :=
    Nat.isDigit_of_mem_toDigits (by decide) (by decide) (String.toList_ofList ▸ hc)
  rw [isNameChar, Char.isAlphanum, hdigit, Bool.or_true, Bool.true_or]

lemma isName_kernelName (op : ArithOp) (type : ElementType) : IsName (kernelName op type) :=
  (op.isName_name.append (.ofChars ['_'] rfl)).append type.isName_shortName

lemma isName_defaultName (op : ArithOp) (type : ElementType) : IsName (defaultName op type) :=
  (isName_kernelName op type).append (.ofChars "_default".toList rfl)

lemma isName_variantsName (op : ArithOp) (type : ElementType) : IsName (variantsName op type) :=
  (isName_kernelName op type).append (.ofChars "_variants".toList rfl)

lemma isName_arrayName (op : ArithOp) (type : ElementType) : IsName (arrayName op type) :=
  (isName_kernelName op type).append (.ofChars "_array".toList rfl)

lemma isName_routineName (op : ArithOp) (type : ElementType) (tier : Tier) :
    IsName (routineName op type tier) :=
  ((isName_kernelName op type).append (.ofChars ['_'] rfl)).append tier.isName_name

/-! ### Names are told apart -/

/-- The first part of the names for an operation on a type, and a last part if there is one. -/
def suffixed (op : ArithOp) (type : ElementType) : Option String → String
  | none => kernelName op type
  | some suffix => kernelName op type ++ "_" ++ suffix

lemma pieces_suffixed (op : ArithOp) (type : ElementType) {suffix : Option String}
    (h : ∀ text ∈ suffix, '_' ∉ text.toList) :
    Text.pieces '_' (suffixed op type suffix).toList =
      op.name.toList :: type.shortName.toList :: suffix.toList.map String.toList := by
  have hop : '_' ∉ op.name.toList := by cases op <;> decide
  have htype : '_' ∉ type.shortName.toList := by cases type <;> decide
  have hkernel : (kernelName op type).toList = op.name.toList ++ '_' :: type.shortName.toList := by
    rw [show kernelName op type = op.name ++ "_" ++ type.shortName from rfl, String.toList_append,
      String.toList_append, List.append_assoc]
    rfl
  cases suffix with
  | none =>
      rw [suffixed, hkernel, pieces_append_cons hop, Text.pieces_of_not_mem htype]
      rfl
  | some text =>
      have hlast : (kernelName op type ++ "_" ++ text).toList =
          op.name.toList ++ '_' :: (type.shortName.toList ++ '_' :: text.toList) := by
        rw [String.toList_append, String.toList_append, hkernel, List.append_assoc, List.append_assoc]
        rfl
      rw [suffixed, hlast, pieces_append_cons hop, pieces_append_cons htype,
        Text.pieces_of_not_mem (h text rfl)]
      rfl

lemma ArithOp.name_injective : Function.Injective ArithOp.name := by
  intro op other h
  revert h
  cases op <;> cases other <;> decide

lemma ElementType.shortName_injective : Function.Injective ElementType.shortName := by
  intro type other h
  revert h
  cases type <;> cases other <;> decide

lemma Tier.name_injective : Function.Injective Tier.name := by
  intro tier other h
  revert h
  cases tier <;> cases other <;> decide

/-- Names with the same letters have the same parts. -/
lemma suffixed_inj {op other : ArithOp} {type type' : ElementType} {suffix suffix' : Option String}
    (h : ∀ text ∈ suffix, '_' ∉ text.toList) (h' : ∀ text ∈ suffix', '_' ∉ text.toList)
    (heq : suffixed op type suffix = suffixed other type' suffix') :
    op = other ∧ type = type' ∧ suffix = suffix' := by
  have hpieces := pieces_suffixed op type h
  rw [heq, pieces_suffixed other type' h'] at hpieces
  simp only [List.cons.injEq, String.toList_inj] at hpieces
  obtain ⟨hop, htype, hsuffix⟩ := hpieces
  refine ⟨(ArithOp.name_injective hop).symm, (ElementType.shortName_injective htype).symm, ?_⟩
  cases suffix <;> cases suffix' <;> simp_all [String.toList_inj]

end LaneKernels
