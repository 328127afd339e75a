import Mathlib.Data.List.DropRight
import Mathlib.Tactic
import LaneKernels.Proofs.Inventory.Names
import LaneKernels.TierSet.Setting

/-!
The grammar of the text that selects tiers.

* `Text.Padded` is a core with blanks around it, and `Text.trim` finds the core (`trim_eq_iff`). The pieces
  of a text are the only texts without separators that give the text when they are joined
  (`pieces_eq_iff`).
* `TierSet.Lists` says which items a text lists: what stands between its commas, without the blanks
  around it, as far as anything is left.
* `TierSet.Selects` is the grammar, and `TierSet.Rejects` names the first item of a list that is no tier.
* `parse_grammar`: reading accepts exactly the grammar and rejects exactly that item. Texts with the
  same items select the same tiers, and every set is selected by its own display.
-/

namespace LaneKernels

namespace Text

/-! ### Blanks around a text -/

/-- The text is the core with blanks around it, and the core has none at its ends. -/
structure Padded (core text : List Char) : Prop where
  around : ∃ left right, text = left ++ core ++ right ∧ (∀ c ∈ left, isBlank c = true) ∧
    ∀ c ∈ right, isBlank c = true
  head : ∀ c, core.head? = some c → isBlank c = false
  last : ∀ c, core.getLast? = some c → isBlank c = false

/-- A text with other characters at its ends is its own core. -/
lemma padded_self {core : List Char} (hhead : core.head?.all (!isBlank ·) = true)
    (hlast : core.getLast?.all (!isBlank ·) = true) : Padded core core where
  around := ⟨[], [], by simp, by simp, by simp⟩
  head c hc := by
    rw [hc, Option.all_some] at hhead
    simpa using hhead
  last c hc := by
    rw [hc, Option.all_some] at hlast
    simpa using hlast

lemma padded_trim (text : List Char) : Padded (trim text) text where
  around := by
    have hleft : text = text.takeWhile isBlank ++ trimLeft text := List.takeWhile_append_dropWhile.symm
    have hright : trimLeft text = trim text ++ (trimLeft text).rtakeWhile isBlank :=
      List.rdropWhile_append_rtakeWhile.symm
    refine ⟨text.takeWhile isBlank, (trimLeft text).rtakeWhile isBlank, ?_, ?_, ?_⟩
    · rw [List.append_assoc, ← hright]
      exact hleft
    · exact fun c => List.mem_takeWhile_imp
    · exact fun c => List.mem_rtakeWhile_imp
  head _ := head?_trim
  last _ := getLast?_trim

lemma trimLeft_append {left rest : List Char} (hleft : ∀ c ∈ left, isBlank c = true)
    (hrest : ∀ c, rest.head? = some c → isBlank c = false) : trimLeft (left ++ rest) = rest := by
  rw [trimLeft, List.dropWhile_append_of_pos hleft]
  cases rest with
  | nil => rfl
  | cons c rest => exact List.dropWhile_cons_of_neg (by simp [hrest c rfl])

lemma Padded.trim_eq {core text : List Char} (h : Padded core text) : trim text = core := by
  obtain ⟨left, right, rfl, hleft, hright⟩ := h.around
  cases core with
  | nil =>
      have hblank : trimLeft (left ++ [] ++ right) = [] := by
        rw [trimLeft, List.dropWhile_eq_nil_iff, List.append_nil, List.forall_mem_append]
        exact ⟨hleft, hright⟩
      rw [trim, hblank]
      rfl
  | cons c rest =>
      have hfront : trimLeft (left ++ (c :: rest ++ right)) = c :: rest ++ right :=
        trimLeft_append hleft fun d hd => h.head d hd
      rw [trim, List.append_assoc, hfront, trimRight, List.reverse_append, trimLeft_append,
        List.reverse_reverse]
      · exact fun d hd => hright d (List.mem_reverse.mp hd)
      · intro d hd
        rw [List.head?_reverse] at hd
        exact h.last d hd

/-- A character that is not blank is in the core. -/
lemma Padded.mem_core {core text : List Char} (h : Padded core text) {c : Char} (hc : c ∈ text)
    (hblank : isBlank c = false) : c ∈ core := by
  obtain ⟨left, right, rfl, hleft, hright⟩ := h.around
  rw [List.mem_append, List.mem_append] at hc
  obtain (hc | hc) | hc := hc
  · rw [hleft c hc] at hblank
    cases hblank
  · exact hc
  · rw [hright c hc] at hblank
    cases hblank

lemma padded_nil_iff {text : List Char} : Padded [] text ↔ ∀ c ∈ text, isBlank c = true := by
  constructor
  · intro h c hc
    by_contra hblank
    exact List.not_mem_nil (h.mem_core hc (Bool.eq_false_of_not_eq_true hblank))
  · exact fun h => ⟨⟨text, [], by simp, h, by simp⟩, by simp, by simp⟩

/-- Trimming finds the core of a text. -/
lemma trim_eq_iff {core text : List Char} : trim text = core ↔ Padded core text :=
  ⟨fun h => h ▸ padded_trim text, Padded.trim_eq⟩

/-! ### Pieces of a text -/

variable {separator : Char}

/-- A piece is made of characters of the text, none of which is the separator. -/
lemma mem_of_mem_pieces {text piece : List Char} {c : Char} (h : piece ∈ pieces separator text)
    (hc : c ∈ piece) : c ∈ text ∧ c ≠ separator := by
  induction text generalizing piece with
  | nil =>
      rw [List.mem_singleton.mp h] at hc
      cases hc
  | cons d rest ih =>
      have hrest : ∀ piece ∈ pieces separator rest, c ∈ piece → c ∈ d :: rest ∧ c ≠ separator :=
        fun piece hpiece hmem => ⟨List.mem_cons_of_mem _ (ih hpiece hmem).1, (ih hpiece hmem).2⟩
      obtain ⟨first, more, hp⟩ := List.exists_cons_of_ne_nil (pieces_ne_nil separator rest)
      rw [pieces_cons, hp, pushFront] at h
      rw [hp] at hrest
      by_cases hd : d = separator
      · rw [if_pos hd] at h
        obtain rfl | h := List.mem_cons.mp h
        · cases hc
        · exact hrest piece h hc
      · rw [if_neg hd] at h
        obtain rfl | h := List.mem_cons.mp h
        · obtain rfl | hc := List.mem_cons.mp hc
          · exact ⟨List.mem_cons_self, hd⟩
          · exact hrest first List.mem_cons_self hc
        · exact hrest piece (List.mem_cons_of_mem _ h) hc

lemma pieces_intercalate {parts : List (List Char)} (hne : parts ≠ [])
    (h : ∀ part ∈ parts, separator ∉ part) :
    pieces separator ([separator].intercalate parts) = parts := by
  induction parts with
  | nil => exact absurd rfl hne
  | cons part rest ih =>
      rw [List.forall_mem_cons] at h
      cases rest with
      | nil =>
          rw [List.intercalate_singleton]
          exact pieces_of_not_mem h.1
      | cons next rest =>
          rw [List.intercalate_cons_cons, List.append_assoc, List.singleton_append,
            pieces_append_separator, pieces_of_not_mem h.1, ih (List.cons_ne_nil _ _) h.2]
          rfl

/-- The pieces are the parts without separators that give the text when they are joined. -/
lemma pieces_eq_iff {text : List Char} {parts : List (List Char)} :
    pieces separator text = parts ↔
      parts ≠ [] ∧ (∀ part ∈ parts, separator ∉ part) ∧ [separator].intercalate parts = text := by
  constructor
  · rintro rfl
    exact ⟨pieces_ne_nil _ _, fun _ hpart hmem => (mem_of_mem_pieces hpart hmem).2 rfl,
       intercalate_pieces _ _⟩
  · rintro ⟨hne, h, rfl⟩
    exact pieces_intercalate hne h

end Text

open Text (Padded trim pieces isBlank)

/-! ### Names of tiers -/

namespace Tier

lemma named?_eq_some_iff {name : String} {tier : Tier} :
    named? name = some tier ↔ tier.name = name := by
  constructor
  · intro h
    rw [named?] at h
    simpa using List.find?_some h
  · rintro rfl
    cases tier <;> decide

lemma named?_eq_none_iff {name : String} : named? name = none ↔ ∀ tier : Tier, tier.name ≠ name := by
  simp [named?]

lemma padded_name (tier : Tier) : Padded tier.name.toList tier.name.toList := by
  cases tier <;> exact Text.padded_self (by decide) (by decide)

lemma comma_not_mem_name (tier : Tier) : ',' ∉ tier.name.toList := by
  cases tier <;> decide

end Tier

namespace TierSet

/-! ### The grammar -/

/-- The text lists some items: they stand between its commas with blanks around them, and what is only
blanks between two commas is no item. -/
def Lists (text : List Char) (items : List String) : Prop :=
  ∃ parts cores : List (List Char), parts ≠ [] ∧ (∀ part ∈ parts, ',' ∉ part) ∧
    [','].intercalate parts = text ∧ List.Forall₂ Padded cores parts ∧
    items = (cores.filter (!·.isEmpty)).map String.ofList

/-- All items are names of tiers. -/
def AreNames (items : List String) : Prop :=
  ∀ item ∈ items, ∃ tier : Tier, tier.name = item

/-- The text as a whole is neither blank nor a word that stands for all tiers or none. -/
def IsList (text : List Char) : Prop :=
  ∀ word ∈ ["", "all", "none"], ¬Padded word.toList text

/-- The texts that select tiers, with the set that each selects. -/
inductive Selects (text : List Char) : TierSet → Prop
  | blank (h : Padded [] text) : Selects text full
  | all (h : Padded "all".toList text) : Selects text full
  | none (h : Padded "none".toList text) : Selects text empty
  | list {items : List String} {set : TierSet} (h : IsList text) (hitems : Lists text items)
      (hnames : AreNames items) (hset : ∀ tier, set.contains tier = true ↔ tier.name ∈ items) :
      Selects text set

/-- The text is a list in which an item is no tier, and all items before it are. -/
def Rejects (text : List Char) (name : String) : Prop :=
  IsList text ∧ ∃ before after, Lists text (before ++ name :: after) ∧ AreNames before ∧
    ∀ tier : Tier, tier.name ≠ name

/-! ### Reading the items -/

lemma forall₂_padded_iff {cores parts : List (List Char)} :
    List.Forall₂ Padded cores parts ↔ cores = parts.map trim := by
  induction parts generalizing cores with
  | nil => simp
  | cons part rest ih =>
      cases cores with
      | nil => simp
      | cons core cores => simp [ih, ← Text.trim_eq_iff, eq_comm]

/-- The items of a text are the names that are read from it. -/
lemma lists_iff {text : List Char} {items : List String} :
    Lists text items ↔ items = listedNames text := by
  constructor
  · rintro ⟨parts, cores, hne, hparts, htext, hcores, rfl⟩
    rw [listedNames, Text.pieces_eq_iff.mpr ⟨hne, hparts, htext⟩, ← forall₂_padded_iff.mp hcores]
  · rintro rfl
    obtain ⟨hne, hparts, htext⟩ := Text.pieces_eq_iff.mp (rfl : pieces ',' text = _)
    exact ⟨_, _, hne, hparts, htext, forall₂_padded_iff.mpr rfl, rfl⟩

lemma AreNames.cons_iff {name : String} {names : List String} :
    AreNames (name :: names) ↔ (∃ tier : Tier, tier.name = name) ∧ AreNames names :=
  List.forall_mem_cons

lemma foldlM_eq_ok_iff {names : List String} {start set : TierSet} :
    names.foldlM insertNamed start = .ok set ↔ AreNames names ∧
      ∀ tier, set.contains tier = true ↔ start.contains tier = true ∨ tier.name ∈ names := by
  induction names generalizing start with
  | nil =>
      have hsame : start = set ↔ ∀ tier, set.contains tier = true ↔ start.contains tier = true :=
        ⟨fun h tier => h ▸ Iff.rfl, fun h => TierSet.ext (funext fun tier =>
          (Bool.eq_iff_iff.mpr (h tier)).symm)⟩
      simp [AreNames, pure, Except.pure, hsame]
  | cons name names ih =>
      rw [List.foldlM_cons, insertNamed, AreNames.cons_iff]
      cases h : Tier.named? name with
      | none =>
          refine iff_of_false (fun hok => by cases hok) ?_
          rintro ⟨⟨⟨tier, htier⟩, -⟩, -⟩
          exact Tier.named?_eq_none_iff.mp h tier htier
      | some tier =>
          obtain rfl := Tier.named?_eq_some_iff.mp h
          have hstep : ((.ok (start.insert tier) >>= fun next => names.foldlM insertNamed next) =
            .ok set) ↔ _ := ih
          have hmem : ∀ t : Tier, ((start.insert tier).contains t = true ∨ t.name ∈ names) ↔
              (start.contains t = true ∨ t.name ∈ tier.name :: names) := by
            intro t
            rw [contains_insert, List.mem_cons, Tier.name_injective.eq_iff, Bool.or_eq_true,
              decide_eq_true_eq, or_assoc, or_left_comm]
          rw [hstep]
          simp only [hmem, exists_apply_eq_apply, true_and]

lemma foldlM_eq_error_iff {names : List String} {start : TierSet} {fault : Fault} :
    names.foldlM insertNamed start = .error fault ↔ ∃ before name after,
      names = before ++ name :: after ∧ AreNames before ∧ (∀ tier : Tier, tier.name ≠ name) ∧
      fault = .unknownTier name := by
  induction names generalizing start with
  | nil => simp [pure, Except.pure]
  | cons name names ih =>
      rw [List.foldlM_cons, insertNamed]
      cases h : Tier.named? name with
      | none =>
          have hname := Tier.named?_eq_none_iff.mp h
          constructor
          · rintro ⟨⟩
            exact ⟨[], name, names, rfl, by simp [AreNames], hname, rfl⟩
          · rintro ⟨before, other, after, hitems, hbefore, -, rfl⟩
            cases before with
            | nil =>
                rw [(List.cons.inj hitems).1]
                rfl
            | cons first before =>
                obtain ⟨tier, htier⟩ := (AreNames.cons_iff.mp hbefore).1
                exact absurd (htier.trans (List.cons.inj hitems).1.symm) (hname tier)
      | some tier =>
          have hstep : ((.ok (start.insert tier) >>= fun next => names.foldlM insertNamed next) =
            .error fault) ↔ _ := ih
          obtain rfl := Tier.named?_eq_some_iff.mp h
          rw [hstep]
          constructor
          · rintro ⟨before, other, after, rfl, hbefore, hother⟩
            exact ⟨tier.name :: before, other, after, rfl, AreNames.cons_iff.mpr ⟨⟨tier, rfl⟩, hbefore⟩,
              hother⟩
          · rintro ⟨before, other, after, hitems, hbefore, hother, hfault⟩
            cases before with
            | nil => exact absurd (List.cons.inj hitems).1 (hother tier)
            | cons first before =>
                exact ⟨before, other, after, (List.cons.inj hitems).2, (AreNames.cons_iff.mp hbefore).2,
                  hother, hfault⟩

/-! ### Reading a text -/

lemma parse_of_blank {text : String} (h : Padded [] text.toList) : parse text = .ok full := by
  rw [parse, h.trim_eq]
  rfl

lemma parse_of_all {text : String} (h : Padded "all".toList text.toList) : parse text = .ok full := by
  rw [parse, h.trim_eq, String.ofList_toList]
  rfl

lemma parse_of_none {text : String} (h : Padded "none".toList text.toList) :
    parse text = .ok empty := by
  rw [parse, h.trim_eq, String.ofList_toList]
  rfl

lemma parse_of_isList {text : String} (h : IsList text.toList) :
    parse text = (listedNames text.toList).foldlM insertNamed empty := by
  have hword : ∀ word ∈ ["", "all", "none"], String.ofList (trim text.toList) ≠ word := by
    rintro word hword rfl
    refine h _ hword ?_
    rw [String.toList_ofList]
    exact Text.padded_trim _
  rw [parse]
  split
  · next heq => exact absurd heq (hword _ (by simp))
  · next heq => exact absurd heq (hword _ (by simp))
  · next heq => exact absurd heq (hword _ (by simp))
  · rfl

/-- A text is a list, blank, or one of the two words. -/
lemma isList_or (text : List Char) : IsList text ∨ Padded [] text ∨ Padded "all".toList text ∨
    Padded "none".toList text := by
  by_contra hnone
  simp only [not_or] at hnone
  obtain ⟨hlist, hblank, hall, hempty⟩ := hnone
  refine hlist ?_
  simp only [IsList, List.forall_mem_cons]
  exact ⟨hblank, hall, hempty, fun _ hword => absurd hword List.not_mem_nil⟩

/-- Reading accepts exactly the grammar. -/
lemma parse_eq_ok_iff {text : String} {set : TierSet} :
    parse text = .ok set ↔ Selects text.toList set := by
  constructor
  · intro h
    obtain hlist | hword | hword | hword := isList_or text.toList
    · rw [parse_of_isList hlist, foldlM_eq_ok_iff] at h
      refine .list hlist (lists_iff.mpr rfl) h.1 fun tier => ?_
      rw [h.2, contains_empty, Bool.false_eq_true, false_or]
    · rw [parse_of_blank hword] at h
      exact Except.ok.inj h ▸ .blank hword
    · rw [parse_of_all hword] at h
      exact Except.ok.inj h ▸ .all hword
    · rw [parse_of_none hword] at h
      exact Except.ok.inj h ▸ .none hword
  · rintro (hword | hword | hword | ⟨hlist, hitems, hnames, hset⟩)
    · exact parse_of_blank hword
    · exact parse_of_all hword
    · exact parse_of_none hword
    · rw [parse_of_isList hlist, foldlM_eq_ok_iff, ← lists_iff.mp hitems]
      simpa using ⟨hnames, hset⟩

/-- Reading fails exactly at the first item that is no tier. -/
lemma parse_eq_error_iff {text : String} {fault : Fault} :
    parse text = .error fault ↔ ∃ name, Rejects text.toList name ∧ fault = .unknownTier name := by
  constructor
  · intro h
    obtain hlist | hword | hword | hword := isList_or text.toList
    · rw [parse_of_isList hlist, foldlM_eq_error_iff] at h
      obtain ⟨before, name, after, hitems, hbefore, hname, hfault⟩ := h
      exact ⟨name, ⟨hlist, before, after, lists_iff.mpr hitems.symm, hbefore, hname⟩, hfault⟩
    · rw [parse_of_blank hword] at h
      cases h
    · rw [parse_of_all hword] at h
      cases h
    · rw [parse_of_none hword] at h
      cases h
  · rintro ⟨name, ⟨hlist, before, after, hitems, hbefore, hname⟩, rfl⟩
    rw [parse_of_isList hlist, foldlM_eq_error_iff, ← lists_iff.mp hitems]
    exact ⟨before, name, after, rfl, hbefore, hname, rfl⟩

/-! ### Lists of nothing, of one word, and of the tiers of a set -/

lemma isBlank_comma : isBlank ',' = false := by
  decide

lemma comma_not_mem_word {word : String} (h : word ∈ ["", "all", "none"]) : ',' ∉ word.toList := by
  revert word
  decide

/-- A text of commas and blanks with a comma is a list without items. -/
lemma selects_commas {text : List Char} (h : ∀ c ∈ text, c = ',' ∨ isBlank c = true)
    (hcomma : ',' ∈ text) : Selects text empty := by
  have hlist : IsList text := by
    intro word hword hpadded
    exact comma_not_mem_word hword (hpadded.mem_core hcomma isBlank_comma)
  have hitems : listedNames text = [] := by
    rw [listedNames, List.map_eq_nil_iff, List.filter_eq_nil_iff, List.forall_mem_map]
    intro piece hpiece
    have hblank : Padded [] piece := Text.padded_nil_iff.mpr fun c hc =>
      (h c (Text.mem_of_mem_pieces hpiece hc).1).resolve_left (Text.mem_of_mem_pieces hpiece hc).2
    simp [hblank.trim_eq]
  exact .list hlist (lists_iff.mpr rfl) (by simp [AreNames, hitems]) (by simp [hitems])

/-- A text that is one word is a list of this word, if it is anything. -/
lemma lists_of_padded {core text : List Char} (h : Padded core text) (hcomma : ',' ∉ core) :
    Lists text (if core.isEmpty then [] else [String.ofList core]) := by
  refine ⟨[text], [core], by simp, ?_, List.intercalate_singleton, by simp [h], ?_⟩
  · rw [List.forall_mem_singleton]
    exact fun hmem => hcomma (h.mem_core hmem isBlank_comma)
  · cases core <;> rfl

/-- The display of a set that is not empty lists the names of its tiers. -/
lemma lists_display {set : TierSet} (h : set.isEmpty = false) :
    Lists set.display.toList (set.toList.map Tier.name) := by
  have hne : set.toList ≠ [] := by
    intro hnil
    rw [isEmpty, hnil] at h
    cases h
  refine ⟨(set.toList.map Tier.name).map String.toList, (set.toList.map Tier.name).map String.toList,
    by simpa using hne, ?_, ?_, List.forall₂_same.mpr ?_, ?_⟩
  · simp only [List.forall_mem_map]
    exact fun tier _ => tier.comma_not_mem_name
  · rw [display, h, if_neg Bool.false_ne_true, String.toList_intercalate]
    rfl
  · simp only [List.forall_mem_map]
    exact fun tier _ => tier.padded_name
  · have hnonempty : ∀ name ∈ (set.toList.map Tier.name).map String.toList,
        (!name.isEmpty) = true := by
      simp only [List.forall_mem_map]
      exact fun tier _ => by cases tier <;> decide
    rw [List.filter_eq_self.mpr hnonempty, List.map_map]
    simp [Function.comp_def, String.ofList_toList]

/-- A display is read back. -/
lemma selects_display (set : TierSet) : Selects set.display.toList set := by
  cases h : set.isEmpty with
  | true =>
      have hset : set = empty := by
        refine TierSet.ext (funext fun tier => ?_)
        rw [contains_empty, ← Bool.not_eq_true, ← mem_toList, List.isEmpty_iff.mp h]
        exact List.not_mem_nil
      rw [hset]
      exact .none (Text.padded_self (by decide) (by decide))
  | false =>
      have hitems := lists_display h
      have hlist : IsList set.display.toList := by
        intro word hword hpadded
        have hsame : set.toList.map Tier.name = if word.toList.isEmpty then [] else [word] := by
          have hone := lists_of_padded hpadded (comma_not_mem_word hword)
          rw [String.ofList_toList] at hone
          rw [lists_iff.mp hitems, lists_iff.mp hone]
        have hnames : ∀ name ∈ set.toList.map Tier.name, name ≠ "all" ∧ name ≠ "none" := by
          rw [List.forall_mem_map]
          exact fun tier _ => by cases tier <;> decide
        simp only [List.mem_cons, List.not_mem_nil, or_false] at hword
        obtain rfl | rfl | rfl := hword
        · have hnil : set.toList = [] := List.map_eq_nil_iff.mp hsame
          rw [isEmpty, hnil] at h
          cases h
        · rw [hsame] at hnames
          exact (hnames "all" (by decide)).1 rfl
        · rw [hsame] at hnames
          exact (hnames "none" (by decide)).2 rfl
      refine .list hlist hitems ?_ fun tier => ?_
      · simp only [AreNames, List.forall_mem_map]
        exact fun tier _ => ⟨tier, rfl⟩
      · rw [List.mem_map_of_injective Tier.name_injective, mem_toList]

/-- Reading accepts exactly the grammar, and of a list with an item that is no tier it reports the first one.
Lists with the same items select the same tiers, in whatever order and however often they come. Commas
and blanks alone select no tier, and every set of tiers is selected by its own display. -/
theorem parse_grammar (text : String) :
    (∀ set, parse text = .ok set ↔ Selects text.toList set) ∧
      (∀ fault, parse text = .error fault ↔
        ∃ name, Rejects text.toList name ∧ fault = .unknownTier name) ∧
      (∀ other items others, IsList text.toList → IsList other.toList → Lists text.toList items →
        Lists other.toList others → (∀ item, item ∈ items ↔ item ∈ others) → AreNames items →
        parse text = parse other) ∧
      ((∀ c ∈ text.toList, c = ',' ∨ isBlank c = true) → ',' ∈ text.toList → parse text = .ok empty) ∧
      ∀ set : TierSet, parse set.display = .ok set := by
  refine ⟨fun set => parse_eq_ok_iff, fun fault => parse_eq_error_iff, ?_, ?_, ?_⟩
  · intro other items others hlist hlist' hitems hothers hsame hnames
    have hset : ∀ tier, (TierSet.mk fun tier => decide (tier.name ∈ items)).contains tier = true ↔
        tier.name ∈ items := fun tier => decide_eq_true_iff
    rw [parse_eq_ok_iff.mpr (.list hlist hitems hnames hset), eq_comm]
    refine parse_eq_ok_iff.mpr (.list hlist' hothers (fun item hitem => ?_) fun tier => ?_)
    · exact hnames item ((hsame item).mpr hitem)
    · rw [hset, hsame]
  · exact fun h hcomma => parse_eq_ok_iff.mpr (selects_commas h hcomma)
  · exact fun set => parse_eq_ok_iff.mpr (selects_display set)

/-- The first unknown name is reported, without the blanks around it. -/
example : parse "sse2,, neon ,all" = .error (.unknownTier "neon") := by
  rfl

end TierSet

end LaneKernels
