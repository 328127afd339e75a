import Mathlib.Tactic
import LaneKernels.Log.Filter

/-!
Which records a log setting selects.

* `mem_directivesOf`: of the directives that a setting has for one target, the last one counts. Those that
  cannot be read are skipped, with their warnings in order (`directivesOf_eq`).
* `Decides` says which directive decides for a target: of those for it, the last one with the longest target.
  `thresholdFor_of_decides` and `thresholdFor_of_silent` are the two cases (`decides_or_silent`).
-/

namespace LaneKernels.Log.Filter

/-! ### Reading directives -/

/-- The directives that are read, in order. -/
def directivesRead (parts : List (List Char)) : List Directive :=
  parts.filterMap fun part => (directive (String.ofList part)).toOption

/-- The warnings about the others, in order. -/
def warningsRead (parts : List (List Char)) : List String :=
  parts.filterMap fun part =>
    match directive (String.ofList part) with
    | .ok _ => none
    | .error warning => some warning

/-- The parts of a setting that are read as directives. -/
def partsOf (text : List Char) : List (List Char) :=
  ((Text.pieces ',' text).map Text.trim).filter (!·.isEmpty)

lemma directivesOf_eq (text : List Char) :
    directivesOf text = ((directivesRead (partsOf text)).foldl insert [], warningsRead (partsOf text)) := by
  -- any way to read one part after the other comes to this, if it does so with one part
  have hread : ∀ read : List Directive × List String → List Char → List Directive × List String,
      (∀ directives warnings part new, directive (String.ofList part) = .ok new →
        read (directives, warnings) part = (insert directives new, warnings)) →
      (∀ directives warnings part warning, directive (String.ofList part) = .error warning →
        read (directives, warnings) part = (directives, warnings ++ [warning])) →
      ∀ (parts : List (List Char)) (directives : List Directive) (warnings : List String),
        parts.foldl read (directives, warnings) =
          ((directivesRead parts).foldl insert directives, warnings ++ warningsRead parts) := by
    intro read hok herror parts
    induction parts with
    | nil => simp [directivesRead, warningsRead]
    | cons part rest ih =>
        intro directives warnings
        rw [List.foldl_cons, directivesRead, warningsRead, List.filterMap_cons, List.filterMap_cons]
        cases h : directive (String.ofList part) with
        | ok new =>
            rw [hok _ _ _ _ h, ih]
            rfl
        | error warning =>
            rw [herror _ _ _ _ h, ih, List.append_assoc]
            rfl
  refine hread _ (fun _ _ part new h => ?_) (fun _ _ part warning h => ?_) (partsOf text) [] []
  · simp only [h]
  · simp only [h]

/-- A new directive takes the place of the one for its target. -/
lemma mem_insert {directives : List Directive} {new d : Directive} :
    d ∈ insert directives new ↔ d = new ∨ d ∈ directives ∧ d.target ≠ new.target := by
  rw [insert]
  split
  · rename_i hany
    obtain ⟨old, hold, htarget⟩ := List.any_eq_true.mp hany
    rw [List.mem_map]
    constructor
    · rintro ⟨d', hd', rfl⟩
      split
      · exact .inl rfl
      · exact .inr ⟨hd', ‹_›⟩
    · rintro (rfl | ⟨hd, hne⟩)
      · exact ⟨old, hold, if_pos (by simpa using htarget)⟩
      · exact ⟨d, hd, if_neg hne⟩
  · rename_i hnone
    rw [List.mem_append, List.mem_singleton, or_comm]
    refine or_congr_right (iff_self_and.mpr fun hd htarget => ?_)
    exact hnone (List.any_eq_true.mpr ⟨d, hd, by simpa using htarget⟩)

/-- Of the directives for one target the last one stays. -/
lemma mem_foldl_insert {directives : List Directive} {d : Directive} :
    d ∈ directives.foldl insert [] ↔
      ∃ front behind, directives = front ++ d :: behind ∧ ∀ later ∈ behind, later.target ≠ d.target := by
  induction directives using List.reverseRecOn with
  | nil => simp
  | append_singleton front new ih =>
      rw [List.foldl_append, List.foldl_cons, List.foldl_nil, mem_insert, ih]
      constructor
      · rintro (rfl | ⟨⟨front, behind, rfl, hbehind⟩, hne⟩)
        · exact ⟨front, [], rfl, by simp⟩
        · refine ⟨front, behind ++ [new], by simp, fun later hlater => ?_⟩
          obtain hlater | hlater := List.mem_append.mp hlater
          · exact hbehind later hlater
          · exact List.mem_singleton.mp hlater ▸ hne.symm
      · rintro ⟨front', behind, hsplit, hbehind⟩
        obtain rfl | ⟨behind, last, rfl⟩ := List.eq_nil_or_concat' behind
        · exact .inl (List.singleton_inj.mp (List.append_inj' hsplit rfl).2).symm
        · rw [← List.cons_append, ← List.append_assoc] at hsplit
          obtain ⟨rfl, hlast⟩ := List.append_inj' hsplit rfl
          obtain rfl := List.singleton_inj.mp hlast
          refine .inr ⟨⟨front', behind, rfl, fun later hlater => ?_⟩, ?_⟩
          · exact hbehind later (List.mem_append_left _ hlater)
          · exact (hbehind new (List.mem_append_right _ (List.mem_singleton_self new))).symm

/-- Of the directives that a setting has for one target, the last one counts. -/
theorem mem_directivesOf {text : List Char} {d : Directive} :
    d ∈ (directivesOf text).1 ↔ ∃ front behind, directivesRead (partsOf text) = front ++ d :: behind ∧
      ∀ later ∈ behind, later.target ≠ d.target := by
  rw [directivesOf_eq]
  exact mem_foldl_insert

/-! ### Deciding -/

/-- A directive decides for a target: no directive for it has a longer target, and none behind has one that is
as long. -/
def Decides (directives : List Directive) (target : String) (d : Directive) : Prop :=
  ∃ front behind, directives = front ++ d :: behind ∧ applies d target = true ∧
    (∀ d' ∈ front, applies d' target = true → reach d' ≤ reach d) ∧
    ∀ d' ∈ behind, applies d' target = true → reach d' < reach d

/-- The directive with the longest target for a target, the last one of several. -/
def best? (directives : List Directive) (target : String) : Option Directive :=
  (directives.filter (applies · target)).foldl
    (fun (best : Option Directive) d => if best.all (reach · ≤ reach d) then some d else best) none

section

variable {directives : List Directive} {target : String} {d d' : Directive}

lemma best?_append_singleton :
    best? (directives ++ [d]) target =
      if applies d target = true ∧ (best? directives target).all (reach · ≤ reach d) = true then some d
      else best? directives target := by
  rw [best?, List.filter_append, List.foldl_append, ← best?, List.filter_singleton]
  cases applies d target <;> simp

lemma Decides.unique (h : Decides directives target d) (h' : Decides directives target d') : d = d' := by
  obtain ⟨front, behind, rfl, happlies, hfront, hbehind⟩ := h
  obtain ⟨front', behind', hsplit, happlies', hfront', hbehind'⟩ := h'
  -- one of two different ones would stand before the other, and be both shorter and no shorter
  obtain ⟨middle, rfl, hmiddle⟩ | ⟨middle, rfl, hmiddle⟩ := List.append_eq_append_iff.mp hsplit
  · obtain - | ⟨first, middle⟩ := middle
    · exact (List.cons.inj hmiddle).1
    · obtain ⟨rfl, rfl⟩ := List.cons.inj hmiddle
      have hle := hfront' d (by simp) happlies
      have hlt := hbehind d' (by simp) happlies'
      omega
  · obtain - | ⟨first, middle⟩ := middle
    · exact (List.cons.inj hmiddle).1.symm
    · obtain ⟨rfl, rfl⟩ := List.cons.inj hmiddle
      have hle := hfront d' (by simp) happlies'
      have hlt := hbehind' d (by simp) happlies
      omega

lemma Decides.le (h : Decides directives target d) (hd' : d' ∈ directives)
    (happlies : applies d' target = true) :
    reach d' ≤ reach d := by
  obtain ⟨front, behind, rfl, -, hfront, hbehind⟩ := h
  obtain hd' | hd' := List.mem_append.mp hd'
  · exact hfront d' hd' happlies
  · obtain rfl | hd' := List.mem_cons.mp hd'
    · exact le_rfl
    · exact (hbehind d' hd' happlies).le

/-- A directive that does not take over from the one that decides leaves it in its place. -/
lemma Decides.append_singleton (h : Decides directives target d)
    (hnew : applies d' target = true → reach d' < reach d) : Decides (directives ++ [d']) target d := by
  obtain ⟨front, behind, rfl, happlies, hfront, hbehind⟩ := h
  refine ⟨front, behind ++ [d'], by simp, happlies, hfront, fun later hlater => ?_⟩
  obtain hlater | hlater := List.mem_append.mp hlater
  · exact hbehind later hlater
  · exact List.mem_singleton.mp hlater ▸ hnew

lemma best?_spec (directives : List Directive) (target : String) :
    (∀ d ∈ best? directives target, Decides directives target d) ∧
      (best? directives target = none → ∀ d ∈ directives, applies d target = false) := by
  induction directives using List.reverseRecOn with
  | nil => exact ⟨by simp [best?], by simp⟩
  | append_singleton front new ih =>
      obtain ⟨hbest, hnone⟩ := ih
      rw [best?_append_singleton]
      split
      · rename_i hnew
        refine ⟨?_, fun h => nomatch h⟩
        rintro _ ⟨rfl⟩
        refine ⟨front, [], rfl, hnew.1, fun d hd happlies => ?_, by simp⟩
        cases h : best? front target with
        | none => exact absurd (hnone h d hd) (by simp [happlies])
        | some best =>
            have hle := (hbest best h).le hd happlies
            have hlonger := hnew.2
            rw [h, Option.all_some, decide_eq_true_eq] at hlonger
            omega
      · rename_i hnew
        refine ⟨fun d hd => ?_, fun h d hd => ?_⟩
        · refine (hbest d hd).append_singleton fun happlies => ?_
          rw [Option.mem_def.mp hd] at hnew
          simpa [happlies] using hnew
        · obtain hd | hd := List.mem_append.mp hd
          · exact hnone h d hd
          · rw [h] at hnew
            rw [List.mem_singleton.mp hd]
            simpa using hnew

/-- Some directive decides for a target, or none is for it. -/
theorem decides_or_silent (directives : List Directive) (target : String) :
    (∃ d, Decides directives target d) ∨ ∀ d ∈ directives, applies d target = false := by
  obtain ⟨hbest, hnone⟩ := best?_spec directives target
  cases h : best? directives target with
  | none => exact .inr (hnone h)
  | some d => exact .inl ⟨d, hbest d h⟩

end

variable {filter : Filter} {target : String}

lemma thresholdFor_eq :
    filter.thresholdFor target =
      if filter.directives = [] then some .error
      else (best? filter.directives target).bind (·.threshold) := by
  rw [thresholdFor, best?]
  simp only [List.isEmpty_iff]

/-- The threshold for a target is that of the directive that decides for it. -/
theorem thresholdFor_of_decides {d : Directive} (h : Decides filter.directives target d) :
    filter.thresholdFor target = d.threshold := by
  obtain ⟨hbest, hnone⟩ := best?_spec filter.directives target
  have hmem : d ∈ filter.directives := by
    obtain ⟨front, behind, hsplit, -⟩ := h
    simp [hsplit]
  rw [thresholdFor_eq, if_neg (List.ne_nil_of_mem hmem)]
  cases hd : best? filter.directives target with
  | none =>
      obtain ⟨_, _, -, happlies, -⟩ := h
      exact absurd (hnone hd d hmem) (by simp [happlies])
  | some best =>
      rw [(hbest best hd).unique h]
      rfl

/-- Where no directive is for a target nothing is selected, and without any directive errors are. -/
theorem thresholdFor_of_silent (h : ∀ d ∈ filter.directives, applies d target = false) :
    filter.thresholdFor target = if filter.directives = [] then some .error else none := by
  have hbest := (best?_spec filter.directives target).1
  rw [thresholdFor_eq]
  cases hd : best? filter.directives target with
  | none => rfl
  | some best =>
      obtain ⟨front, behind, hsplit, happlies, -⟩ := hbest best hd
      exact absurd (h best (by simp [hsplit])) (by simp [happlies])

end LaneKernels.Log.Filter
