import Mathlib.Tactic
import LaneKernels.Proofs.Inventory.Names

/-!
What the functions of the kernel text are read as.

* `Source.Item.definition` is the definition that an item stands for: its name, its build symbol if
  it has one, and the variants that it lists.
* `reads_steps`: the lines of an item hold that definition and nothing else, for the scalar kernel, the
  accelerated kernels, the list of variants and the dispatcher.
-/

namespace LaneKernels

open Layout (Line linesAt blockHead)
open Inventory Source

namespace Inventory

/-! ### First lines of definitions -/

lemma Reads.cons_quiet {line : Line} {lines : List Line} {definitions : List Definition}
    {regions : List String} (hline : Quiet line) (h : Reads lines definitions regions) :
    Reads (line :: lines) definitions regions :=
  (reads_of_quiet (List.forall_mem_singleton.mpr hline)).append h

/-- A text of three parts begins with the first two and the first characters of the third. -/
lemma heads_parts (left right : String) (chars rest : List Char) :
    Heads (left.toList ++ (right.toList ++ chars)) (left ++ right ++ String.ofList (chars ++ rest)) :=
  ⟨rest, by simp only [String.toList_append, String.toList_ofList, List.append_assoc]⟩

/-- A text that begins with a name and another character after a start is read as that name. -/
lemma read_definition {start : List Char}
    (hstart : ∀ rest, read (start ++ rest) = .definition (nameAt rest))
    {name content : String} (hname : IsName name) {c : Char} (hc : isNameChar c = false)
    (h : Heads (start ++ (name.toList ++ [c])) content) : read content.toList = .definition name := by
  obtain ⟨rest, hrest⟩ := h
  rw [hrest, List.append_assoc, List.append_assoc, List.singleton_append, hstart,
    nameAt_append hname hc]

lemma read_signature {name : String} (hname : IsName name) (type : ElementType) :
    read (blockHead (signature name type)).toList = .definition name := by
  have hheads : Heads ("pub unsafe fn ".toList ++ (name.toList ++ ['(']))
      (blockHead (signature name type)) :=
    ((((((((heads_parts "pub unsafe fn " name ['('] _).append _).append _).append _).append _).append
      _).append _).append _)
  exact read_definition (fun _ => rfl) hname (by decide) hheads

lemma heads_signature (name : String) (type : ElementType) :
    Heads ['p'] (blockHead (signature name type)) :=
  ((((((((((Heads.ofChars ['p'] _).append _).append _).append _).append _).append _).append
    _).append _).append
    _).append _)

lemma read_guardLine (tier : Tier) : read (guardLine tier).toList = .guard tier.buildGuard := by
  have hsymbol : tier.buildGuard.toList.all (· ≠ ')') = true := by
    cases tier <;> rfl
  have hline : (guardLine tier).toList = "#[cfg(".toList ++ (tier.buildGuard.toList ++ [')', ']']) := by
    rw [show guardLine tier = "#[cfg(" ++ tier.buildGuard ++ ")]" from rfl, String.toList_append,
      String.toList_append, List.append_assoc]
    rfl
  have hread : ∀ rest, read ("#[cfg(".toList ++ rest) =
      .guard (String.ofList (rest.takeWhile (· ≠ ')'))) := fun _ => rfl
  rw [hline, hread, List.takeWhile_append_of_pos (List.all_eq_true.mp hsymbol),
    List.takeWhile_cons_of_neg (by decide), List.append_nil, String.ofList_toList]

lemma heads_guardLine (tier : Tier) : Heads ['#'] (guardLine tier) :=
  ((Heads.ofChars ['#'] _).append _).append _

/-! ### Bodies -/

/-- Whether neither an attribute nor an entry begins with the character. -/
def isTame (c : Char) : Bool :=
  c ≠ ' ' && c ≠ '#' && c ≠ 'v'

/-- A text that begins neither like an attribute nor like an entry. -/
def Tame (text : String) : Prop :=
  ∃ c, isTame c = true ∧ Heads [c] text

/-- A text that is given by its characters, the first of which is tame. -/
lemma Tame.ofChars {c : Char} {rest : List Char} (h : isTame c = true) :
    Tame (String.ofList (c :: rest)) :=
  ⟨c, h, .ofChars [c] rest⟩

lemma Tame.append {text : String} (h : Tame text) (more : String) : Tame (text ++ more) := by
  obtain ⟨c, hc, hheads⟩ := h
  exact ⟨c, hc, hheads.append more⟩

lemma Tame.quiet {text : String} (h : Tame text) : Quiet (.text 1 text) := by
  obtain ⟨c, hc, hheads⟩ := h
  simp only [isTame, Bool.and_eq_true, decide_eq_true_eq] at hc
  exact quiet_inner hc.1.1 hc.1.2 hc.2 hheads

/-- A line of one level that is given by its characters, the first of which is tame. -/
lemma quiet_text {c : Char} {rest : List Char} (h : isTame c = true) :
    Quiet (.text 1 (String.ofList (c :: rest))) :=
  (Tame.ofChars h).quiet

/-- Whether the lines that a step writes on the first level are quiet. -/
def IsQuiet : Layout.Step → Prop
  | .line text => Quiet (.text 1 text)
  | .block head tail _ => Tame head ∧ Tame tail
  | .indent _ | .blank | .doc _ => True
  | _ => False

mutual

/-- Every line of a step is at least as far in as the step. -/
lemma deep_linesAt_step : ∀ (step : Layout.Step) (level : ℕ), ∀ line ∈ step.linesAt level,
    ∃ further content, level ≤ further ∧ line = .text further content
  | .push, _ | .pop, _ => fun line hline => absurd hline List.not_mem_nil
  | .line _, level | .blank, level | .comment _, level => by
      intro line hline
      exact ⟨level, _, le_rfl, List.mem_singleton.mp hline⟩
  | .doc _, level => by
      intro line hline
      obtain ⟨content, -, rfl⟩ := List.mem_map.mp hline
      exact ⟨level, content, le_rfl, rfl⟩
  | .indent body, level => by
      intro line hline
      obtain ⟨further, content, hle, rfl⟩ := deep_linesAt body (level + 1) line hline
      exact ⟨further, content, Nat.le_of_succ_le hle, rfl⟩
  | .block _ tail body, level => by
      intro line hline
      rw [Layout.Step.linesAt, List.mem_cons, List.mem_append, List.mem_singleton] at hline
      obtain rfl | hbody | rfl := hline
      · exact ⟨level, _, le_rfl, rfl⟩
      · obtain ⟨further, content, hle, rfl⟩ := deep_linesAt body (level + 1) line hbody
        exact ⟨further, content, Nat.le_of_succ_le hle, rfl⟩
      · exact ⟨level, tail, le_rfl, rfl⟩

/-- Every line of a body is at least as far in as the body. -/
lemma deep_linesAt : ∀ (steps : List Layout.Step) (level : ℕ), ∀ line ∈ linesAt steps level,
    ∃ further content, level ≤ further ∧ line = .text further content
  | [], _ => fun line hline => absurd hline List.not_mem_nil
  | step :: rest, level => by
      intro line hline
      rw [linesAt, List.mem_append] at hline
      cases hline with
      | inl hstep => exact deep_linesAt_step step level line hstep
      | inr hrest => exact deep_linesAt rest level line hrest

end

/-- What is further in than one level is not looked at. -/
lemma quiet_linesAt_deep (steps : List Layout.Step) : ∀ line ∈ linesAt steps 2, Quiet line := by
  intro line hline
  obtain ⟨further, content, hle, rfl⟩ := deep_linesAt steps 2 line hline
  exact quiet_deep hle content

lemma heads_docLines {text line : String} (h : line ∈ Layout.docLines text) :
    Heads ['/', '/', '/'] line := by
  obtain ⟨prose, -, rfl⟩ := List.mem_map.mp h
  rw [Layout.docLine]
  split
  · exact .ofChars ['/', '/', '/'] _
  · exact .append (.ofChars ['/', '/', '/'] _) _

/-- A quiet step has nothing to read in it. -/
lemma IsQuiet.quiet {step : Layout.Step} (h : IsQuiet step) : ∀ line ∈ step.linesAt 1, Quiet line := by
  cases step with
  | line text =>
      intro line hline
      rw [List.mem_singleton.mp hline]
      exact h
  | blank =>
      intro line hline
      rw [List.mem_singleton.mp hline]
      exact quiet_empty 1
  | doc text =>
      intro line hline
      obtain ⟨content, hcontent, rfl⟩ := List.mem_map.mp hline
      obtain ⟨rest, hrest⟩ := heads_docLines hcontent
      exact Tame.quiet ⟨'/', rfl, ⟨'/' :: '/' :: rest, hrest⟩⟩
  | indent body => exact quiet_linesAt_deep body
  | block head tail body =>
      rw [Layout.Step.linesAt, List.forall_mem_cons, List.forall_mem_append]
      refine ⟨(h.1.append _).quiet, quiet_linesAt_deep body, fun line hline => ?_⟩
      rw [List.mem_singleton.mp hline]
      exact h.2.quiet
  | push | pop | comment => exact h.elim

/-- A body of quiet steps has nothing to read in it. -/
lemma quiet_body {body : List Layout.Step} (h : ∀ step ∈ body, IsQuiet step) :
    ∀ line ∈ linesAt body 1, Quiet line := by
  induction body with
  | nil => exact fun line hline => absurd hline List.not_mem_nil
  | cons step rest ih =>
      rw [List.forall_mem_cons] at h
      rw [linesAt, List.forall_mem_append]
      exact ⟨h.1.quiet, ih h.2⟩

/-- A brace that closes a definition. -/
lemma quiet_brace : Quiet (.text 0 "\x7d") :=
  quiet_margin (by decide) (.ofChars ['\x7d'] _) (.inr rfl)

/-- A definition with a quiet body. -/
lemma Reads.block {head : String} (before : List Line) {body : List Layout.Step}
    {definitions : List Definition} (h : Reads (before ++ [.text 0 (blockHead head)]) definitions [])
    (hbody : ∀ step ∈ body, IsQuiet step) :
    Reads (before ++ (Layout.Step.block head "\x7d" body).linesAt 0) definitions [] := by
  have hrest : ∀ line ∈ linesAt body 1 ++ [Line.text 0 "\x7d"], Quiet line := by
    rw [List.forall_mem_append, List.forall_mem_singleton]
    exact ⟨quiet_body hbody, quiet_brace⟩
  rw [Layout.Step.linesAt, ← List.singleton_append, ← List.append_assoc]
  exact h.append_quiet hrest

lemma linesAt_spacedBlock (head tail : String) (body : List Layout.Step) :
    linesAt [.block head tail body, .blank] 0 =
      .text 0 (blockHead head) :: (linesAt body 1 ++ [.text 0 tail, .text 0 ""]) := by
  simp only [linesAt, Layout.Step.linesAt, List.append_assoc, List.cons_append, List.nil_append,
    List.append_nil]

/-- A block at the margin with an empty line behind it. -/
lemma Reads.spacedBlock {head : String} (before : List Line) {body : List Layout.Step}
    {definitions : List Definition} (h : Reads (before ++ [.text 0 (blockHead head)]) definitions [])
    (hbody : ∀ step ∈ body, IsQuiet step) :
    Reads (before ++ linesAt [.block head "\x7d" body, .blank] 0) definitions [] := by
  have hblank : ∀ line ∈ [Line.text 0 ""], Quiet line :=
    List.forall_mem_singleton.mpr (quiet_empty 0)
  have hblock := (Reads.block before h hbody).append_quiet hblank
  rw [List.append_assoc] at hblock
  exact hblock

/-- Documentation in front of other steps. -/
lemma Reads.documented {text : String} (htext : Heads ['/', '/', '/'] text)
    {steps : List Layout.Step} {definitions : List Definition} {regions : List String}
    (h : Reads (linesAt steps 0) definitions regions) :
    Reads (linesAt (.line text :: steps) 0) definitions regions :=
  .cons_quiet (quiet_doc htext) h

/-- A text that begins like a safe function defines it. -/
lemma reads_function {name content : String} (hname : IsName name) {c : Char}
    (hc : isNameChar c = false) (h : Heads ("pub fn ".toList ++ (name.toList ++ [c])) content) :
    Reads [.text 0 content] [⟨[], name, []⟩] [] := by
  have hread := read_definition (fun _ => rfl) hname hc h
  obtain ⟨rest, hrest⟩ := h
  exact reads_definition (by decide) ⟨_, hrest⟩ hread

/-! ### Items -/

/-- The entry of a tier in the list of variants. -/
def tierEntry (op : ArithOp) (type : ElementType) (tier : Tier) : ListEntry :=
  ⟨[tier.buildGuard], tier.enumName, routineName op type tier⟩

end Inventory

/-- What an item is read as. -/
def Source.Item.definition : Item → Definition
  | default op type => ⟨[], defaultName op type, []⟩
  | routine r => ⟨[r.tier.buildGuard], r.name, []⟩
  | variants op type tiers => ⟨[], variantsName op type, tiers.map (tierEntry op type)⟩
  | dispatcher op type => ⟨[], kernelName op type, []⟩

namespace Inventory

/-- An undocumented kernel without a guard. -/
lemma reads_kernel {name : String} (hname : IsName name) (type : ElementType) {body : List Layout.Step}
    (hbody : ∀ step ∈ body, IsQuiet step) :
    Reads (linesAt [.block (signature name type) "\x7d" body, .blank] 0) [⟨[], name, []⟩] [] :=
  .spacedBlock [] (reads_definition (by decide) (heads_signature name type)
    (read_signature hname type)) hbody

lemma reads_defaultSteps (op : ArithOp) (type : ElementType) :
    Reads (linesAt (defaultSteps op type) 0) [⟨[], defaultName op type, []⟩] [] := by
  refine .documented ?_ (.documented (.ofChars _ _) (.documented (.ofChars _ _)
    (.documented (.ofChars _ _) (.documented (.ofChars _ _)
      (reads_kernel (isName_defaultName op type) type ?_)))))
  · exact ((((Heads.ofChars ['/', '/', '/'] _).append _).append _).append _).append _
  · simp only [List.forall_mem_cons, IsQuiet]
    exact ⟨⟨.ofChars rfl, .ofChars rfl⟩, fun _ hstep => absurd hstep List.not_mem_nil⟩

lemma reads_dispatcherSteps (op : ArithOp) (type : ElementType) :
    Reads (linesAt (dispatcherSteps op type) 0) [⟨[], kernelName op type, []⟩] [] := by
  refine .documented ?_ (.documented (.ofChars _ _) (.documented (.ofChars _ _)
    (.documented (.ofChars _ _) (.documented ?_
      (reads_kernel (isName_kernelName op type) type ?_)))))
  · exact ((((Heads.ofChars ['/', '/', '/'] _).append _).append _).append _).append _
  · exact ((Heads.ofChars ['/', '/', '/'] _).append _).append _
  · simp only [List.forall_mem_cons, IsQuiet]
    refine ⟨Tame.quiet ?_, Tame.quiet ?_, quiet_text rfl, ?_⟩
    · exact ((Tame.ofChars rfl).append _).append _
    · exact ((((((((Tame.ofChars rfl).append _).append _).append _).append _).append _).append
        _).append _).append _
    · exact fun _ hstep => absurd hstep List.not_mem_nil

lemma quiet_probeStatement (tier : Tier) (pointer : String) :
    Quiet (.text 1 (probeStatement tier pointer)) :=
  Tame.quiet
    (((((((Tame.ofChars rfl).append _).append _).append _).append _).append _).append _)

lemma reads_routineSteps (routine : Routine) : Reads (linesAt (routineSteps routine) 0)
    [⟨[routine.tier.buildGuard], routine.name, []⟩] [] := by
  have hname : IsName routine.name := isName_routineName _ _ _
  have hfeature : ∀ line ∈ linesAt (routine.tier.targetFeature?.map fun feature =>
      .line s!"#[target_feature(enable = \"{feature}\")]").toList 0,
      ∀ survey : Survey, survey.step line.written = survey := by
    cases routine.tier.targetFeature? with
    | none => exact fun line hline => absurd hline List.not_mem_nil
    | some feature =>
        intro line hline
        rw [List.mem_singleton.mp hline]
        exact step_attribute (by decide) (((Heads.ofChars ['#', '[', 't'] _).append _).append _)
  have hhead := reads_guarded (heads_guardLine routine.tier) (read_guardLine routine.tier) hfeature
    (by decide) (heads_signature routine.name routine.type) (read_signature hname routine.type)
  rw [routineSteps, Layout.linesAt_append, Layout.linesAt_append, List.append_assoc]
  refine .cons_quiet (quiet_doc ?_) (Reads.spacedBlock (_ :: _) hhead ?_)
  · exact ((((((((Heads.ofChars ['/', '/', '/'] _).append _).append _).append _).append _).append
      _).append _).append _).append _
  · simp only [List.forall_mem_append, List.forall_mem_cons, List.map_cons, List.map_nil, IsQuiet,
      mainLoop, tailLoop]
    refine ⟨⟨⟨quiet_probeStatement _ _, quiet_probeStatement _ _, quiet_probeStatement _ _, ?_⟩,
      quiet_text rfl, ⟨?_, .ofChars rfl⟩, ⟨.ofChars rfl, .ofChars rfl⟩, ?_⟩, ?_⟩
    · exact fun _ hstep => absurd hstep List.not_mem_nil
    · exact ((Tame.ofChars rfl).append _).append _
    · exact fun _ hstep => absurd hstep List.not_mem_nil
    · cases routine.tier with
      | mmx =>
          intro step hstep
          rw [List.mem_singleton.mp hstep]
          exact ((Tame.ofChars rfl).append _).quiet
      | sse | sse2 | avx | avx2 => exact fun _ hstep => absurd hstep List.not_mem_nil

/-- A line that lists a variant is read as its tier and its kernel. -/
lemma read_entry {tier kernel : String} (htier : IsName tier) (hkernel : IsName kernel) :
    read ("variants.push(Variant::new(" ++ ("Tier::" ++ tier) ++ ", " ++ kernel ++ "));").toList =
      .entry tier kernel := by
  have hlisted : ∀ rest next, after? ", ".toList (rest.dropWhile isNameChar) = some next →
      read ("variants.push(Variant::new(Tier::".toList ++ rest) =
        .entry (nameAt rest) (nameAt next) := by
    intro rest next hnext
    have hentry : listed? ("variants.push(Variant::new(Tier::".toList ++ rest) =
        some (nameAt rest, nameAt next) := by
      show (after? ", ".toList (rest.dropWhile isNameChar)).bind _ = _
      rw [hnext]
      rfl
    rw [read, hentry]
    rfl
  have htext : ("variants.push(Variant::new(" ++ ("Tier::" ++ tier) ++ ", " ++ kernel ++ "));").toList =
      "variants.push(Variant::new(Tier::".toList ++
        (tier.toList ++ ',' :: (' ' :: (kernel.toList ++ ')' :: [')', ';']))) := by
    -- the texts are opened here, because evaluating long ones is slow
    have hlong : "variants.push(Variant::new(Tier::".toList = _ := String.toList_ofList
    have hcall : "variants.push(Variant::new(".toList = _ := String.toList_ofList
    have hpath : "Tier::".toList = _ := String.toList_ofList
    simp only [String.toList_append, List.append_assoc]
    rw [hlong, hcall, hpath]
    rfl
  rw [htext, hlisted _ (kernel.toList ++ ')' :: [')', ';'])
    (by rw [dropWhile_append_name htier rfl]; rfl),
    nameAt_append htier rfl, nameAt_append hkernel rfl]

lemma lists_variantEntry (op : ArithOp) (type : ElementType) (tier : Tier) :
    Lists (linesAt (variantEntry op type tier) 1) [tierEntry op type tier] := by
  have hheads : Heads ['v']
      s!"variants.push(Variant::new({tierPath tier}, {routineName op type tier}));" :=
    ((((Heads.ofChars ['v'] _).append _).append _).append _).append _
  exact lists_entry (heads_guardLine tier) (read_guardLine tier) hheads
    (read_entry tier.isName_enumName (isName_routineName op type tier))

/-- The line that gives the list back has nothing to read in it. -/
lemma quiet_variantsLine : Quiet (.text 1 "variants") := by
  intro survey hsettled
  have hheads : Heads ['v'] "variants" := .ofChars ['v'] _
  have hread : read "variants".toList = .code := rfl
  rw [step_inner (by decide) hheads, hread, Survey.inner, ← hsettled.2]

lemma reads_variantsSteps (op : ArithOp) (type : ElementType) (tiers : List Tier) :
    Reads (linesAt (variantsSteps op type tiers) 0)
      [⟨[], variantsName op type, tiers.map (tierEntry op type)⟩] [] := by
  have hattribute : Quiet (.text 0 "#[allow(unused_mut)]") :=
    quiet_attribute (by decide) (.ofChars ['#', '[', 'a'] _)
  have hstart : Lists (linesAt [.line "let mut variants = Vec::new();"] 1) [] :=
    lists_of_quiet (List.forall_mem_singleton.mpr (Tame.ofChars rfl).quiet)
  have hentries : Lists (linesAt (tiers.flatMap (variantEntry op type)) 1)
      (tiers.map (tierEntry op type)) := by
    rw [Layout.linesAt_flatMap, List.map_eq_flatMap]
    exact lists_flatMap fun tier _ => lists_variantEntry op type tier
  have hend : Lists (linesAt [.line "variants"] 1 ++ [.text 0 "\x7d", .text 0 ""]) [] := by
    refine lists_of_quiet ?_
    simp only [linesAt, Layout.Step.linesAt, List.append_nil, List.singleton_append,
      List.forall_mem_cons]
    exact ⟨quiet_variantsLine, quiet_brace, quiet_empty 0, fun _ hline => absurd hline List.not_mem_nil⟩
  have hbody := (hstart.append hentries).append hend
  rw [List.nil_append, List.append_nil] at hbody
  refine .documented ?_ (.cons_quiet hattribute ?_)
  · exact ((((Heads.ofChars ['/', '/', '/'] _).append _).append _).append _).append _
  · rw [linesAt_spacedBlock, Layout.linesAt_append, Layout.linesAt_append, List.append_assoc]
    refine (reads_function (isName_variantsName op type) (c := '(') (by decide) ?_).listing hbody
    exact (((heads_parts "pub fn " (variantsName op type) ['('] _).append _).append _).append _

/-- The lines of an item hold its definition and nothing else. -/
lemma reads_steps (item : Item) : Reads (linesAt item.steps 0) [item.definition] [] := by
  cases item with
  | default op type => exact reads_defaultSteps op type
  | routine routine => exact reads_routineSteps routine
  | variants op type tiers => exact reads_variantsSteps op type tiers
  | dispatcher op type => exact reads_dispatcherSteps op type

end Inventory

end LaneKernels
