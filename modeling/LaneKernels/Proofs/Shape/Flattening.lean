import Mathlib.Tactic
import LaneKernels.Proofs.Generation.Rendering

/-!
Steps with bodies, unfolded into steps without.

* `Step.flatten` puts a body between the steps that enter and leave its level. The unfolded steps run as
  the nested ones do (`Step.runAll_flatten`), so it is enough to understand steps without bodies.
* `Stays` says that no beginning of some steps leaves more levels than are open. Such steps succeed, at a
  level that can be counted and with lines that can be told in advance (`exists_reaches`). Otherwise there
  is a first step that leaves the outermost level (`stays_or_exists_pop`), and everything ends there
  (`reaches_or_underflows`).
* `run_flattened` puts it together for every step and every buffer.
-/

namespace LaneKernels.Layout

/-! ### Unfolding bodies -/

mutual

/-- The steps that a step consists of, with each body between entering and leaving its level. -/
def Step.flatten : Step → List Step
  | .indent body => .push :: (flattenAll body ++ [.pop])
  | .block head tail body =>
    .line (blockHead head) :: .push :: (flattenAll body ++ [.pop, .line tail])
  | step => [step]

/-- The steps that some steps consist of, one after the other. -/
def flattenAll : List Step → List Step
  | [] => []
  | step :: rest => step.flatten ++ flattenAll rest

end

/-- Whether a step has no body. -/
def Step.isPlain : Step → Bool
  | .indent _ | .block _ _ _ => false
  | _ => true

lemma runAll_append (steps more : List Step) :
    runAll (steps ++ more) = runAll steps >>= fun _ => runAll more := by
  induction steps with
  | nil => rfl
  | cons step rest ih => rw [List.cons_append, runAll, runAll, ih, bind_assoc]

lemma runAll_singleton (step : Step) : runAll [step] = step.run :=
  bind_pure step.run

mutual

/-- The unfolded steps run as the nested step does. -/
lemma Step.runAll_flatten : ∀ step : Step, runAll step.flatten = step.run
  | .push | .pop | .line _ | .blank | .comment _ | .doc _ => runAll_singleton _
  | .indent body => by
      rw [Step.flatten, runAll, runAll_append, runAll_flattenAll body, runAll_singleton]
      rfl
  | .block head tail body => by
      rw [Step.flatten, runAll, runAll, runAll_append, runAll_flattenAll body, runAll, runAll_singleton]
      rfl

lemma runAll_flattenAll : ∀ steps : List Step, runAll (flattenAll steps) = runAll steps
  | [] => rfl
  | step :: rest => by
      rw [flattenAll, runAll_append, step.runAll_flatten, runAll_flattenAll rest]
      rfl

end

mutual

lemma Step.all_isPlain_flatten : ∀ step : Step, step.flatten.all Step.isPlain = true
  | .push | .pop | .line _ | .blank | .comment _ | .doc _ => rfl
  | .indent body | .block _ _ body => by
      simp [Step.flatten, Step.isPlain, all_isPlain_flattenAll body]

/-- Nothing with a body is left. -/
lemma all_isPlain_flattenAll : ∀ steps : List Step, (flattenAll steps).all Step.isPlain = true
  | [] => rfl
  | step :: rest => by
      rw [flattenAll, List.all_append, step.all_isPlain_flatten, all_isPlain_flattenAll rest]
      rfl

end

/-! ### Steps without bodies -/

/-- How often some steps without bodies enter a level. -/
def pushes (steps : List Step) : ℕ :=
  steps.countP fun
    | .push => true
    | _ => false

/-- How often some steps without bodies leave a level, or try to. -/
def pops (steps : List Step) : ℕ :=
  steps.countP fun
    | .pop => true
    | _ => false

/-- No beginning of the steps leaves more levels than are open. -/
def Stays (level : ℕ) (steps : List Step) : Prop :=
  ∀ beginning, beginning <+: steps → pops beginning ≤ level + pushes beginning

/-- A text behind four blanks for each level; an empty one has none. -/
def indented (level : ℕ) (text : String) : String :=
  if text = "" then "" else String.ofList (List.replicate (4 * level) ' ') ++ text

/-- The texts of the lines that a step without a body writes. -/
def Step.texts : Step → List String
  | .line text => [text]
  | .blank => [""]
  | .comment text => [commentLine text]
  | .doc text => docLines text
  | _ => []

/-- The level after a step without a body. -/
def Step.levelAfter : Step → ℕ → ℕ
  | .push, level => level + 1
  | .pop, level => level - 1
  | _, level => level

/-- The lines that steps without bodies write from a level on. The level of the moment is the first one,
with the pushes and without the pops before it. -/
def linesFrom (level : ℕ) (steps : List Step) : List String :=
  steps.zipIdx.flatMap fun (step, k) =>
    step.texts.map (indented (level + pushes (steps.take k) - pops (steps.take k)))

/-- Some steps succeed from a buffer and reach another one. Its level is counted, and its lines are those
before and those of the steps. -/
structure Reaches (before : Buffer) (steps : List Step) (now : Buffer) : Prop where
  runs : runAll steps before = .ok () now
  level : now.level + pops steps = before.level + pushes steps
  lines : now.writtenLines = before.writtenLines ++ linesFrom before.level steps

lemma written_text (level : ℕ) (text : String) : (Line.text level text).written = indented level text := by
  by_cases h : text = ""
  · rw [h]
    rfl
  · rw [Line.written, indented, if_neg (by simpa using h), if_neg h, margin]

section

variable {level : ℕ} {step : Step} {rest done : List Step} {buffer now : Buffer}

/-- A step that does not leave the outermost level succeeds. -/
lemma Step.gives_plain (hplain : step.isPlain = true) (hopen : step = .pop → 0 < level) :
    Gives step.run level (step.levelAfter level) (step.texts.map (.text level)) := by
  cases step with
  | push => exact gives_enter level
  | pop =>
      obtain ⟨lower, rfl⟩ := Nat.exists_eq_succ_of_ne_zero (Nat.ne_of_gt (hopen rfl))
      exact gives_leave lower
  | line text => exact gives_writeLine text level
  | blank => exact gives_writeLine "" level
  | comment text => exact gives_writeLine (commentLine text) level
  | doc text => exact gives_forM (docLines text) level
  | indent body | block head tail body => exact absurd hplain (by simp [isPlain])

lemma run_pop_outermost (h : buffer.level = 0) :
    Step.pop.run buffer = .error .indentUnderflow buffer := by
  obtain ⟨level, lines⟩ := buffer
  subst h
  rfl

lemma pushes_cons (step : Step) (rest : List Step) :
    pushes (step :: rest) = pushes [step] + pushes rest :=
  @List.countP_append _ _ [step] rest

lemma pops_cons (step : Step) (rest : List Step) : pops (step :: rest) = pops [step] + pops rest :=
  @List.countP_append _ _ [step] rest

/-- The level after a step is the one before it, with what it enters and without what it leaves. -/
lemma levelAfter_add_pops (hplain : step.isPlain = true) (hopen : step = .pop → 0 < level) :
    step.levelAfter level + pops [step] = level + pushes [step] := by
  cases step with
  | pop => exact Nat.sub_add_cancel (hopen rfl)
  | indent body | block head tail body => exact absurd hplain (by simp [Step.isPlain])
  | _ => rfl

/-- The lines of the first step come first, and the others go on from the level that it leaves. -/
lemma linesFrom_cons (hplain : step.isPlain = true) (hopen : step = .pop → 0 < level) :
    linesFrom level (step :: rest) =
      step.texts.map (indented level) ++ linesFrom (step.levelAfter level) rest := by
  have hstep := levelAfter_add_pops hplain hopen
  rw [linesFrom, List.zipIdx_cons, List.flatMap_cons, Nat.zero_add, List.zipIdx_succ, List.flatMap_map]
  refine congrArg₂ (· ++ ·) rfl (List.flatMap_congr fun (later, k) _ => ?_)
  have hlevel : level + pushes (step :: rest.take k) - pops (step :: rest.take k) =
      step.levelAfter level + pushes (rest.take k) - pops (rest.take k) := by
    rw [pushes_cons, pops_cons]
    omega
  exact congrArg (fun moment => later.texts.map (indented moment)) hlevel

/-- Steps stay if the first one does not leave the outermost level and the others stay where it ends. -/
lemma stays_cons_iff (hplain : step.isPlain = true) :
    Stays level (step :: rest) ↔ (step = .pop → 0 < level) ∧ Stays (step.levelAfter level) rest := by
  constructor
  · intro h
    have hopen : step = .pop → 0 < level := by
      rintro rfl
      exact h [.pop] (by simp)
    refine ⟨hopen, fun beginning hbeginning => ?_⟩
    have hall := h (step :: beginning) (List.cons_prefix_cons.mpr ⟨rfl, hbeginning⟩)
    have hstep := levelAfter_add_pops hplain hopen
    rw [pops_cons, pushes_cons] at hall
    omega
  · rintro ⟨hopen, hrest⟩ beginning hbeginning
    rw [List.prefix_cons_iff] at hbeginning
    obtain rfl | ⟨inner, rfl, hinner⟩ := hbeginning
    · exact Nat.zero_le _
    · have hall := hrest inner hinner
      have hstep := levelAfter_add_pops hplain hopen
      rw [pops_cons, pushes_cons]
      omega

/-- Steps that stay succeed. -/
lemma exists_reaches (hplain : ∀ step ∈ done, step.isPlain = true) (hstays : Stays buffer.level done) :
    ∃ now, Reaches buffer done now := by
  induction done generalizing buffer with
  | nil => exact ⟨buffer, rfl, rfl, (List.append_nil _).symm⟩
  | cons step rest ih =>
      rw [List.forall_mem_cons] at hplain
      obtain ⟨hopen, hrest⟩ := (stays_cons_iff hplain.1).mp hstays
      have hrun := Step.gives_plain hplain.1 hopen buffer.lines
      obtain ⟨now, hnow⟩ := @ih ⟨step.levelAfter buffer.level, _⟩ hplain.2 hrest
      refine ⟨now, run_bind hrun hnow.runs, ?_, ?_⟩
      · have hlevel : now.level + pops rest = step.levelAfter buffer.level + pushes rest := hnow.level
        have hstep := levelAfter_add_pops hplain.1 hopen
        rw [pops_cons, pushes_cons]
        omega
      · rw [hnow.lines, linesFrom_cons hplain.1 hopen, ← List.append_assoc]
        simp [Buffer.writtenLines, written_text]

/-- Steps that do not stay have a first one that leaves the outermost level. -/
lemma stays_or_exists_pop (level : ℕ) {steps : List Step} (hplain : ∀ step ∈ steps, step.isPlain = true) :
    Stays level steps ∨ ∃ done rest, steps = done ++ .pop :: rest ∧ Stays level done ∧
      pops done = level + pushes done := by
  induction steps generalizing level with
  | nil =>
      refine .inl fun beginning hbeginning => ?_
      rw [List.prefix_nil.mp hbeginning]
      exact Nat.zero_le _
  | cons step rest ih =>
      rw [List.forall_mem_cons] at hplain
      by_cases hopen : step = .pop → 0 < level
      · obtain hrest | ⟨done, later, rfl, hdone, hcount⟩ := ih (step.levelAfter level) hplain.2
        · exact .inl ((stays_cons_iff hplain.1).mpr ⟨hopen, hrest⟩)
        · refine .inr ⟨step :: done, later, rfl, (stays_cons_iff hplain.1).mpr ⟨hopen, hdone⟩, ?_⟩
          have hstep := levelAfter_add_pops hplain.1 hopen
          rw [pops_cons, pushes_cons]
          omega
      · push Not at hopen
        obtain ⟨rfl, hlevel⟩ := hopen
        refine .inr ⟨[], rest, rfl, fun beginning hbeginning => ?_, ?_⟩
        · rw [List.prefix_nil.mp hbeginning]
          exact Nat.zero_le _
        · rw [Nat.le_zero.mp hlevel]
          rfl

/-- Where the first step that leaves the outermost level stands, everything ends. -/
lemma Reaches.runAll_pop (h : Reaches buffer done now) (hcount : pops done = buffer.level + pushes done)
    (rest : List Step) : now.level = 0 ∧ runAll (done ++ .pop :: rest) buffer = .error .indentUnderflow now := by
  have hlevel : now.level = 0 := by
    have hcounted := h.level
    omega
  refine ⟨hlevel, ?_⟩
  rw [runAll_append, run_bind_ok h.runs]
  exact run_bind_error (run_pop_outermost hlevel)

/-- Steps without bodies succeed and stay, or they crash where the first one leaves the outermost level. -/
lemma reaches_or_underflows (buffer : Buffer) {steps : List Step}
    (hplain : ∀ step ∈ steps, step.isPlain = true) :
    (Stays buffer.level steps ∧ ∃ now, Reaches buffer steps now) ∨
      ∃ done rest now, steps = done ++ .pop :: rest ∧ Stays buffer.level done ∧
        pops done = buffer.level + pushes done ∧ Reaches buffer done now ∧ now.level = 0 ∧
        runAll steps buffer = .error .indentUnderflow now := by
  obtain hstays | ⟨done, rest, rfl, hstays, hcount⟩ := stays_or_exists_pop buffer.level hplain
  · exact .inl ⟨hstays, exists_reaches hplain hstays⟩
  · obtain ⟨now, hnow⟩ := exists_reaches (fun step hmem => hplain step (List.mem_append_left _ hmem)) hstays
    exact .inr ⟨done, rest, now, rfl, hstays, hcount, hnow, hnow.runAll_pop hcount rest⟩

end

/-! ### Every step -/

/-- A step runs as the steps do that it unfolds into. It crashes if and only if some beginning of these
leaves more levels than were open. Then what was done before the first step that leaves the outermost
level is kept, and nothing comes after it. At every moment the level is the first one with the pushes and
without the pops so far, and each line stands behind four blanks for each level of its moment, unless it
is empty. -/
theorem run_flattened (step : Step) (buffer : Buffer) :
    ((∀ plain ∈ step.flatten, plain.isPlain = true) ∧ step.run buffer = runAll step.flatten buffer) ∧
      ((∃ after, step.run buffer = .error .indentUnderflow after) ↔
        ∃ beginning, beginning <+: step.flatten ∧ buffer.level + pushes beginning < pops beginning) ∧
      (∀ crash after, step.run buffer = .error crash after →
        crash = .indentUnderflow ∧ after.level = 0 ∧ ∃ done rest, step.flatten = done ++ .pop :: rest ∧
          Stays buffer.level done ∧ pops done = buffer.level + pushes done ∧ Reaches buffer done after) ∧
      (∀ after, step.run buffer = .ok () after → Reaches buffer step.flatten after) ∧
      ∀ done, done <+: step.flatten → Stays buffer.level done → ∃ now, Reaches buffer done now := by
  have hplain : ∀ plain ∈ step.flatten, plain.isPlain = true :=
    List.all_eq_true.mp step.all_isPlain_flatten
  have hrun : step.run buffer = runAll step.flatten buffer := by rw [step.runAll_flatten]
  have hreaches : ∀ done, done <+: step.flatten → Stays buffer.level done →
      ∃ now, Reaches buffer done now := fun done hdone hstays =>
    exists_reaches (fun plain hmem => hplain plain (hdone.subset hmem)) hstays
  rw [hrun]
  obtain ⟨hstays, now, hnow⟩ | ⟨done, rest, now, hsplit, hstays, hcount, hnow, hlevel, hcrash⟩ :=
    reaches_or_underflows buffer hplain
  · -- no beginning leaves too much, and the run succeeds
    refine ⟨⟨hplain, rfl⟩, ⟨?_, ?_⟩, ?_, ?_, hreaches⟩
    · rintro ⟨after, hafter⟩
      rw [hnow.runs] at hafter
      cases hafter
    · rintro ⟨beginning, hbeginning, htoo⟩
      exact absurd (hstays beginning hbeginning) (Nat.not_le.mpr htoo)
    · intro crash after hafter
      rw [hnow.runs] at hafter
      cases hafter
    · intro after hafter
      rw [hnow.runs] at hafter
      cases hafter
      exact hnow
  · -- the step after `done` leaves the outermost level
    refine ⟨⟨hplain, rfl⟩, ⟨fun _ => ⟨done ++ [.pop], ?_, ?_⟩, fun _ => ⟨now, hcrash⟩⟩, ?_, ?_, hreaches⟩
    · exact ⟨rest, by rw [hsplit, List.append_assoc]; rfl⟩
    · have hpop : pushes (done ++ [.pop]) = pushes done ∧ pops (done ++ [.pop]) = pops done + 1 :=
        ⟨List.countP_append, List.countP_append⟩
      omega
    · intro crash after hafter
      rw [hcrash] at hafter
      cases hafter
      exact ⟨rfl, hlevel, done, rest, hsplit, hstays, hcount, hnow⟩
    · intro after hafter
      rw [hcrash] at hafter
      cases hafter

/-- A body that leaves the level of its block makes the end of the block crash, and the tail is missing. -/
example : (Step.block "f" "\x7d" [.pop, .line "x"]).run .empty =
    .error .indentUnderflow ⟨0, #[.text 0 "f \x7b", .text 0 "x"]⟩ := by
  rfl

end LaneKernels.Layout
