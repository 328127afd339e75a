import Mathlib.Tactic
import LaneKernels.CommandLine.Standard

/-!
What the program takes of its arguments, and what it prints.

* `answer?_eq_none_iff`: a run begins only without arguments, or with a double dash alone. Every other answer
  succeeds with a text for the one who asked, or fails with a text about the mistake (`Answer.IsProper`).
* `plain` shows no control characters but white space (`isShown_of_mem_plain`), and changes nothing in a text
  without others (`plain_eq_self`); so it does no more when it is done twice.
* `printed_of_unset`: without a log setting that is a text, what is printed are the records up to `info`.
-/

namespace LaneKernels

/-! ### Texts for a stream -/

namespace Text

/-- Whatever is kept is shown, also inside of a control sequence. -/
lemma isShown_of_next {reading : Reading} {c : Char} (h : (reading.next c).2 = true) : isShown c = true := by
  cases reading with
  | ground =>
      rw [Reading.next] at h
      split at h
      · exact nomatch h
      · exact h
  | inside sequence =>
      rw [Reading.next] at h
      split at h
      · rename_i hspace
        simp only [Bool.and_eq_true] at hspace
        rw [isShown, hspace.1.2, Bool.or_true]
      · exact nomatch h
  | suspended sequence =>
      rw [Reading.next] at h
      split at h
      · assumption
      · exact nomatch h

lemma isShown_of_mem_plainFrom {reading : Reading} {text : List Char} {c : Char}
    (h : c ∈ plainFrom reading text) : isShown c = true := by
  induction text generalizing reading with
  | nil => exact absurd h List.not_mem_nil
  | cons first rest ih =>
      rw [plainFrom] at h
      split at h
      · rename_i next hnext
        obtain rfl | h := List.mem_cons.mp h
        · exact isShown_of_next (congrArg Prod.snd hnext)
        · exact ih h
      · exact ih h

/-- No control character but white space is left in a plain text. -/
theorem isShown_of_mem_plain {text : String} {c : Char} (h : c ∈ (plain text).toList) : isShown c = true := by
  rw [plain, String.toList_ofList] at h
  exact isShown_of_mem_plainFrom h

lemma plainFrom_ground_of_isShown {text : List Char} (h : ∀ c ∈ text, isShown c = true) :
    plainFrom .ground text = text := by
  induction text with
  | nil => rfl
  | cons c rest ih =>
      obtain ⟨hc, hrest⟩ := List.forall_mem_cons.mp h
      have hescape : c ≠ escapeChar := by
        rintro rfl
        exact absurd hc (by decide)
      have hnext : Reading.ground.next c = (.ground, true) := by
        rw [Reading.next, if_neg hescape, hc]
      rw [plainFrom, hnext]
      exact congrArg (c :: ·) (ih hrest)

/-- A text of shown characters is plain. -/
theorem plain_eq_self {text : String} (h : ∀ c ∈ text.toList, isShown c = true) : plain text = text := by
  rw [plain, plainFrom_ground_of_isShown h, String.ofList_toList]

theorem plain_plain (text : String) : plain (plain text) = plain text :=
  plain_eq_self fun _ => isShown_of_mem_plain

end Text

namespace CommandLine

/-! ### Arguments -/

/-- An answer succeeds and prints no error, or fails and prints nothing else. -/
def Answer.IsProper (answer : Answer) : Prop :=
  answer.code = 0 ∧ answer.stderr = "" ∨ answer.code = 2 ∧ answer.stdout = ""

namespace Request

lemma ofLong_ne_generate (option : List Char) : ofLong option ≠ .ok generate := by
  intro h
  rw [ofLong] at h
  split at h
  · rename_i hrequest _
    cases h
    split at hrequest <;> exact nomatch hrequest
  · exact nomatch h
  · exact nomatch h

/-- No single argument asks for a run. -/
lemma ofArgument_ne_generate (argument : ByteArray) : ofArgument argument ≠ .ok generate := by
  intro h
  rw [ofArgument] at h
  split at h
  · exact ofLong_ne_generate _ h
  · split at h
    · rw [ofShort.eq_def] at h
      split at h <;> exact nomatch h
    · exact nomatch h
  · exact nomatch h

end Request

lemma answer?_eq (arguments : List ByteArray) :
    Interface.standard.answer? arguments =
      match Request.read arguments with
      | .ok request => request.answer?
      | .error mistake => some mistake.answer := rfl

lemma answer?_eq_none_iff_read {arguments : List ByteArray} :
    Interface.standard.answer? arguments = none ↔ Request.read arguments = .ok .generate := by
  rw [answer?_eq]
  cases Request.read arguments with
  | error mistake => simp
  | ok request => cases request <;> simp [Request.answer?]

/-- A run begins only without arguments, or with a double dash alone. -/
theorem answer?_eq_none_iff {arguments : List ByteArray} :
    Interface.standard.answer? arguments = none ↔ arguments = [] ∨ arguments = ["--".toUTF8] := by
  rw [answer?_eq_none_iff_read]
  cases arguments with
  | nil => simp [Request.read]
  | cons argument rest =>
      simp only [Request.read, Text.fromUTF8?_eq_some_iff]
      split
      · rename_i hdash
        cases rest <;> simp [← hdash]
      · rename_i hother
        refine iff_of_false (Request.ofArgument_ne_generate argument) ?_
        rintro (h | h)
        · exact nomatch h
        · exact hother (List.cons.inj h).1.symm

/-- What is answered without a run succeeds for the one who asked, or says what is wrong with the arguments. -/
theorem answer_isProper {arguments : List ByteArray} {answer : Answer}
    (h : Interface.standard.answer? arguments = some answer) : answer.IsProper := by
  rw [answer?_eq] at h
  split at h
  · rename_i request _
    cases request <;> cases h <;> exact .inl ⟨rfl, rfl⟩
  · cases h
    exact .inr ⟨rfl, rfl⟩

/-! ### The log -/

/-- Without a log setting that is a text, what is printed are the records up to `info`, and no warning. -/
theorem printed_of_unset {setting : Option ByteArray} (h : setting.bind String.fromUTF8? = none)
    (record : Log.Record) :
    (Printer.standard setting).greeting = "" ∧
      (Printer.standard setting).printed record =
        if record.isUpTo .info = true then Text.plain record.render else "" := by
  have hinfo : logFilter setting = (⟨[⟨none, some .info⟩], none⟩, []) := by
    rw [logFilter, h]
    decide +kernel
  have hadmits : (logFilter setting).1.admits record = record.isUpTo .info := by
    rw [hinfo]
    simp [Log.Filter.admits, Log.Filter.thresholdFor, Log.Filter.applies]
  constructor
  · rw [Printer.standard, hinfo]
    rfl
  · simp only [Printer.standard, hadmits]

end CommandLine

end LaneKernels
