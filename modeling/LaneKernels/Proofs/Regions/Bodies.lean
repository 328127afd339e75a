import Mathlib.Tactic
import LaneKernels.Proofs.Inventory.Texts

/-!
The lines of a text inside and outside of some of its regions.

* `outside` leaves the bodies of some regions out of a text, up to the next marker, and keeps the
  markers. What it leaves out of a region is what `section?` reads of it.
* `Bare` texts are no markers. Lines further in than the margin are bare, and so is what begins like
  documentation or like code (`Bare.of_heads`).
* `markersIn` lists the markers among lines. Those of a region are its own around those of its body, and
  laid-out steps write none. Of lines that are `Evident`, those that look like markers are the markers.
* `Frames` says what is kept of written lines: all of bare lines, and of a region its markers with or
  without its body.
* `section?_eq`: of a region that is opened in one place, the lines between its markers are read.
-/

namespace LaneKernels.Region

open Layout (Line linesAt blockHead commentLine)
open Inventory (regionLines written_marker heads_docLines deep_linesAt)

/-! ### Reading outside of regions -/

/-- Whether a line opens one of some regions. -/
def opensOneOf (names : List String) (line : String) : Bool :=
  names.any fun name => line = (Marker.opening name).text

/-- The lines outside of the bodies of some regions, from a place on that is in such a body or not. The
body ends at the next marker. -/
def outsideFrom (names : List String) : Bool → List String → List String
  | _, [] => []
  | inside, line :: rest =>
    if inside && !isMarkerLine line then outsideFrom names true rest
    else line :: outsideFrom names (opensOneOf names line) rest

/-- The lines of a text outside of the bodies of some regions. -/
def outside (names : List String) (text : String) : List String :=
  outsideFrom names false (textLines text)

/-! ### Markers and other lines -/

/-- A text that is no marker. -/
def Bare (text : String) : Prop :=
  isMarkerLine text = false

lemma isMarkerLine_text (marker : Marker) : isMarkerLine marker.text = true := by
  cases marker with
  | closing =>
      have hclosing : Marker.closing.text.startsWith "// endregion:" = true := by
        rw [String.startsWith_string_iff]
        exact List.prefix_rfl
      rw [isMarkerLine, hclosing, Bool.or_true]
  | opening name =>
      have hopening : (Marker.opening name).text.startsWith "// region:" = true := by
        rw [String.startsWith_string_iff]
        exact ⟨' ' :: name.toList, (String.toList_append (s := "// region: ")).symm⟩
      rw [isMarkerLine, hopening, Bool.true_or]

lemma text_injective : Function.Injective Marker.text := by
  have htext : ∀ name, (Marker.opening name).text.toList = "// region: ".toList ++ name.toList :=
    fun name => String.toList_append
  have hne : ∀ name, (Marker.opening name).text ≠ Marker.closing.text := by
    intro name heq
    have hchars := htext name
    rw [heq] at hchars
    exact absurd (congrArg (·[3]?) hchars) (by simp [Marker.text])
  intro marker other heq
  cases marker with
  | closing =>
      cases other with
      | closing => rfl
      | opening name => exact absurd heq.symm (hne name)
  | opening name =>
      cases other with
      | closing => exact absurd heq (hne name)
      | opening name' =>
          have hchars := congrArg String.toList heq
          rw [htext, htext, List.append_cancel_left_eq, String.toList_inj] at hchars
          rw [hchars]

/-- Whether two texts differ before either ends. -/
def apart (chars start : List Char) : Bool :=
  (chars.zip start).any fun (c, d) => c ≠ d

lemma not_prefix_of_apart {chars start rest : List Char} (h : apart chars start = true) :
    ¬start <+: chars ++ rest := by
  induction chars generalizing start with
  | nil => exact absurd h Bool.false_ne_true
  | cons c chars ih =>
      cases start with
      | nil => exact absurd h Bool.false_ne_true
      | cons d start =>
          rw [List.cons_append, List.cons_prefix_cons]
          rintro ⟨rfl, hprefix⟩
          refine ih ?_ hprefix
          simpa [apart] using h

/-- A text whose first characters are those of no marker is no marker. -/
lemma Bare.of_heads {chars : List Char} {text : String} (h : Heads chars text)
    (hopening : apart chars "// region:".toList = true)
    (hclosing : apart chars "// endregion:".toList = true) : Bare text := by
  obtain ⟨rest, hrest⟩ := h
  rw [Bare, isMarkerLine, Bool.or_eq_false_iff, String.startsWith_string_eq_false_iff,
    String.startsWith_string_eq_false_iff, hrest]
  exact ⟨not_prefix_of_apart hopening, not_prefix_of_apart hclosing⟩

lemma Bare.of_first {c : Char} {text : String} (hc : c ≠ '/') (h : Heads [c] text) : Bare text :=
  .of_heads h (by simpa [apart] using hc) (by simpa [apart] using hc)

lemma Bare.of_doc {text : String} (h : Heads ['/', '/', '/'] text) : Bare text :=
  .of_heads h (by decide) (by decide)

lemma bare_empty : Bare "" := by
  rfl

lemma written_margin (content : String) : (Line.text 0 content).written = content := by
  have hmargin : Layout.margin 0 = "" := String.ofList_nil
  rw [Line.written, hmargin, String.empty_append, ite_self]

/-- A line further in than the margin is no marker. -/
lemma bare_deep {level : ℕ} (hlevel : 0 < level) (content : String) :
    Bare (Line.text level content).written := by
  rw [Line.written]
  split
  · next hempty =>
      rw [String.isEmpty_iff.mp hempty]
      exact bare_empty
  · obtain ⟨further, rfl⟩ := Nat.exists_eq_succ_of_ne_zero (Nat.ne_of_gt hlevel)
    have hblanks : Heads [' '] (Layout.margin (further + 1)) :=
      ⟨List.replicate (4 * further + 3) ' ', by rw [Layout.margin, String.toList_ofList]; rfl⟩
    exact .of_first (by decide) (hblanks.append content)

/-- Whether what a step writes at the margin is no marker. -/
def StartsBare : Layout.Step → Prop
  | .line text => Bare text
  | .comment text => Bare (commentLine text)
  | .block head tail _ => Bare (blockHead head) ∧ Bare tail
  | .push | .pop | .blank | .doc _ | .indent _ => True

lemma StartsBare.bare {step : Layout.Step} (h : StartsBare step) :
    ∀ line ∈ step.linesAt 0, Bare line.written := by
  have hbody : ∀ body : List Layout.Step, ∀ line ∈ linesAt body 1, Bare line.written := by
    intro body line hline
    obtain ⟨further, content, hle, rfl⟩ := deep_linesAt body 1 line hline
    exact bare_deep hle content
  cases step with
  | push | pop => exact fun line hline => absurd hline List.not_mem_nil
  | line | comment =>
      intro line hline
      rw [List.mem_singleton.mp hline, written_margin]
      exact h
  | blank =>
      intro line hline
      rw [List.mem_singleton.mp hline, written_margin]
      exact bare_empty
  | doc text =>
      intro line hline
      obtain ⟨content, hcontent, rfl⟩ := List.mem_map.mp hline
      rw [written_margin]
      exact .of_doc (heads_docLines hcontent)
  | indent body => exact hbody body
  | block head tail body =>
      rw [Layout.Step.linesAt, List.forall_mem_cons, List.forall_mem_append, List.forall_mem_singleton,
        written_margin, written_margin]
      exact ⟨h.1, hbody body, h.2⟩

lemma bare_linesAt {steps : List Layout.Step} (h : ∀ step ∈ steps, StartsBare step) :
    ∀ line ∈ linesAt steps 0, Bare line.written := by
  rw [Layout.linesAt_eq_flatMap, List.forall_mem_flatMap]
  exact fun step hstep => (h step hstep).bare

/-! ### The markers among lines -/

/-- The marker that a line is, if it is one. -/
def marker? : Line → Option Marker
  | .text .. => none
  | .marker _ marker => some marker

/-- The markers among lines, on whatever levels they stand. -/
def markersIn (lines : List Line) : List Marker :=
  lines.filterMap marker?

/-- The markers of a region with some markers in its body. -/
def regionMarkers (name : String) (inner : List Marker) : List Marker :=
  Marker.opening name :: (inner ++ [Marker.closing])

lemma markersIn_append (lines more : List Line) :
    markersIn (lines ++ more) = markersIn lines ++ markersIn more :=
  List.filterMap_append

lemma markersIn_flatMap {α : Type} (lines : α → List Line) (xs : List α) :
    markersIn (xs.flatMap lines) = xs.flatMap fun x => markersIn (lines x) :=
  List.filterMap_flatMap

/-- Laid-out steps write no markers. -/
lemma markersIn_linesAt (steps : List Layout.Step) (level : ℕ) :
    markersIn (linesAt steps level) = [] := by
  rw [markersIn, List.filterMap_eq_nil_iff]
  intro line hline
  obtain ⟨further, content, -, rfl⟩ := deep_linesAt steps level line hline
  rfl

lemma markersIn_regionLines (name : String) (body : List Line) :
    markersIn (regionLines name body) = regionMarkers name (markersIn body) := by
  simp [markersIn, regionMarkers, regionLines, marker?]

/-- The line as it is written shows what it is: no marker, or one at the margin. -/
def Evident (line : Line) : Prop :=
  (marker? line = none ∧ Bare line.written) ∨ ∃ marker, line = .marker 0 marker

lemma evident_of_bare {lines : List Line} (h : ∀ line ∈ lines, Bare line.written)
    (hmarkers : markersIn lines = []) : ∀ line ∈ lines, Evident line :=
  fun line hline => .inl ⟨List.filterMap_eq_nil_iff.mp hmarkers line hline, h line hline⟩

lemma evident_regionLines {name : String} {body : List Line} (h : ∀ line ∈ body, Evident line) :
    ∀ line ∈ regionLines name body, Evident line := by
  have hblank : Bare (Line.text 0 "").written := by
    rw [written_margin]
    exact bare_empty
  simp only [regionLines, List.forall_mem_cons, List.forall_mem_append]
  exact ⟨.inr ⟨_, rfl⟩, h, .inr ⟨_, rfl⟩, .inl ⟨rfl, hblank⟩, fun _ hline => absurd hline List.not_mem_nil⟩

/-- Of evident lines, those that look like markers are the markers. -/
lemma filter_isMarkerLine {lines : List Line} (h : ∀ line ∈ lines, Evident line) :
    (lines.map Line.written).filter isMarkerLine = (markersIn lines).map Marker.text := by
  induction lines with
  | nil => rfl
  | cons line lines ih =>
      rw [List.forall_mem_cons] at h
      rw [List.map_cons, List.filter_cons, ih h.2]
      obtain ⟨hnone, hbare⟩ | ⟨marker, rfl⟩ := h.1
      · rw [show isMarkerLine line.written = false from hbare, markersIn, markersIn,
          List.filterMap_cons_none hnone]
        rfl
      · rw [written_marker, written_margin, if_pos (isMarkerLine_text marker)]
        rfl

/-! ### What is kept of written lines -/

/-- What is kept of the lines, when some regions are left out, whatever stands behind them. -/
def Frames (names : List String) (lines : List Line) (kept : List String) : Prop :=
  ∀ rest, outsideFrom names false (lines.map Line.written ++ rest) =
    kept ++ outsideFrom names false rest

section

variable {names : List String} {lines more body : List Line} {kept others : List String} {name : String}

lemma opensOneOf_bare {text : String} (h : Bare text) : opensOneOf names text = false := by
  rw [opensOneOf, List.any_eq_false]
  intro name _ heq
  rw [of_decide_eq_true heq, Bare, isMarkerLine_text] at h
  cases h

lemma outsideFrom_marker (inside : Bool) (marker : Marker) (rest : List String) :
    outsideFrom names inside (marker.text :: rest) =
      marker.text :: outsideFrom names (opensOneOf names marker.text) rest := by
  rw [outsideFrom, isMarkerLine_text, Bool.not_true, Bool.and_false]
  rfl

lemma Frames.append (h : Frames names lines kept) (hmore : Frames names more others) :
    Frames names (lines ++ more) (kept ++ others) := by
  intro rest
  rw [List.map_append, List.append_assoc, h, hmore, List.append_assoc]

lemma frames_flatMap {α : Type} {xs : List α} {lines : α → List Line} {kept : α → List String}
    (h : ∀ x ∈ xs, Frames names (lines x) (kept x)) :
    Frames names (xs.flatMap lines) (xs.flatMap kept) := by
  induction xs with
  | nil => exact fun _ => rfl
  | cons x xs ih =>
      rw [List.forall_mem_cons] at h
      rw [List.flatMap_cons, List.flatMap_cons]
      exact h.1.append (ih h.2)

/-- Lines that are no markers are kept. -/
lemma frames_bare (h : ∀ line ∈ lines, Bare line.written) :
    Frames names lines (lines.map Line.written) := by
  intro rest
  induction lines with
  | nil => rfl
  | cons line lines ih =>
      rw [List.forall_mem_cons] at h
      rw [List.map_cons, List.cons_append, outsideFrom, opensOneOf_bare h.1, Bool.false_and, ih h.2]
      rfl

/-- The body of a region that is left out is passed over. -/
lemma outsideFrom_inside (h : ∀ line ∈ body, Bare line.written) (rest : List String) :
    outsideFrom names true (body.map Line.written ++ rest) = outsideFrom names true rest := by
  induction body with
  | nil => rfl
  | cons line body ih =>
      rw [List.forall_mem_cons] at h
      have hline : isMarkerLine line.written = false := h.1
      rw [List.map_cons, List.cons_append, outsideFrom, hline, ← ih h.2]
      rfl

lemma map_written_regionLines (name : String) (body : List Line) :
    (regionLines name body).map Line.written = (Marker.opening name).text ::
      (body.map Line.written ++ [Marker.closing.text, ""]) := by
  simp only [regionLines, List.map_cons, List.map_append, List.map_nil, written_marker, written_margin]

lemma outsideFrom_closing (inside : Bool) (rest : List String) :
    outsideFrom names inside (Marker.closing.text :: "" :: rest) =
      Marker.closing.text :: "" :: outsideFrom names false rest := by
  have hclosing : opensOneOf names Marker.closing.text = false := by
    rw [opensOneOf, List.any_eq_false]
    intro name _ heq
    cases text_injective (of_decide_eq_true heq)
  rw [outsideFrom_marker, hclosing, outsideFrom, opensOneOf_bare bare_empty, Bool.false_and]
  rfl

/-- Of a region that is left out the markers are kept. -/
lemma frames_left_out (hname : name ∈ names) (h : ∀ line ∈ body, Bare line.written) :
    Frames names (regionLines name body) [(Marker.opening name).text, Marker.closing.text, ""] := by
  have hopening : opensOneOf names (Marker.opening name).text = true :=
    List.any_eq_true.mpr ⟨name, hname, decide_eq_true rfl⟩
  intro rest
  rw [map_written_regionLines, List.cons_append, List.append_assoc, outsideFrom_marker, hopening,
    outsideFrom_inside h]
  exact congrArg _ (outsideFrom_closing true rest)

/-- Of any other region the markers are kept with what is kept of its body. -/
lemma Frames.region (hname : name ∉ names) (h : Frames names body kept) :
    Frames names (regionLines name body)
      ((Marker.opening name).text :: (kept ++ [Marker.closing.text, ""])) := by
  have hopening : opensOneOf names (Marker.opening name).text = false := by
    rw [opensOneOf, List.any_eq_false]
    intro other hother heq
    cases text_injective (of_decide_eq_true heq)
    exact hname hother
  intro rest
  have hclosing : outsideFrom names false (Marker.closing.text :: "" :: rest) = _ :=
    outsideFrom_closing false rest
  rw [map_written_regionLines, List.cons_append, List.append_assoc, outsideFrom_marker, hopening, h]
  simp only [List.cons_append, List.nil_append, List.append_assoc, hclosing]

end

/-! ### One region -/

/-- The names of the regions that lines open. -/
def openedNames (lines : List Line) : List String :=
  lines.filterMap fun
    | .marker _ (.opening name) => some name
    | _ => none

/-- The regions that lines open are those of their opening markers. -/
lemma openedNames_eq (lines : List Line) : openedNames lines = (markersIn lines).filterMap fun
    | .opening name => some name
    | .closing => none := by
  rw [openedNames, markersIn, List.filterMap_filterMap]
  refine List.filterMap_congr fun line _ => ?_
  cases line with
  | text level content => rfl
  | marker level marker => cases marker <;> rfl

/-- The lines of a region are those of its body, if no region of its name is opened before. -/
lemma section?_eq {text name : String} {front body rest : List Line} (hne : name.isEmpty = false)
    (htext : textLines text = (front ++ (regionLines name body ++ rest)).map Line.written)
    (hfront : ∀ line ∈ front, Evident line)
    (hname : name ∉ openedNames front)
    (hbody : ∀ line ∈ body, Bare line.written) : section? name text = some (body.map Line.written) := by
  have hbefore : ∀ line ∈ front.map Line.written,
      decide (line ≠ (Marker.opening name).text) = true := by
    rw [List.forall_mem_map]
    intro line hline
    rw [decide_eq_true_eq]
    intro heq
    obtain ⟨-, hbare⟩ | ⟨marker, rfl⟩ := hfront line hline
    · rw [heq, Bare, isMarkerLine_text] at hbare
      cases hbare
    · rw [written_marker, written_margin] at heq
      rw [text_injective heq] at hline
      exact hname (List.mem_filterMap.mpr ⟨_, hline, rfl⟩)
  have hinside : ∀ line ∈ body.map Line.written, (!isMarkerLine line) = true := by
    rw [List.forall_mem_map]
    intro line hline
    rw [show isMarkerLine line.written = false from hbody line hline, Bool.not_false]
  have hdrop : (textLines text).dropWhile (· ≠ (Marker.opening name).text) =
      (Marker.opening name).text :: (body.map Line.written ++
        Marker.closing.text :: "" :: rest.map Line.written) := by
    rw [htext, List.map_append, List.map_append, map_written_regionLines,
      List.dropWhile_append_of_pos hbefore, List.cons_append, List.dropWhile_cons_of_neg (by simp),
      List.append_assoc]
    rfl
  rw [section?, hne, hdrop]
  show some (upToMarker _) = _
  rw [upToMarker, List.takeWhile_append_of_pos hinside,
    List.takeWhile_cons_of_neg (by simp [isMarkerLine_text]), List.append_nil]

end LaneKernels.Region
