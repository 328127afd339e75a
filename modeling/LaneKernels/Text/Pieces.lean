/-!
Cutting a text into pieces.

* `pieces` cuts at every occurrence of a separator, so `n` separators give `n + 1` pieces
  (`length_pieces`), and putting the separators back gives the text again (`intercalate_pieces`). The
  pieces of a text are those on both sides of a separator in it (`pieces_append_separator`).
* `lines` cuts behind every line feed: a line ends with a line feed or with a carriage return and a
  line feed, neither of which belongs to it; a terminator at the end opens no further line, and a lone
  carriage return is an ordinary character. No line holds a line feed (`not_mem_of_mem_lines`).
-/

namespace LaneKernels.Text

/-- Puts a character before the pieces of the text behind it. -/
def pushFront (separator c : Char) : List (List Char) → List (List Char)
  | [] => [[c]]
  | piece :: more => if c = separator then [] :: piece :: more else (c :: piece) :: more

/-- The pieces of a text between the occurrences of a separator. -/
def pieces (separator : Char) (text : List Char) : List (List Char) :=
  text.foldr (pushFront separator) [[]]

@[simp] theorem pieces_nil (separator : Char) : pieces separator [] = [[]] := rfl

@[simp] theorem pieces_cons (separator c : Char) (rest : List Char) :
    pieces separator (c :: rest) = pushFront separator c (pieces separator rest) := rfl

theorem pieces_ne_nil (separator : Char) (text : List Char) : pieces separator text ≠ [] := by
  cases text with
  | nil => simp
  | cons c rest =>
    rw [pieces_cons, pushFront.eq_def]
    split
    · simp
    · split <;> simp

theorem length_pieces (separator : Char) (text : List Char) :
    (pieces separator text).length = text.count separator + 1 := by
  induction text with
  | nil => simp
  | cons c rest ih =>
    obtain ⟨piece, more, hp⟩ := List.exists_cons_of_ne_nil (pieces_ne_nil separator rest)
    rw [hp] at ih
    rw [pieces_cons, hp, pushFront]
    by_cases h : c = separator
    · simp [h, ← ih]
    · rw [if_neg h, List.count_cons_of_ne h, ← ih, List.length_cons, List.length_cons]

theorem intercalate_pieces (separator : Char) (text : List Char) :
    [separator].intercalate (pieces separator text) = text := by
  induction text with
  | nil => simp [List.intercalate]
  | cons c rest ih =>
    obtain ⟨piece, more, hp⟩ := List.exists_cons_of_ne_nil (pieces_ne_nil separator rest)
    rw [hp] at ih
    rw [pieces_cons, hp, pushFront]
    by_cases h : c = separator
    · simpa [List.intercalate, h] using ih
    · rw [if_neg h]
      cases more <;> simpa [List.intercalate] using ih

theorem pieces_append_separator (separator : Char) (front rest : List Char) :
    pieces separator (front ++ separator :: rest) =
      pieces separator front ++ pieces separator rest := by
  induction front with
  | nil =>
    obtain ⟨first, more, hp⟩ := List.exists_cons_of_ne_nil (pieces_ne_nil separator rest)
    rw [List.nil_append, pieces_cons, hp, pushFront, if_pos rfl]
    rfl
  | cons c front ih =>
    obtain ⟨first, more, hp⟩ := List.exists_cons_of_ne_nil (pieces_ne_nil separator front)
    rw [List.cons_append, pieces_cons, pieces_cons, ih, hp, List.cons_append, pushFront, pushFront]
    split <;> rfl

/-- A text without the separator is its only piece. -/
theorem pieces_of_not_mem {separator : Char} {text : List Char} (h : separator ∉ text) :
    pieces separator text = [text] := by
  induction text with
  | nil => rfl
  | cons c rest ih =>
    rw [List.mem_cons, not_or] at h
    rw [pieces_cons, ih h.2, pushFront, if_neg (Ne.symm h.1)]

/-- The lines of a text, without their terminators. -/
def lines : List Char → List (List Char)
  | [] => []
  | '\n' :: rest => [] :: lines rest
  | '\r' :: '\n' :: rest => [] :: lines rest
  | c :: rest =>
    match lines rest with
    | [] => [[c]]
    | line :: more => (c :: line) :: more

theorem not_mem_of_mem_lines {text line : List Char} (h : line ∈ lines text) : '\n' ∉ line := by
  fun_induction lines text generalizing line with
  | case1 => simp at h
  | case2 rest ih | case3 rest ih =>
    rcases List.mem_cons.mp h with rfl | h
    · simp
    · exact ih h
  | case4 c rest hc _ hnil _ =>
    rw [List.mem_singleton.mp h, List.mem_singleton]
    exact fun e => hc e.symm
  | case5 c rest hc _ first more hlines ih =>
    rw [hlines] at ih
    rcases List.mem_cons.mp h with rfl | h
    · rw [List.mem_cons, not_or]
      exact ⟨fun e => hc e.symm, ih List.mem_cons_self⟩
    · exact ih (List.mem_cons_of_mem _ h)

end LaneKernels.Text
