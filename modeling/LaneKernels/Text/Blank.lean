/-!
Blank characters, and texts without the blanks around them.

* `isBlank` holds of the 25 characters with the Unicode property White_Space; it covers core's class
  (`isBlank_of_isWhitespace`).
* `trim` drops the blanks at both ends and nothing else: what it leaves neither starts nor ends with a
  blank (`head?_trim`, `getLast?_trim`).
-/

namespace LaneKernels.Text

/-- The ranges of code points with the Unicode property White_Space, both ends included. -/
def blankRanges : List (Nat × Nat) :=
  [(0x9, 0xD), (0x20, 0x20), (0x85, 0x85), (0xA0, 0xA0), (0x1680, 0x1680), (0x2000, 0x200A),
    (0x2028, 0x2029), (0x202F, 0x202F), (0x205F, 0x205F), (0x3000, 0x3000)]

/-- Whether a character has the Unicode property White_Space. -/
def isBlank (c : Char) : Bool :=
  blankRanges.any fun (first, last) => first ≤ c.toNat && c.toNat ≤ last

theorem isBlank_of_isWhitespace {c : Char} (h : c.isWhitespace = true) : isBlank c = true := by
  simp only [Char.isWhitespace, Bool.or_eq_true, decide_eq_true_eq] at h
  rcases h with ((rfl | rfl) | rfl) | rfl <;> decide

/-- The text without the blanks before its first other character. -/
def trimLeft (text : List Char) : List Char :=
  text.dropWhile isBlank

/-- The text without the blanks after its last other character. -/
def trimRight (text : List Char) : List Char :=
  (trimLeft text.reverse).reverse

/-- The text without the blanks at its ends. -/
def trim (text : List Char) : List Char :=
  trimRight (trimLeft text)

theorem head?_trimLeft {text : List Char} {c : Char} (h : (trimLeft text).head? = some c) :
    isBlank c = false := by
  have := List.head?_dropWhile_not isBlank text
  simp only [trimLeft] at h
  rw [h] at this
  simpa using this

theorem getLast?_trim {text : List Char} {c : Char} (h : (trim text).getLast? = some c) :
    isBlank c = false := by
  rw [trim, trimRight, List.getLast?_reverse] at h
  exact head?_trimLeft h

theorem trimRight_isPrefixOf (text : List Char) : trimRight text <+: text := by
  rw [trimRight, ← List.reverse_suffix, List.reverse_reverse]
  exact List.dropWhile_suffix isBlank

theorem head?_trim {text : List Char} {c : Char} (h : (trim text).head? = some c) :
    isBlank c = false := by
  obtain ⟨rest, hrest⟩ := trimRight_isPrefixOf (trimLeft text)
  have hfirst : (trimLeft text).head? = some c := by
    rw [← hrest, ← trim, List.head?_append, h, Option.some_or]
  exact head?_trimLeft hfirst

end LaneKernels.Text
