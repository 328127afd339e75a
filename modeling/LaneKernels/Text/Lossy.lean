/-!
Text from bytes that may be none: `lossy` puts the replacement character where the bytes are not those of
a character, once for each longest start of a character (`startLength`). Bytes that encode a text are read as
this text (`fromUTF8?_eq_some_iff`, `lossy_toUTF8`).
-/

namespace LaneKernels.Text

/-- The character that stands for bytes which are none. -/
def replacement : Char :=
  '\ufffd'

/-- The ranges of the bytes that continue a character, by its first byte; none for a byte that is a
character by itself or starts none. -/
def continuations (first : UInt8) : List (UInt8 × UInt8) :=
  let any : UInt8 × UInt8 := (0x80, 0xBF)
  if first < 0xC2 ∨ 0xF4 < first then []
  else if first < 0xE0 then [any]
  else if first = 0xE0 then [(0xA0, 0xBF), any]
  else if first = 0xED then [(0x80, 0x9F), any]
  else if first < 0xF0 then [any, any]
  else if first = 0xF0 then [(0x90, 0xBF), any, any]
  else if first = 0xF4 then [(0x80, 0x8F), any, any]
  else [any, any, any]

/-- How many bytes at the start are in the ranges, in their order. -/
def lengthIn : List (UInt8 × UInt8) → List UInt8 → Nat
  | (low, high) :: ranges, byte :: bytes =>
    if low ≤ byte ∧ byte ≤ high then lengthIn ranges bytes + 1 else 0
  | _, _ => 0

/-- How many bytes behind a first byte belong to it. -/
def startLength (first : UInt8) (rest : List UInt8) : Nat :=
  lengthIn (continuations first) rest

/-- The characters of bytes. -/
def lossyChars : List UInt8 → List Char
  | [] => []
  | first :: rest =>
    let start := first :: rest.take (startLength first rest)
    (ByteArray.mk start.toArray |>.utf8DecodeChar? 0).getD replacement ::
      lossyChars (rest.drop (startLength first rest))
termination_by bytes => bytes.length
decreasing_by
  simp only [List.length_drop, List.length_cons]
  omega

/-- The text of bytes. -/
def lossy (bytes : ByteArray) : String :=
  (String.fromUTF8? bytes).getD (String.ofList (lossyChars bytes.toList))

/-- Bytes are read as the text that they encode, if they encode any. -/
theorem fromUTF8?_eq_some_iff {bytes : ByteArray} {text : String} :
    String.fromUTF8? bytes = some text ↔ text.toUTF8 = bytes := by
  rw [String.fromUTF8?]
  constructor
  · intro h
    split at h
    · cases h
      rfl
    · cases h
  · rintro rfl
    rw [String.toUTF8_eq_toByteArray, dif_pos text.isValidUTF8]
    rfl

/-- The bytes of a text are read as this text. -/
theorem lossy_toUTF8 (text : String) : lossy text.toUTF8 = text := by
  rw [lossy, fromUTF8?_eq_some_iff.mpr rfl, Option.getD_some]

end LaneKernels.Text
