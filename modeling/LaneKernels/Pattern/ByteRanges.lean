import LaneKernels.Pattern.CharSet

/-!
Sets of characters as sequences of byte ranges.

The encoding of a character has up to four bytes. `CharSet.byteSequences` cuts a set into pieces of which
each is all the encodings that take their first byte from one range, their second from another, and so on.
-/

namespace LaneKernels.Pattern

/-- The greatest code points that take one, two and three bytes. -/
def widthBounds : List Nat :=
  [0x7F, 0x7FF, 0xFFFF]

/-- The number of values of one, two and three bytes behind the first. -/
def tailSizes : List Nat :=
  [64, 4096, 262144]

namespace CodeRange

/-- The part of a range up to a code point, and the rest. -/
def cutBehind (range : CodeRange) (code : Nat) : List CodeRange :=
  if range.first ≤ code && code < range.last then
    [⟨range.first, code⟩, ⟨code + 1, range.last⟩]
  else [range]

/-- The parts of a range outside the surrogates, which are no characters. -/
def withoutSurrogates (range : CodeRange) : List CodeRange :=
  (CharSet.common? ⟨0, 0xD7FF⟩ range).toList ++
    (CharSet.common? ⟨0xE000, CharSet.lastCode⟩ range).toList

/-- The parts of a range whose characters take the same number of bytes. -/
def byWidth (range : CodeRange) : List CodeRange :=
  widthBounds.foldl (fun parts code => parts.flatMap (·.cutBehind code)) [range]

/-- The parts of a range such that each starts and ends with whole tails of a size, where it has more than
one. -/
def byTail (range : CodeRange) (size : Nat) : List CodeRange :=
  if range.first / size = range.last / size then [range]
  else
    let head := if range.first % size = 0 then [range] else range.cutBehind (range.first / size * size + size - 1)
    head.flatMap fun part =>
      if part.first / size = part.last / size || part.last % size = size - 1 then [part]
      else part.cutBehind (part.last / size * size - 1)

/-- The parts of a range whose encodings take their bytes from ranges. -/
def encodable (range : CodeRange) : List CodeRange :=
  if range.last ≤ 0x7F then [range]
  else tailSizes.foldl (fun parts size => parts.flatMap (·.byTail size)) [range]

/-- The encoding of a code point. -/
def encoding (code : Nat) : List Nat :=
  (String.utf8EncodeChar (Char.ofNat code)).map (·.toNat)

/-- The ranges of the bytes of the encodings of a part. -/
def bytes (range : CodeRange) : List (Nat × Nat) :=
  (encoding range.first).zip (encoding range.last)

end CodeRange

/-- The pieces of a set, each as the ranges of its bytes. -/
def CharSet.byteSequences (set : CharSet) : List (List (Nat × Nat)) :=
  set.ranges.flatMap fun range =>
    ((range.withoutSurrogates.flatMap (·.byWidth)).flatMap (·.encodable)).map (·.bytes)

end LaneKernels.Pattern
