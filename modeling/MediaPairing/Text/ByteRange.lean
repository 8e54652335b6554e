import MediaPairing.Text.CodeRange

/-!
# Byte ranges of UTF-8

The encodings of the characters of a range, as few sequences of byte ranges: one sequence
stands for all byte strings that take each byte from its range.

* `ByteRange.sequences` lists the sequences in ascending order. A range is cut where the
  length of the encoding changes, at the surrogates, and where a continuation byte would
  otherwise run through only part of its values under a varying byte before it.
-/

namespace MediaPairing

/-- A range of bytes, ends included. -/
structure ByteRange where
  first : Nat
  last : Nat
deriving DecidableEq

namespace ByteRange

/-- The bytes of the code point `n`. -/
def bytesOf (n : Nat) : List Nat :=
  if n < 0x80 then [n]
  else if n < 0x800 then [0xC0 + n / 64, 0x80 + n % 64]
  else if n < 0x10000 then [0xE0 + n / 4096, 0x80 + n / 64 % 64, 0x80 + n % 64]
  else [0xF0 + n / 262144, 0x80 + n / 4096 % 64, 0x80 + n / 64 % 64, 0x80 + n % 64]

/-- The ranges within which all encodings have the same length. -/
def lengthClasses : CodeRanges :=
  [(0, 0x7F), (0x80, 0x7FF), (0x800, 0xD7FF), (0xE000, 0xFFFF), (0x10000, 0x10FFFF)]

/-- How many code points share all but the last byte, the last two, or the last three. -/
def blockSizes : List Nat := [64, 4096, 262144]

/-- The pieces of a range between which no byte has to vary together with a later one. The
ends of the range are blocks of the sizes before those in the list. -/
def pieces : List Nat → Nat → Nat → CodeRanges
  | [], first, last => [(first, last)]
  | size :: sizes, first, last =>
    if first / size = last / size then [(first, last)]
    else
      let start := if first % size = 0 then first else first - first % size + size
      let stop := if last % size = size - 1 then last + 1 else last - last % size
      let before := if first < start then [(first, start - 1)] else []
      let after := if stop ≤ last then [(stop, last)] else []
      let between := if start < stop then pieces sizes start (stop - 1) else []
      before ++ between ++ after

/-- The sequence of a piece. -/
def sequence (piece : Nat × Nat) : List ByteRange :=
  List.zipWith ByteRange.mk (bytesOf piece.1) (bytesOf piece.2)

/-- The part of a range in which all encodings have the same length, as sequences. -/
def sequencesWithin (range lengthClass : Nat × Nat) : List (List ByteRange) :=
  let first := max range.1 lengthClass.1
  let last := min range.2 lengthClass.2
  if last < first then []
  else if last < 0x80 then [[⟨first, last⟩]]
  else (pieces blockSizes first last).map sequence

/-- The encodings of all characters of ascending ranges. -/
def sequences (ranges : CodeRanges) : List (List ByteRange) :=
  ranges.flatMap fun r => lengthClasses.flatMap (sequencesWithin r)

end ByteRange

end MediaPairing
