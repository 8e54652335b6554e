import MediaPairing.Text.CodeRange

/-!
# Blank characters

The White_Space property of Unicode, and trimming by it.

* `trim` drops the blank characters at both ends and keeps those inside.
-/

namespace MediaPairing

/-- The White_Space property. -/
def blankRanges : CodeRanges :=
  [ (0x9, 0xD), (0x20, 0x20), (0x85, 0x85), (0xA0, 0xA0), (0x1680, 0x1680), (0x2000, 0x200A),
    (0x2028, 0x2029), (0x202F, 0x202F), (0x205F, 0x205F), (0x3000, 0x3000) ]

def isBlank (c : Char) : Bool := blankRanges.contains c

/-- Drops the last characters as long as they are blank. -/
def trimRight (cs : List Char) : List Char := (cs.reverse.dropWhile isBlank).reverse

/-- Drops the blank characters at both ends. -/
def trim (cs : List Char) : List Char := trimRight (cs.dropWhile isBlank)

end MediaPairing
