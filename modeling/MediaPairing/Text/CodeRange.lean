/-!
# Ranges of code points

A set of characters is kept as the list of its ranges, first and last code point included.

* `CodeRanges.normal` puts ranges in ascending order and makes those one that overlap or
  touch, so that equal sets have equal lists.
* `CodeRanges.complement` is the set of all other code points, `CodeRanges.intersection` that of
  the common ones.
-/

namespace MediaPairing

/-- Ranges of code points, ends included. -/
abbrev CodeRanges := List (Nat × Nat)

namespace CodeRanges

def containsCode (ranges : CodeRanges) (n : Nat) : Bool :=
  ranges.any fun r => r.1 ≤ n && n ≤ r.2

/-- Whether some range holds `c`. -/
def contains (ranges : CodeRanges) (c : Char) : Bool := ranges.containsCode c.toNat

/-- The range of one character. -/
def single (c : Char) : CodeRanges := [(c.toNat, c.toNat)]

/-- The last code point. -/
def lastCode : Nat := 0x10FFFF

/-- All code points. -/
def everyCode : CodeRanges := [(0, lastCode)]

/-- Makes `current` and the ranges after it one as long as they overlap or touch. -/
def joinFrom (current : Nat × Nat) : CodeRanges → CodeRanges
  | [] => [current]
  | r :: rest =>
    if r.1 ≤ current.2 + 1 then joinFrom (current.1, max current.2 r.2) rest
    else current :: joinFrom r rest

/-- The same set in ascending ranges that lie apart. -/
def normal (ranges : CodeRanges) : CodeRanges :=
  match ranges.mergeSort (fun r s => r.1 ≤ s.1) with
  | [] => []
  | r :: rest => joinFrom r rest

/-- What ascending ranges leave out, from `start` on. -/
def gapsFrom (start : Nat) : CodeRanges → CodeRanges
  | [] => if start ≤ lastCode then [(start, lastCode)] else []
  | r :: rest =>
    if start < r.1 then (start, r.1 - 1) :: gapsFrom (r.2 + 1) rest
    else gapsFrom (r.2 + 1) rest

/-- All code points that are not in the ranges. -/
def complement (ranges : CodeRanges) : CodeRanges := gapsFrom 0 ranges.normal

/-- The code points that are in both. -/
def intersection (a b : CodeRanges) : CodeRanges := complement (a.complement ++ b.complement)

end CodeRanges

end MediaPairing
