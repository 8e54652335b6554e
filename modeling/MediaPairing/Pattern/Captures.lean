import MediaPairing.Pattern.Match

/-!
# Groups of a match

Where the groups of a pattern stand in a text. The match that begins furthest to the left counts,
and of those that begin there the preferred one: an alternative comes before the next one, and
more repetitions come before fewer. A pattern does not say which of its repetitions are lazy; all
are taken to be greedy.

* `Pattern.ways`: the matches from a position on, the preferred one first.
* `Pattern.captures?`: the groups of the match that counts.
-/

namespace MediaPairing

/-- How far a match has come, and the groups that it has passed: their numbers and where they
begin and end, the last one first. -/
structure Way where
  position : Nat
  groups : List (Nat × Nat × Nat) := []

namespace Way

/-- A group has ended that began at `start`. -/
def record (index start : Nat) (w : Way) : Way :=
  { w with groups := (index, start, w.position) :: w.groups }

/-- Exactly so many steps. -/
def exactly (step : Way → List Way) : Nat → Way → List Way
  | 0, w => [w]
  | n + 1, w => (step w).flatMap (exactly step n)

/-- At most so many steps. -/
def atMost (step : Way → List Way) : Nat → Way → List Way
  | 0, w => [w]
  | n + 1, w => (step w).flatMap (atMost step n) ++ [w]

/-- One step or more. After a step that leads nowhere there is no other; `fuel` is a bound on the
steps that lead on. -/
def oneOrMore (step : Way → List Way) : Nat → Way → List Way
  | 0, _ => []
  | fuel + 1, w =>
    (step w).flatMap fun w' =>
      (if w.position < w'.position then oneOrMore step fuel w' else []) ++ [w']

/-- The repetitions of a step in a text of `last` characters. -/
def repetitions (last : Nat) (step : Way → List Way) (least : Nat) (most : Option Nat) (w : Way) :
    List Way :=
  match least, most with
  | least, some n => (exactly step least w).flatMap (atMost step (n - least))
  | 0, none => oneOrMore step (last + 1) w ++ [w]
  | n + 1, none => (exactly step n w).flatMap (oneOrMore step (last + 1))

end Way

namespace Pattern

/-- The matches that go on from `w`, the preferred one first. -/
def ways (t : Chars) : Pattern → Way → List Way
  | empty, w => [w]
  | literal text, w =>
    if literalAt t w.position text then [{ w with position := w.position + text.length }] else []
  | chars ranges, w =>
    if charAt ranges.contains t w.position then [{ w with position := w.position + 1 }] else []
  | anchor a, w => if a.holdsAt t w.position then [w] else []
  | group index p, w => (p.ways t w).map (·.record index w.position)
  | .repeat p least most, w => Way.repetitions t.size (p.ways t) least most w
  | seq p q, w => (p.ways t w).flatMap (q.ways t)
  | alt p q, w => p.ways t w ++ q.ways t w

/-- The groups of the match that counts, if there is a match. -/
def captures? (p : Pattern) (t : Chars) : Option (List (Nat × Nat × Nat)) :=
  (List.range (t.size + 1)).findSome? fun i => (p.ways t ⟨i, []⟩).head?.map Way.groups

end Pattern

end MediaPairing
