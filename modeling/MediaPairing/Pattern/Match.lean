import MediaPairing.Pattern.Basic
import MediaPairing.Text.Word

/-!
# Matching

What it means for a pattern to occur in a text. A pattern relates positions: the beginning
of a match to its end. The relation of a pattern is put together from those of its parts,
each of which is worked out once.

* `Pattern.reach` is the relation of a pattern.
* `Pattern.occursIn` asks for a match anywhere in a text.
-/

namespace MediaPairing

/-- A text as the matcher sees it: its characters by position. -/
abbrev Chars := Array Char

/-! ## Relations on positions -/

/-- For each position, the positions related to it, as the bits of a number. -/
abbrev Reach := Array Nat

namespace Reach

/-- The relation on the positions up to `last` that `row` gives. -/
def ofRows (last : Nat) (row : Nat → Nat) : Reach := ((List.range (last + 1)).map row).toArray

/-- Each position and itself. -/
def id (last : Nat) : Reach := ofRows last (1 <<< ·)

def union (r s : Reach) : Reach := Array.zipWith (· ||| ·) r s

/-- First by `r`, then by `s`. -/
def comp (r s : Reach) : Reach :=
  r.map fun row =>
    if row = 0 then 0
    else s.size.fold (fun j _ bits => if row.testBit j then bits ||| s[j] else bits) 0

/-- By `r` exactly `n` times. -/
def power (last : Nat) (r : Reach) : Nat → Reach
  | 0 => id last
  | n + 1 => comp r (power last r n)

/-- By `r` exactly `2 ^ n` times. -/
def square (r : Reach) : Nat → Reach
  | 0 => r
  | n + 1 => square (comp r r) n

/-- By `r` at most `n` times. -/
def upTo (last : Nat) (r : Reach) (n : Nat) : Reach := power last (union (id last) r) n

/-- By `r` any number of times. More steps than there are positions reach no more of them. -/
def closure (last : Nat) (r : Reach) : Reach := square (union (id last) r) (last.log2 + 1)

end Reach

/-! ## Matching -/

/-- Whether the character at `i` is there and has the property. -/
def charAt (p : Char → Bool) (t : Chars) (i : Nat) : Bool := (t[i]?.map p).getD false

/-- The same of the character before `i`. -/
def charBefore (p : Char → Bool) (t : Chars) (i : Nat) : Bool :=
  match i with
  | 0 => false
  | n + 1 => charAt p t n

/-- Whether `text` stands in `t` from `i` on. -/
def literalAt (t : Chars) (i : Nat) : List Char → Bool
  | [] => true
  | c :: rest => charAt (· == c) t i && literalAt t (i + 1) rest

def Anchor.holdsAt (t : Chars) (i : Nat) : Anchor → Bool
  | textStart => i == 0
  | textEnd => i == t.size
  | lineStart => i == 0 || charBefore (· == '\n') t i
  | lineEnd => i == t.size || charAt (· == '\n') t i
  | wordBoundary negated => (charBefore isWord t i != charAt isWord t i) != negated

/-- The relation of a repetition. No step leads back, so a step more than there are characters
stands for any greater number of steps. -/
def repeatReach (last : Nat) (r : Reach) (least : Nat) (most : Option Nat) : Reach :=
  let further := match most with
    | none => Reach.closure last r
    | some n => Reach.upTo last r (min last (n - least))
  Reach.comp (Reach.power last r (min least (last + 1))) further

namespace Pattern

/-- The beginnings and ends of the matches in `t`. -/
def reach (t : Chars) : Pattern → Reach
  | empty => Reach.id t.size
  | literal text =>
    Reach.ofRows t.size fun i => if literalAt t i text then 1 <<< (i + text.length) else 0
  | chars ranges =>
    Reach.ofRows t.size fun i => if charAt ranges.contains t i then 1 <<< (i + 1) else 0
  | anchor a => Reach.ofRows t.size fun i => if a.holdsAt t i then 1 <<< i else 0
  | group _ p => p.reach t
  | .repeat p least most => repeatReach t.size (p.reach t) least most
  | seq p q => Reach.comp (p.reach t) (q.reach t)
  | alt p q => Reach.union (p.reach t) (q.reach t)

/-- Whether the pattern matches somewhere in `text`. -/
def occursIn (p : Pattern) (text : String) : Bool :=
  (p.reach text.toList.toArray).any (· != 0)

end Pattern

end MediaPairing
