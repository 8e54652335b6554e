import MediaPairing.Text.CodeRange

/-!
# Patterns

Regular expressions over characters. Patterns are built by functions that simplify, so that
a pattern has one form however it was put together.

* `Pattern.ofRanges`: a set with one member is a literal.
* `Pattern.concat`: sequences are flat, hold no empty parts, and literals that follow each
  other are one.
* `Pattern.oneOf`: alternatives are flat; if all are single characters, or all are sets, they
  are one set; parts that all of them begin with stand before them.
* `Pattern.repeated`: what can only match the empty text is not repeated.
-/

namespace MediaPairing

/-- A condition on a position. -/
inductive Anchor where
  | textStart
  | textEnd
  | lineStart
  | lineEnd
  /-- A word character on exactly one side; or, if negated, on none or both. -/
  | wordBoundary (negated : Bool)
deriving DecidableEq

inductive Pattern where
  | empty
  | literal (text : List Char)
  /-- One character of a set. -/
  | chars (ranges : CodeRanges)
  | anchor (anchor : Anchor)
  /-- A part in parentheses, by its number. -/
  | group (index : Nat) (part : Pattern)
  /-- At least `least` times, and at most `most` times if that is given. -/
  | repeat (part : Pattern) (least : Nat) (most : Option Nat)
  /-- One after the other; the first is no sequence itself. -/
  | seq (first rest : Pattern)
  /-- One or the other; the first is no choice itself. -/
  | alt (first rest : Pattern)
deriving DecidableEq

namespace Pattern

/-! ## Parts -/

/-- The parts that follow each other. -/
def factors : Pattern → List Pattern
  | empty => []
  | seq p q => p :: factors q
  | p => [p]

/-- The alternatives. -/
def branches : Pattern → List Pattern
  | alt p q => p :: branches q
  | p => [p]

/-- The parts one after the other. -/
def ofFactors : List Pattern → Pattern
  | [] => empty
  | [p] => p
  | p :: q :: rest => seq p (ofFactors (q :: rest))

/-- A choice between the alternatives. -/
def ofBranches : List Pattern → Pattern
  | [] => chars []
  | [p] => p
  | p :: q :: rest => alt p (ofBranches (q :: rest))

/-! ## Sets -/

def ofRanges (ranges : CodeRanges) : Pattern :=
  match ranges.normal with
  | [(first, last)] => if first = last then literal [Char.ofNat first] else chars [(first, last)]
  | rs => chars rs

/-- The set of the alternatives if each is one character. -/
def singleChars? : List Pattern → Option CodeRanges
  | [] => some []
  | literal [c] :: rest => (singleChars? rest).map (CodeRanges.single c ++ ·)
  | _ :: _ => none

/-- The union of the alternatives if each is a set. -/
def sets? : List Pattern → Option CodeRanges
  | [] => some []
  | chars rs :: rest => (sets? rest).map (rs ++ ·)
  | _ :: _ => none

/-! ## Sequences -/

/-- Makes literals one that follow each other. -/
def joinLiterals : List Pattern → List Pattern
  | [] => []
  | literal s :: rest =>
    match joinLiterals rest with
    | literal t :: more => literal (s ++ t) :: more
    | more => literal s :: more
  | p :: rest => p :: joinLiterals rest

def concat (parts : List Pattern) : Pattern := ofFactors (joinLiterals (parts.flatMap factors))

/-! ## Choices -/

/-- A choice between alternatives that have no beginning in common. -/
def choice (alternatives : List Pattern) : Pattern :=
  let bs := alternatives.flatMap branches
  match singleChars? bs with
  | some rs => ofRanges rs
  | none =>
    match sets? bs with
    | some rs => ofRanges rs
    | none => ofBranches bs

/-- The longest common beginning of two lists. -/
def commonPrefix : List Pattern → List Pattern → List Pattern
  | p :: ps, q :: qs => if p = q then p :: commonPrefix ps qs else []
  | _, _ => []

/-- The parts that all alternatives begin with. A lone part is not taken apart. -/
def commonFactors : List Pattern → List Pattern
  | [] => []
  | p :: rest =>
    if (p :: rest).all fun | seq .. => true | _ => false then
      rest.foldl (fun common q => commonPrefix common q.factors) p.factors
    else []

/-- A choice between the alternatives. -/
def oneOf (alternatives : List Pattern) : Pattern :=
  match choice alternatives with
  | alt p q =>
    let bs := branches (alt p q)
    match commonFactors bs with
    | [] => alt p q
    | common =>
      let ends := bs.map fun b => concat (b.factors.drop common.length)
      concat (common ++ [choice ends])
  | p => p

/-! ## Repetitions -/

/-- Whether nothing but the empty text matches. -/
def isEmptyOnly : Pattern → Bool
  | empty | anchor _ => true
  | literal text => text.isEmpty
  | chars _ => false
  | group _ p => p.isEmptyOnly
  | .repeat p _ most => most == some 0 || p.isEmptyOnly
  | seq p q | alt p q => p.isEmptyOnly && q.isEmptyOnly

def repeated (p : Pattern) (least : Nat) (most : Option Nat) : Pattern :=
  let bounds := if p.isEmptyOnly then (min least 1, some (min (most.getD 1) 1)) else (least, most)
  match bounds with
  | (0, some 0) => empty
  | (1, some 1) => p
  | (least, most) => .repeat p least most

end Pattern

end MediaPairing
