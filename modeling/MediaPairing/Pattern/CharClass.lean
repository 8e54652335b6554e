import MediaPairing.Text.Blank
import MediaPairing.Text.CaseFold
import MediaPairing.Text.Word

/-!
# Classes of characters

A class between brackets stands for a set of characters: the union of its items, or what set
operations make of several such unions. Items are characters, ranges, lettered and named
classes, and classes between brackets again.

* `CharClass.ranges` is the set.
* `WrittenClass` is a class with its depth: how deeply brackets, unions of several items and set
  operations are nested in it.
-/

namespace MediaPairing

/-- The classes that have a letter of their own. -/
inductive CharKind where
  | digit
  | word
  | blank
deriving DecidableEq

def CharKind.ranges (k : CharKind) (negated : Bool) : CodeRanges :=
  let rs := match k with
    | digit => digitRanges
    | word => wordRanges
    | blank => blankRanges
  if negated then rs.complement else rs

/-- The ASCII characters that have a property, by its name. -/
def asciiRanges? (name : String) : Option CodeRanges :=
  let digit := ('0', '9')
  let upper := ('A', 'Z')
  let lower := ('a', 'z')
  let ranges : Option (List (Char × Char)) := match name with
    | "alnum" => some [digit, upper, lower]
    | "alpha" => some [upper, lower]
    | "ascii" => some [('\x00', '\x7f')]
    | "blank" => some [('\t', '\t'), (' ', ' ')]
    | "cntrl" => some [('\x00', '\x1f'), ('\x7f', '\x7f')]
    | "digit" => some [digit]
    | "graph" => some [('!', '~')]
    | "lower" => some [lower]
    | "print" => some [(' ', '~')]
    | "punct" => some [('!', '/'), (':', '@'), ('[', '\x60'), ('\x7b', '~')]
    | "space" => some [('\t', '\r'), (' ', ' ')]
    | "upper" => some [upper]
    | "word" => some [digit, upper, ('_', '_'), lower]
    | "xdigit" => some [digit, ('A', 'F'), ('a', 'f')]
    | _ => none
  ranges.map fun rs => rs.map fun r => (r.1.toNat, r.2.toNat)

inductive SetOperation where
  | intersection
  | difference
  | symmetricDifference

def SetOperation.apply (op : SetOperation) (a b : CodeRanges) : CodeRanges :=
  match op with
  | intersection => a.intersection b
  | difference => a.intersection b.complement
  | symmetricDifference => CodeRanges.intersection (a ++ b) (a.intersection b).complement

/-- What can stand in a class between brackets. -/
inductive CharClass where
  | empty
  | range (first last : Char)
  | kind (kind : CharKind) (negated : Bool)
  | named (ranges : CodeRanges) (negated : Bool)
  | union (first rest : CharClass)
  | operation (op : SetOperation) (left right : CharClass)
  | bracketed (content : CharClass) (negated : Bool)

/-- The set of a class. Its characters are adapted before a set is negated or goes into an
operation. -/
def CharClass.ranges (adapt : CodeRanges → CodeRanges) : CharClass → CodeRanges
  | empty => []
  | range first last => [(first.toNat, last.toNat)]
  | kind k negated => k.ranges negated
  | named rs negated => if negated then (adapt rs).complement else adapt rs
  | union a b => a.ranges adapt ++ b.ranges adapt
  | operation op a b => op.apply (adapt (a.ranges adapt)) (adapt (b.ranges adapt))
  | bracketed c negated =>
    let rs := adapt (c.ranges adapt)
    if negated then rs.complement else rs

/-- A class and its depth. -/
structure WrittenClass where
  content : CharClass
  depth : Nat := 0

namespace WrittenClass

/-- The union of items. A lone item needs nothing to hold it. -/
def ofItems : List WrittenClass → WrittenClass
  | [] => { content := .empty }
  | [c] => c
  | cs =>
    { content := cs.foldr (fun c rest => .union c.content rest) .empty
      depth := (cs.map (·.depth)).foldl max 0 + 1 }

def operation (op : SetOperation) (a b : WrittenClass) : WrittenClass where
  content := .operation op a.content b.content
  depth := max a.depth b.depth + 1

/-- The class between brackets. -/
def bracketed (c : WrittenClass) (negated : Bool) : WrittenClass where
  content := .bracketed c.content negated
  depth := c.depth + 1

end WrittenClass

end MediaPairing
