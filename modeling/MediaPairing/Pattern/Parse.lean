import MediaPairing.Pattern.Token
import MediaPairing.Pattern.Automaton

/-!
# Written patterns

The tokens of a written pattern are put together with a stack of open groups. Each group
collects the parts of its current branch and the branches before it.

A repetition takes the last part of the branch; one with nothing before it, or after a
change of flags, is refused. A change of flags holds until its group is closed.

How deep a written pattern is nested counts every group, repetition, sequence of several parts
and choice of several branches, and the depth of classes. A pattern that is nested too deeply,
or whose automaton is too large, is refused.

* `Pattern.ofString?` reads a whole pattern.
-/

namespace MediaPairing

/-- A part of a written pattern. -/
structure WrittenPart where
  pattern : Pattern
  /-- How deep it is nested. -/
  depth : Nat := 0
  /-- A change of flags is a part too, but none that can be repeated. -/
  isRepeatable : Bool := true

namespace WrittenPart

/-- The depth of something that holds the parts. A lone part needs nothing to hold it. -/
def depthAround : List WrittenPart → Nat
  | [] => 0
  | [p] => p.depth
  | ps => (ps.map (·.depth)).foldl max 0 + 1

/-- The parts one after the other. -/
def concat (parts : List WrittenPart) : WrittenPart where
  pattern := .concat (parts.map (·.pattern))
  depth := depthAround parts

/-- A choice between the branches. -/
def oneOf (branches : List WrittenPart) : WrittenPart where
  pattern := match branches with
    | [b] => b.pattern
    | bs => .oneOf (bs.map (·.pattern))
  depth := depthAround branches

end WrittenPart

/-- A group that is still open, or the whole pattern. -/
structure OpenGroup where
  /-- The number of the group, if it has one. -/
  index : Option Nat
  /-- The flags that hold where the reading is. -/
  flags : PatternFlags
  /-- The earlier branches, the last one first. -/
  branches : List WrittenPart := []
  /-- The parts of the current branch, the last one first. -/
  parts : List WrittenPart := []

namespace OpenGroup

def push (g : OpenGroup) (p : WrittenPart) : OpenGroup := { g with parts := p :: g.parts }

/-- The current branch as one part. -/
def branch (g : OpenGroup) : WrittenPart := .concat g.parts.reverse

def nextBranch (g : OpenGroup) : OpenGroup :=
  { g with branches := g.branch :: g.branches, parts := [] }

/-- What is in the group. -/
def content (g : OpenGroup) : WrittenPart := .oneOf (g.branch :: g.branches).reverse

/-- The whole group as one part. -/
def close (g : OpenGroup) : WrittenPart where
  pattern := g.index.elim g.content.pattern (.group · g.content.pattern)
  depth := g.content.depth + 1

def repeatLast? (g : OpenGroup) (least : Nat) (most : Option Nat) : Option OpenGroup :=
  match g.parts with
  | [] => none
  | p :: rest =>
    if p.isRepeatable then
      some { g with parts := ⟨.repeated p.pattern least most, p.depth + 1, true⟩ :: rest }
    else none

end OpenGroup

/-- A pattern that is being read. -/
structure PatternReader where
  group : OpenGroup := { index := none, flags := {} }
  /-- The groups around it, innermost first. -/
  outer : List OpenGroup := []
  /-- How many groups with a number have been opened. -/
  groupCount : Nat := 0
  /-- The names that groups have taken. -/
  names : List (List Char) := []

namespace PatternReader

def push (r : PatternReader) (p : Pattern) (depth : Nat := 0) : PatternReader :=
  { r with group := r.group.push { pattern := p, depth } }

def flags (r : PatternReader) : PatternFlags := r.group.flags

/-- Opens a group with the flags that `change` leads to. -/
def openGroup? (r : PatternReader) (name : Option (List Char)) (change : FlagChange)
    (isNumbered : Bool) : Option PatternReader :=
  if name.any r.names.contains then none
  else
    (change.applyTo? r.flags).map fun flags =>
      let count := if isNumbered then r.groupCount + 1 else r.groupCount
      { group := { index := if isNumbered then some count else none, flags }
        outer := r.group :: r.outer
        groupCount := count
        names := name.toList ++ r.names }

def read? (r : PatternReader) : PatternToken → Option PatternReader
  | .literal c => some (r.push (.ofRanges (r.flags.adapt (.single c))))
  | .any =>
    let ranges := if r.flags.dotAll then .everyCode else (CodeRanges.single '\n').complement
    some (r.push (.ofRanges ranges))
  | .kind k negated => some (r.push (.ofRanges (k.ranges negated)))
  | .chars c => some (r.push (.ofRanges (c.content.ranges r.flags.adapt)) c.depth)
  | .caret => some (r.push (.anchor (if r.flags.multiLine then .lineStart else .textStart)))
  | .dollar => some (r.push (.anchor (if r.flags.multiLine then .lineEnd else .textEnd)))
  | .anchor a => some (r.push (.anchor a))
  | .bar => some { r with group := r.group.nextBranch }
  | .repetition least most =>
    (r.group.repeatLast? least most).map fun group => { r with group }
  | .setFlags change =>
    (change.applyTo? r.flags).map fun flags =>
      let group := r.group.push { pattern := .empty, isRepeatable := false }
      { r with group := { group with flags } }
  | .openGroup name change isNumbered => r.openGroup? name change isNumbered
  | .closeGroup =>
    match r.outer with
    | [] => none
    | g :: outer => some { r with group := g.push r.group.close, outer }

/-- The content, if every group is closed. -/
def finish? (r : PatternReader) : Option WrittenPart :=
  if r.outer.isEmpty then some r.group.content else none

end PatternReader

/-- No pattern may be nested more deeply than this. -/
def Pattern.depthLimit : Nat := 250

/-- The pattern that a text writes down. -/
def Pattern.ofString? (s : String) : Option Pattern := do
  let tokens ← patternTokens? s.toList
  let reader ← tokens.foldlM PatternReader.read? {}
  let whole ← reader.finish?
  if depthLimit < whole.depth || whole.pattern.isTooLarge then none else some whole.pattern

end MediaPairing
