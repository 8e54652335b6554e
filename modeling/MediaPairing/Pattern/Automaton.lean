import MediaPairing.Pattern.Basic
import MediaPairing.Pattern.SetAutomaton
import MediaPairing.Text.Utf8

/-!
# The automaton of a pattern

A pattern is matched by two automata over bytes, one that reads forward and one that reads
backward. This module says how large each is, without building it.

* Alternatives that are all literals share what they begin with, in the direction of reading.
* A repetition has one copy of its part for each time that is counted.
* Groups are marked in the forward direction only.
* `Pattern.isTooLarge` compares both automata with the limit.
-/

namespace MediaPairing

open AutomatonSize

/-! ## Literals -/

/-- The words between the empty words of a list. -/
def splitAtEmpty : List Bytes → List (List Bytes)
  | [] => [[]]
  | w :: rest =>
    match splitAtEmpty rest with
    | [] => [[w]]
    | ws :: more => if w.isEmpty then [] :: ws :: more else (w :: ws) :: more

/-- The list with one of the empty words that it begins with. -/
def mergeLeadingEmpty : List Bytes → List Bytes
  | [] :: rest => [] :: rest.dropWhile (·.isEmpty)
  | ws => ws

/-- The states that read words of up to `depth` bytes. A word that ends here comes before the
words after it in the list, so these have a state of their own. -/
def wordsSize : Nat → List Bytes → AutomatonSize
  | 0, _ => 0
  | depth + 1, ws =>
    let runs := splitAtEmpty (mergeLeadingEmpty ws)
    let used := runs.filter (!·.isEmpty)
    let runSize (run : List Bytes) : AutomatonSize :=
      let heads := (run.filterMap List.head?).eraseDups
      let below := heads.map fun h =>
        let tails := (run.filter (·.head? == some h)).map List.tail
        if tails.all (·.isEmpty) then 0 else wordsSize depth tails
      .state (if heads.length = 1 then 0 else rangeSize * heads.length) + below.sum
    .state (branchSize * (used.length + (runs.length - 1))) + (used.map runSize).sum

/-- The literals, if all alternatives are literals. -/
def literals? : List Pattern → Option (List (List Char))
  | [] => some []
  | .literal s :: rest => (literals? rest).map (s :: ·)
  | _ :: _ => none

/-- The bytes of a literal in the order in which they are read. -/
def literalBytes (d : Direction) (text : List Char) : Bytes :=
  d.order (text.flatMap String.utf8EncodeChar)

/-- Adds a choice between literals. -/
def Growth.literals (d : Direction) (texts : List (List Char)) : Growth :=
  let ws := texts.map (literalBytes d)
  let longest := (ws.map List.length).foldl max 0
  .add (.state + wordsSize (longest + 1) ws)

/-! ## Patterns -/

namespace Pattern

/-- The least number of characters that a match has, if no part of the pattern matches
nothing at all. -/
def leastLength? : Pattern → Option Nat
  | empty | anchor _ => some 0
  | literal text => some text.length
  | chars ranges => if ranges.isEmpty then none else some 1
  | group _ p => p.leastLength?
  | .repeat p least _ => p.leastLength?.map (· * least)
  | seq p q => do some ((← p.leastLength?) + (← q.leastLength?))
  | alt p q => do some (min (← p.leastLength?) (← q.leastLength?))

/-- Whether every match is known to have a character. -/
def isNonempty (p : Pattern) : Bool := p.leastLength?.any (0 < ·)

/-- Adds a repetition of a part. -/
def repeatGrowth (part : Growth) (isNonempty : Bool) : Nat → Option Nat → Growth
  | 0, none => .inOrder (if isNonempty then [.fork, part] else [part, .fork, .fork, .state])
  | least, none => .inOrder [part.times least, .fork]
  | 0, some 1 => .inOrder [.fork, part, .state]
  | least, some most =>
    let counted := if least = 0 then .state else part.times least
    if least = most then counted
    else .inOrder [counted, .state, (Growth.inOrder [.fork, part]).times (most - least)]

/-- Adds a choice between alternatives. The state from which they go out is put behind the
second of them. One alternative is no choice. -/
def choiceGrowth (d : Direction) (alternatives : List Pattern) : List Growth → Growth
  | [part] => part
  | parts =>
    match literals? alternatives with
    | some texts => .literals d texts
    | none =>
      .inOrder
        (parts.take 2 ++ [.state (branchSize * parts.length), .state] ++ parts.drop 2)

/-- The steps that add the alternatives of a pattern. -/
def branchGrowths (d : Direction) : Pattern → List Growth
  | alt p q => choiceGrowth d (branches p) (p.branchGrowths d) :: q.branchGrowths d
  | seq p q =>
    [.inOrder (d.order
      [choiceGrowth d (branches p) (p.branchGrowths d),
        choiceGrowth d (branches q) (q.branchGrowths d)])]
  | .repeat p least most =>
    [repeatGrowth (choiceGrowth d (branches p) (p.branchGrowths d)) p.isNonempty least most]
  | group _ p =>
    let content := choiceGrowth d (branches p) (p.branchGrowths d)
    match d with
    | .forward => [.inOrder [.state, content, .state]]
    | .backward => [content]
  | empty | anchor _ => [.state]
  | literal text => [.add ⟨(literalBytes d text).length, 0⟩]
  | chars ranges => [.set d ranges]

/-- The step that adds a pattern. -/
def growth (d : Direction) (p : Pattern) : Growth :=
  choiceGrowth d (branches p) (p.branchGrowths d)

/-- Whether every match begins, or in the other direction ends, where the text does. -/
def isAnchored (d : Direction) : Pattern → Bool
  | anchor a => a == (match d with | .forward => .textStart | .backward => .textEnd)
  | group _ p => p.isAnchored d
  | .repeat p least _ => 0 < least && p.isAnchored d
  | seq p q =>
    match d with
    | .forward => p.isAnchored d || (p.isEmptyOnly && q.isAnchored d)
    | .backward => q.isAnchored d || (q.isEmptyOnly && p.isAnchored d)
  | alt p q => p.isAnchored d && q.isAnchored d
  | empty | literal _ | chars _ => false

/-- The size of the automaton: a loop over what comes before a match, the pattern in a group of
its own, and the state that accepts. -/
def automatonSize (d : Direction) (p : Pattern) : AutomatonSize :=
  let skipping : Growth :=
    if p.isAnchored d then .state else .inOrder [.fork, .state, .state rangeSize]
  Growth.inOrder [skipping, (group 0 p).growth d, .state] {}

def isTooLarge (p : Pattern) : Bool :=
  (p.automatonSize .forward).isTooLarge || (p.automatonSize .backward).isTooLarge

end Pattern

end MediaPairing
