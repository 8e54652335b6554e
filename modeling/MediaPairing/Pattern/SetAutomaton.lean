import MediaPairing.Pattern.AutomatonSize
import MediaPairing.Pattern.SlotTable
import MediaPairing.Text.ByteRange

/-!
# Automata of sets of characters

A set of characters is read byte by byte, through the byte ranges of its encodings.

* Forward, encodings share what they end in: two states with the same ways out are one, as long
  as the first of them is remembered.
* Backward, encodings share what they begin with: two states that read the same range and lead
  to the same state are one, as long as the first is remembered.
* `Growth.set` adds a set in either direction.
-/

namespace MediaPairing

open AutomatonSize

/-- The order in which an automaton reads a text. -/
inductive Direction where
  | forward
  | backward
deriving DecidableEq

/-- Parts of a text in the order in which they are read. -/
def Direction.order {α : Type} (d : Direction) (parts : List α) : List α :=
  match d with
  | .forward => parts
  | .backward => parts.reverse

/-- How many states of a set are remembered at most. -/
def Direction.slots : Direction → Nat
  | .forward => 10000
  | .backward => 1000

/-- A set that is being added to an automaton. -/
structure SetGrowth where
  size : AutomatonSize
  /-- The states of the set that are remembered. -/
  known : SlotTable

namespace SetGrowth

/-- The number of the state with the given key. It is added if it is not remembered. -/
def intern (g : SetGrowth) (key : List Nat) (exits : Nat) : Nat × SetGrowth :=
  match g.known.find? key with
  | some n => (n, g)
  | none => (g.size.states, ⟨g.size + .state exits, g.known.insert key g.size.states⟩)

/-! ## Forward -/

/-- Sequences that follow each other and have the same first range: that range, and what
comes after it in each. -/
def groupByFirst : List (List ByteRange) → List (ByteRange × List (List ByteRange))
  | [] => []
  | [] :: rest => groupByFirst rest
  | (r :: tail) :: rest =>
    match groupByFirst rest with
    | (s, tails) :: more =>
      if r = s then (s, tail :: tails) :: more else (r, [tail]) :: (s, tails) :: more
    | [] => [(r, [tail])]

/-- The number of the state that reads one of the sequences, of up to `depth` ranges, and then
is in the state `last`. The key of a state is what its ways out read and lead to. -/
def addForward (last : Nat) : Nat → List (List ByteRange) → SetGrowth → Nat × SetGrowth
  | 0, _, g => (last, g)
  | depth + 1, sequences, g =>
    if sequences.all (·.isEmpty) then (last, g)
    else
      let groups := groupByFirst sequences
      let (key, g) := groups.foldl
        (fun (key, g) (r, tails) =>
          let (next, g) := addForward last depth tails g
          (key ++ [r.first, r.last, next], g))
        (([], g) : List Nat × SetGrowth)
      g.intern key (rangeSize * groups.length)

/-! ## Backward -/

/-- Adds the states that read a sequence from its end and then are in the state `last`. The key
of a state is where it leads to and what it reads. -/
def addBackward (last : Nat) (g : SetGrowth) (sequence : List ByteRange) : SetGrowth :=
  (sequence.foldl (fun (next, g) r => g.intern [next, r.first, r.last] 0) (last, g)).2

end SetGrowth

/-- An encoding has at most four bytes. -/
def longestEncoding : Nat := 4

/-- Adds a set of characters. Nothing is shared with other sets. -/
def Growth.set (d : Direction) (ranges : CodeRanges) : Growth :=
  if List.all ranges (·.2 < 0x80) then
    .inOrder [.state, .state (rangeSize * ranges.length)]
  else fun s =>
    if s.isTooLarge then s
    else
      let sequences := ByteRange.sequences ranges
      match d with
      | .forward =>
        let start : SetGrowth := ⟨s + .state, { slots := d.slots }⟩
        (SetGrowth.addForward s.states longestEncoding sequences start).2.size
      | .backward =>
        let start : SetGrowth :=
          ⟨s + .state (branchSize * sequences.length) + .state, { slots := d.slots }⟩
        (sequences.foldl (SetGrowth.addBackward (s.states + 1)) start).size

end MediaPairing
