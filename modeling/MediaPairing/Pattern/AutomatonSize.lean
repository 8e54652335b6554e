/-!
# Sizes of automata

An automaton is made by adding states one after the other, and a state is known by the number
of states before it. This module counts the states and their memory, without the automaton.

* `AutomatonSize` is what is counted, and `AutomatonSize.isTooLarge` the limit on it.
* `Growth` is a step that adds states. The order of steps matters, because a step may look at
  the numbers of the states that it adds.
-/

namespace MediaPairing

/-- How much an automaton holds. -/
structure AutomatonSize where
  /-- How many states there are, and so the number of the next one. -/
  states : Nat := 0
  /-- The bytes that the ways out of the states take. -/
  exits : Nat := 0
deriving DecidableEq

namespace AutomatonSize

instance : Add AutomatonSize := ⟨fun a b => ⟨a.states + b.states, a.exits + b.exits⟩⟩

instance : Zero AutomatonSize := ⟨{}⟩

/-- The bytes of a state without its ways out. -/
def stateSize : Nat := 32

/-- The bytes of a way out that reads a byte of a range, where there can be several. -/
def rangeSize : Nat := 8

/-- The bytes of a way out that reads nothing, where there can be several. -/
def branchSize : Nat := 4

/-- One state whose ways out take the given bytes. A single way out takes none. -/
def state (exits : Nat := 0) : AutomatonSize := ⟨1, exits⟩

def bytes (s : AutomatonSize) : Nat := stateSize * s.states + s.exits

/-- No automaton may take more bytes than this. -/
def limit : Nat := 10 * 1024 * 1024

def isTooLarge (s : AutomatonSize) : Bool := limit < s.bytes

end AutomatonSize

/-- A step that adds to an automaton. -/
abbrev Growth := AutomatonSize → AutomatonSize

namespace Growth

/-- Adds as much as is told, whatever is there. -/
def add (more : AutomatonSize) : Growth := (· + more)

/-- Adds one state. -/
def state (exits : Nat := 0) : Growth := add (.state exits)

/-- Adds a state with two ways out that read nothing. -/
def fork : Growth := state (2 * AutomatonSize.branchSize)

/-- One step after the other. -/
def inOrder (steps : List Growth) : Growth := fun s => steps.foldl (fun s step => step s) s

/-- The same step over and over. Once the automaton is too large it stays so, and no more is
added. -/
def times (step : Growth) : Nat → Growth
  | 0, s => s
  | n + 1, s => if s.isTooLarge then s else times step n (step s)

end Growth

end MediaPairing
