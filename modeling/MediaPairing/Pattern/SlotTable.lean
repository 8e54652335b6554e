import Std.Data.HashMap

/-!
# Slot tables

A table that remembers the numbers of keys as far as it has room. Every key has one slot, and
what is put into a slot takes the place of what was there. So a key that has been put in may be
forgotten; one that is found has the number that was put in with it last.

* `SlotTable.slot` chooses the slot of a key.
* `SlotTable.find?` and `SlotTable.insert` look at and fill the slot of a key.
-/

namespace MediaPairing

/-- A table with `slots` slots. -/
structure SlotTable where
  slots : Nat
  /-- The slots that are in use, each with a key and its number. -/
  entries : Std.HashMap Nat (List Nat × Nat) := {}

namespace SlotTable

/-- A 64-bit hash of a list of numbers. Each number is mixed in by an exclusive or, and then
spread by a multiplication. -/
def hash (key : List Nat) : UInt64 :=
  key.foldl (fun h n => (h ^^^ n.toUInt64) * 0x100000001B3) 0xCBF29CE484222325

/-- The slot of a key. -/
def slot (t : SlotTable) (key : List Nat) : Nat := (hash key).toNat % t.slots

/-- The number of a key, unless it is forgotten. -/
def find? (t : SlotTable) (key : List Nat) : Option Nat :=
  match t.entries[t.slot key]? with
  | some (held, n) => if held = key then some n else none
  | none => none

/-- The table with a number for a key. -/
def insert (t : SlotTable) (key : List Nat) (n : Nat) : SlotTable :=
  { t with entries := t.entries.insert (t.slot key) (key, n) }

end SlotTable

end MediaPairing
