import MediaPairing.Path
import MediaPairing.Errno
import MediaPairing.Interface
import MediaPairing.KernelRecord

/-!
# The world of a machine

What a machine has: directories, files and device nodes, each found by its path. The three
tables are apart: a listing looks among the directories, a read among the files, opening
among the nodes. Every answer may be an error number instead.
-/

namespace MediaPairing

/-! ## Tables -/

/-- Items by path. A path has at most one item. -/
abbrev Table (α : Type) := List (Path × α)

namespace Table

variable {α : Type}

def get? (t : Table α) (p : Path) : Option α := List.lookup p t

def erase (t : Table α) (p : Path) : Table α := t.filter (·.1 != p)

/-- Puts an item in place of the one that the path had. -/
def put (t : Table α) (p : Path) (a : α) : Table α := (p, a) :: t.erase p

end Table

/-! ## Nodes -/

/-- The number of a node: as a pair, or as the packed word that the file system keeps. -/
inductive NodeNumber where
  | pair (devnum : DeviceNumber)
  | word (rdev : UInt64)

namespace NodeNumber

/-- The packed word, as the kernel reports it. -/
def rdev : NodeNumber → UInt64
  | pair devnum => devnum.pack
  | word w => w

def deviceNumber : NodeNumber → DeviceNumber
  | pair devnum => devnum
  | word w => .unpack w

end NodeNumber

/-- The interface list of a controller, and how it answers when asked for it. The answers
need not agree with the list. -/
structure TopologyReply where
  interfaces : List Interface := []
  /-- What the count query answers, if not the number of interfaces. -/
  count : Option (Except Errno UInt32) := none
  fillFailure : Option Errno := none
  /-- How many records the fill query reports, if not the number of interfaces. -/
  reported : Option UInt32 := none

namespace TopologyReply

def answerCount (t : TopologyReply) : Except Errno UInt32 :=
  t.count.getD (.ok (UInt32.ofNat t.interfaces.length))

/-- The outcome of a fill query with room for `capacity` records: the reported number, and
the records that are written. Nothing is written where not all of them fit. -/
def answerFill (t : TopologyReply) (capacity : Nat) : Except Errno (Nat × List Interface) :=
  match t.fillFailure with
  | some e => .error e
  | none =>
    if capacity < t.interfaces.length then .error .noSpace
    else .ok ((t.reported.map UInt32.toNat).getD t.interfaces.length, t.interfaces)

end TopologyReply

/-- The formats of one queue, in order; a reply may be an error number. -/
abbrev FormatReplies := List (Except Errno FormatReply)

/-- A device node, with its answer to each query. -/
structure Node where
  openFailure : Option Errno := none
  number : Except Errno NodeNumber := .ok (.pair ⟨0, 0⟩)
  capability : Except Errno CapabilityReply := .error .notSupportedByDevice
  /-- The replies of each queue, by the kernel's number for the queue. -/
  formats : Except Errno (List (UInt32 × FormatReplies)) := .error .notSupportedByDevice
  mediaInfo : Except Errno MediaInfoReply := .error .notSupportedByDevice
  topology : Except Errno TopologyReply := .error .notSupportedByDevice

namespace Node

/-- The reply to the query for the format at `index` of a queue. Past the last format, and
for a queue that the node does not have, the argument is invalid. -/
def format (n : Node) (queue : UInt32) (index : Nat) : Except Errno FormatReply :=
  match n.formats with
  | .error e => .error e
  | .ok queues =>
    match ((queues.lookup queue).getD [])[index]? with
    | some reply => reply
    | none => .error .invalidArgument

end Node

/-! ## The world -/

/-- A directory: the names in it, in order. An entry may fail when it is reached. -/
abbrev Listing := Except Errno (List (Except Errno Bytes))

structure World where
  dirs : Table Listing := []
  files : Table (Except Errno Bytes) := []
  nodes : Table Node := []

/-- The names of a listing, or the first error that is met. -/
def readNames : List (Except Errno Bytes) → Except Errno (List Bytes)
  | [] => .ok []
  | .error e :: _ => .error e
  | .ok name :: rest =>
    match readNames rest with
    | .error e => .error e
    | .ok names => .ok (name :: names)

end MediaPairing
