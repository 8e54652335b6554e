import MediaPairing.Machine.World
import MediaPairing.LogRecord
import MediaPairing.Report

/-!
# Machines

A machine is a world, the handles that are open in it, and a journal of all that happened:
calls with their outcome, closed handles, log records and printed lines, in order.

A handle is a number that is never given twice. It stands for a path: each query looks the
node up again, so a node may change, or go away, under an open handle.
-/

namespace MediaPairing

/-- A system call. -/
inductive Call where
  | list (dir : Path)
  | openVideo (path : Path)
  | openMedia (path : Path)
  | capability (handle : Nat)
  | mediaInfo (handle : Nat)
  | deviceNumber (handle : Nat)
  | interfaceCount (handle : Nat)
  | fillInterfaces (capacity : Nat) (handle : Nat)
  | format (queue : BufferQueue) (index : Nat) (handle : Nat)
  | read (path : Path)
deriving DecidableEq

inductive Outcome where
  | done
  | opened (handle : Nat)
  | failed (errno : Errno)
deriving DecidableEq

inductive Event where
  | called (call : Call) (outcome : Outcome)
  | closed (handle : Nat)
  | logged (record : LogRecord)
  | printed (line : ReportLine)
deriving DecidableEq

structure Machine where
  world : World := {}
  /-- The handle that the next open gives. -/
  nextHandle : Nat := 0
  /-- The open handles, with the path that each was opened by. -/
  handles : List (Nat × Path) := []
  journal : List Event := []

namespace Machine

/-! ## The journal -/

def note (e : Event) : StateM Machine Unit :=
  modify fun m => { m with journal := m.journal ++ [e] }

def log (r : LogRecord) : StateM Machine Unit := note (.logged r)

def print (line : ReportLine) : StateM Machine Unit := note (.printed line)

/-- Notes a call that answers `answer`. -/
def answerCall {α : Type} (call : Call) (answer : Except Errno α) :
    StateM Machine (Except Errno α) := do
  match answer with
  | .ok a =>
    note (.called call .done)
    return .ok a
  | .error e =>
    note (.called call (.failed e))
    return .error e

/-! ## Handles -/

/-- The node behind a handle, as it is now. -/
def node (m : Machine) (handle : Nat) : Except Errno Node :=
  match m.handles.lookup handle with
  | none => .error .badHandle
  | some path =>
    match m.world.nodes.get? path with
    | none => .error .noDevice
    | some n => .ok n

/-- Whether opening `path` succeeds. -/
def opens (m : Machine) (path : Path) : Except Errno Unit :=
  match m.world.nodes.get? path with
  | none => .error .noEntry
  | some n =>
    match n.openFailure with
    | some e => .error e
    | none => .ok ()

/-- Opens the node at `path`. -/
def openNode (call : Call) (path : Path) : StateM Machine (Except Errno Nat) := do
  let m ← get
  match m.opens path with
  | .error e =>
    note (.called call (.failed e))
    return .error e
  | .ok () =>
    let handle := m.nextHandle
    set { m with nextHandle := handle + 1, handles := m.handles ++ [(handle, path)] }
    note (.called call (.opened handle))
    return .ok handle

def close (handle : Nat) : StateM Machine Unit := do
  modify fun m => { m with handles := m.handles.filter (·.1 != handle) }
  note (.closed handle)

/-! ## Queries -/

/-- A call that asks the node behind `handle`. -/
def query {α : Type} (call : Call) (handle : Nat) (ask : Node → Except Errno α) :
    StateM Machine (Except Errno α) := do
  let m ← get
  answerCall call ((m.node handle).bind ask)

def queryCapability (handle : Nat) : StateM Machine (Except Errno CapabilityReply) :=
  query (.capability handle) handle Node.capability

def queryMediaInfo (handle : Nat) : StateM Machine (Except Errno MediaInfoReply) :=
  query (.mediaInfo handle) handle Node.mediaInfo

def queryNumber (handle : Nat) : StateM Machine (Except Errno NodeNumber) :=
  query (.deviceNumber handle) handle Node.number

def queryCount (handle : Nat) : StateM Machine (Except Errno UInt32) :=
  query (.interfaceCount handle) handle fun n => n.topology.bind TopologyReply.answerCount

/-- The reported number of interfaces, and the records to be written to a buffer with room
for `capacity` of them. -/
def queryFill (handle capacity : Nat) :
    StateM Machine (Except Errno (Nat × List Interface)) :=
  query (.fillInterfaces capacity handle) handle fun n =>
    n.topology.bind (·.answerFill capacity)

/-- The format at `index` of a queue. -/
def queryFormat (handle : Nat) (queue : BufferQueue) (index : Nat) :
    StateM Machine (Except Errno FormatRecord) :=
  query (.format queue index handle) handle fun n =>
    (n.format queue.raw index).map FormatReply.record

/-! ## Directories and files -/

/-- The names in a directory. The call itself succeeds even if an entry then fails. -/
def list (dir : Path) : StateM Machine (Except IoError (List Bytes)) := do
  let m ← get
  match ← answerCall (.list dir) ((m.world.dirs.get? dir).getD (.error .noEntry)) with
  | .error e => return .error (.os e)
  | .ok entries =>
    match readNames entries with
    | .error e => return .error (.os e)
    | .ok names => return .ok names

/-- The text of a file. A path with a NUL byte in it reaches no file. -/
def readText (path : Path) : StateM Machine (Except IoError String) := do
  if path.hasNul then return .error .nulInPath
  else
    let m ← get
    match ← answerCall (.read path) ((m.world.files.get? path).getD (.error .noEntry)) with
    | .error e => return .error (.os e)
    | .ok bytes =>
      match Utf8.decode? bytes with
      | none => return .error .notUtf8
      | some text => return .ok text

end Machine

end MediaPairing
