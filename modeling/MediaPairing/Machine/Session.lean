import MediaPairing.Session
import MediaPairing.Machine.System

/-!
# Sessions with a machine

The steps of a session that only a machine knows: asking a video node for its formats,
looking up device nodes, and changes of the world between two steps.
-/

namespace MediaPairing

/-! ## Changes -/

/-- What becomes of the item at a path: it is put in place, or, without an item, taken away. -/
abbrev Changes (α : Type) := List (Path × Option α)

def Table.change {α : Type} (t : Table α) (changes : Changes α) : Table α :=
  changes.foldl
    (fun t c =>
      match c.2 with
      | some a => t.put c.1 a
      | none => t.erase c.1)
    t

/-- Changes of all three tables of a world. -/
structure WorldChange where
  dirs : Changes Listing := []
  files : Changes (Except Errno Bytes) := []
  nodes : Changes Node := []

def World.change (w : World) (c : WorldChange) : World where
  dirs := w.dirs.change c.dirs
  files := w.files.change c.files
  nodes := w.nodes.change c.nodes

/-! ## Steps -/

/-- The predicate of a criterion that asks for a format. A format that cannot be spelt, or
that the device fails to answer for, is not supported. -/
def supportsSpelt (device : VideoDevice Nat) (fourcc : String) : StateM Machine Bool := do
  match FourCc.ofString? fourcc with
  | none => return false
  | some f =>
    match ← supportsFormat device f with
    | .ok answer => return answer
    | .error _ => return false

abbrev MachineSession := Session Machine Nat

namespace MachineSession

open Session

def formats (video : String) (queue : BufferQueue) :
    StateM MachineSession (Answer (List PixelFormat)) :=
  withVideo video fun device => attempt .pairing (MediaPairing.formats device queue)

def supportsFormat (video fourcc : String) : StateM MachineSession (Answer Bool) :=
  withVideo video fun device =>
    match FourCc.parse fourcc with
    | .error e => return .error (.pairing e)
    | .ok f => attempt .pairing (MediaPairing.supportsFormat device f)

def devnodePath (devnum : DeviceNumber) (sysDir devDir : Path) :
    StateM MachineSession (Answer Path) :=
  attempt .pairing (MediaPairing.devnodePath devnum sysDir devDir)

def changeWorld (c : WorldChange) : StateM MachineSession (Answer Unit) := do
  onSystem (modify fun m => { m with world := m.world.change c })
  return .ok ()

end MachineSession

end MediaPairing
