import MediaPairing.Access

/-!
# Criteria

A small language in which a caller says which video device it wants. A criterion may look
at the device, at how many devices were offered before it, and, through `supports`, at the
formats of the device. Conjunctions and disjunctions stop at the first part that decides.
-/

namespace MediaPairing

inductive Criterion where
  | always (answer : Bool)
  | all (parts : List Criterion)
  | any (parts : List Criterion)
  | not (part : Criterion)
  | capture (expected : Bool)
  | m2m (expected : Bool)
  /-- The node has all of these flags. -/
  | has (flags : UInt32)
  | driver (name : String)
  | card (name : String)
  /-- The path of the device has the same components. -/
  | path (path : Path)
  /-- The device is the `n`-th one that is offered, from 1. -/
  | nth (n : Nat)
  | format (fourcc : String)

namespace Criterion

instance : Inhabited Criterion := ⟨always false⟩

variable {σ Fd : Type}

mutual

/-- Whether `device`, the `count`-th one offered, meets a criterion. -/
def holds (supports : VideoDevice Fd → String → StateM σ Bool) (count : Nat)
    (device : VideoDevice Fd) : Criterion → StateM σ Bool
  | always answer => return answer
  | all parts => holdsAll supports count device parts
  | any parts => holdsAny supports count device parts
  | not part => do return !(← holds supports count device part)
  | capture expected => return device.capability.isCapture == expected
  | m2m expected => return device.capability.isM2m == expected
  | has flags => return device.capability.has flags
  | driver name => return device.capability.driver == name
  | card name => return device.capability.card == name
  | path p => return device.path.key == p.key
  | nth n => return count == n
  | format fourcc => supports device fourcc

def holdsAll (supports : VideoDevice Fd → String → StateM σ Bool) (count : Nat)
    (device : VideoDevice Fd) : List Criterion → StateM σ Bool
  | [] => return true
  | part :: rest => do
    if ← holds supports count device part then holdsAll supports count device rest
    else return false

def holdsAny (supports : VideoDevice Fd → String → StateM σ Bool) (count : Nat)
    (device : VideoDevice Fd) : List Criterion → StateM σ Bool
  | [] => return false
  | part :: rest => do
    if ← holds supports count device part then return true
    else holdsAny supports count device rest

end

end Criterion

end MediaPairing
