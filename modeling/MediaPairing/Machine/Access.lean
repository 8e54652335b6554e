import MediaPairing.Machine.Basic
import MediaPairing.Access

/-!
# Two ways to use a machine

* `Machine.kernel` goes through the kernel's interface: texts pass through fixed-size
  fields, device numbers through their packed form, names through directory records, and no
  more interfaces are reported than the buffer holds.
* `Machine.direct` hands out the machine's values as they are. Texts are neither cut nor
  trimmed, the reported number of interfaces is not bounded, and interfaces have no flags.

Both make the same calls in the same order.
-/

namespace MediaPairing

namespace Machine

/-- A buffer after records were written to its start; the rest stays as it was. -/
def overwrite (buffer written : List Interface) : List Interface :=
  written ++ buffer.drop written.length

/-! ## Through the kernel -/

/-- The bytes of a name in a directory record, before the NUL that ends it. -/
def nameSize : Nat := 255

/-- The name that a directory record holds. -/
def recordName (name : Bytes) : Bytes := (beforeNul name).take nameSize

/-- The names that stand for the directory itself and for the one above. -/
def isDotName (name : Bytes) : Bool := name == [Path.dot] || name == [Path.dot, Path.dot]

def listKernel (dir : Path) : StateM Machine (Except IoError (List Bytes)) := do
  if dir.hasNul then return .error .nulInPath
  else
    match ← list dir with
    | .error e => return .error e
    | .ok names => return .ok ((names.map recordName).filter (!isDotName ·))

/-- Opens a node by a path that is free of NUL. -/
def openKernel (call : Path → Call) (path : Path) : StateM Machine (Except Errno Nat) := do
  if path.hasNul then return .error .invalidArgument
  else openNode (call path) path

/-- The room of a buffer in the 32-bit word that the kernel is told it in. -/
def capacityWord? (buffer : List Interface) : Option UInt32 :=
  if buffer.length < UInt32.size then some (UInt32.ofNat buffer.length) else none

theorem capacityWord?_replicate (count : UInt32) (i : Interface) :
    capacityWord? (List.replicate count.toNat i) = some count := by
  unfold capacityWord?
  rw [List.length_replicate, if_pos count.toNat_lt, UInt32.ofNat_toNat]

def fillKernel (handle : Nat) (buffer : List Interface) :
    StateM Machine (Except Errno Nat × List Interface) := do
  match capacityWord? buffer with
  | none => return (.error .invalidArgument, buffer)
  | some capacity =>
    match ← queryFill handle capacity.toNat with
    | .error e => return (.error e, buffer)
    | .ok (reported, written) =>
      return (.ok (min reported buffer.length), overwrite buffer written)

def kernel : Access Machine Nat where
  entries := listKernel
  openVideo := openKernel .openVideo
  openMedia := openKernel .openMedia
  capability handle := do
    return (← queryCapability handle).map (·.record.capability)
  mediaInfo handle := do
    return (← queryMediaInfo handle).map (·.record.mediaInfo)
  deviceNumber handle := do
    return (← queryNumber handle).map fun n => DeviceNumber.unpack n.rdev
  interfaceCount := queryCount
  fillInterfaces := fillKernel
  close := close
  log := log
  allocationLimit := usualAllocationLimit

/-! ## Directly -/

def withoutFlags (i : Interface) : Interface := .ofType i.id i.type i.devnode

def fillDirect (handle : Nat) (buffer : List Interface) :
    StateM Machine (Except Errno Nat × List Interface) := do
  match ← queryFill handle buffer.length with
  | .error e => return (.error e, buffer)
  | .ok (reported, written) =>
    return (.ok reported, overwrite buffer (written.map withoutFlags))

def direct : Access Machine Nat where
  entries := list
  openVideo path := openNode (.openVideo path) path
  openMedia path := openNode (.openMedia path) path
  capability handle := do
    return (← queryCapability handle).map CapabilityReply.capability
  mediaInfo handle := do
    return (← queryMediaInfo handle).map MediaInfoReply.mediaInfo
  deviceNumber handle := do
    return (← queryNumber handle).map NodeNumber.deviceNumber
  interfaceCount := queryCount
  fillInterfaces := fillDirect
  close := close
  log := log
  allocationLimit := usualAllocationLimit

end Machine

end MediaPairing
