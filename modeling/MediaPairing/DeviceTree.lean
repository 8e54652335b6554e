import MediaPairing.Access

/-!
# Device trees in memory

A tree of made-up nodes that can stand in for a machine. It counts the handles that are
open, the successful opens and the topology queries, and keeps what is logged.

Nodes are looked up by the components of their path (`Path.key`), while a handle keeps the
path as it was given. A node that lacks the answer to a query refuses the query.
-/

namespace MediaPairing

inductive TreeNode where
  | video (capability : Option Capability) (devnum : Option DeviceNumber)
  /-- A controller. If `count` is given, it is what the count query answers. -/
  | media (info : Option MediaInfo) (interfaces : Option (List Interface))
      (count : Option UInt32)

/-- An open node of a tree. -/
structure TreeHandle where
  path : Path
deriving DecidableEq

structure DeviceTree where
  nodes : List (Path × TreeNode) := []
  /-- The handles that are open. -/
  openCount : Nat := 0
  /-- The successful opens so far. -/
  openedCount : Nat := 0
  topologyQueries : Nat := 0
  logged : List LogRecord := []

namespace DeviceTree

/-! ## Building a tree -/

/-- Puts a node in place of one at an equal path. -/
def put (t : DeviceTree) (path : Path) (node : TreeNode) : DeviceTree :=
  { t with nodes := (path, node) :: t.nodes.filter (·.1.key != path.key) }

/-- The capabilities of a made-up video node, all named after its driver. -/
def capabilityNamed (driver : String) (caps : UInt32) : Capability where
  driver := driver
  card := s!"{driver} card"
  busInfo := s!"platform:{driver}"
  version := 0x00060100
  capabilities := caps ||| Capability.deviceCapsValid
  deviceCaps := caps

/-- The description of a made-up controller, all named after its driver. -/
def mediaInfoNamed (driver : String) : MediaInfo where
  driver := driver
  model := s!"{driver} model"
  busInfo := s!"platform:{driver}"

/-- The description of the controller at `path`, which is named after the last part. -/
def mediaInfoAt (path : Path) : MediaInfo :=
  mediaInfoNamed (Utf8.decodeLossy path.lastSegment)

def putVideo (t : DeviceTree) (path : Path) (capability : Capability) (devnum : DeviceNumber) :
    DeviceTree :=
  t.put path (.video (some capability) (some devnum))

/-- A video node that does not answer the capability query. -/
def putVideoWithoutCapability (t : DeviceTree) (path : Path) : DeviceTree :=
  t.put path (.video none none)

/-- A video node whose device number cannot be read. -/
def putVideoWithoutNumber (t : DeviceTree) (path : Path) (capability : Capability) :
    DeviceTree :=
  t.put path (.video (some capability) none)

def putMedia (t : DeviceTree) (path : Path) (interfaces : List Interface) : DeviceTree :=
  t.put path (.media (some (mediaInfoAt path)) (some interfaces) none)

/-- A controller that reports `count` interfaces and has none. -/
def putMediaWithCount (t : DeviceTree) (path : Path) (count : UInt32) : DeviceTree :=
  t.put path (.media (some (mediaInfoAt path)) (some []) (some count))

/-- A controller that does not describe itself. -/
def putMediaWithoutInfo (t : DeviceTree) (path : Path) : DeviceTree :=
  t.put path (.media none none none)

/-- A controller whose topology cannot be read. -/
def putMediaWithoutTopology (t : DeviceTree) (path : Path) : DeviceTree :=
  t.put path (.media (some (mediaInfoAt path)) none none)

/-! ## Using a tree -/

def node? (t : DeviceTree) (path : Path) : Option TreeNode :=
  (t.nodes.find? (·.1.key == path.key)).map (·.2)

/-- Opens the node at `path` if `fits` says that it is of the kind asked for. -/
def openNode (fits : TreeNode → Bool) (path : Path) :
    StateM DeviceTree (Except Errno TreeHandle) := do
  let t ← get
  match t.node? path with
  | none => return .error .noEntry
  | some n =>
    if fits n then
      set { t with openCount := t.openCount + 1, openedCount := t.openedCount + 1 }
      return .ok ⟨path⟩
    else return .error .notSupportedByDevice

def openVideo (path : Path) : StateM DeviceTree (Except Errno TreeHandle) :=
  openNode (fun | .video .. => true | .media .. => false) path

def openMedia (path : Path) : StateM DeviceTree (Except Errno TreeHandle) :=
  openNode (fun | .video .. => false | .media .. => true) path

def close (_ : TreeHandle) : StateM DeviceTree Unit :=
  modify fun t => { t with openCount := t.openCount - 1 }

def queryCapability (h : TreeHandle) : StateM DeviceTree (Except Errno Capability) := do
  match (← get).node? h.path with
  | some (.video (some capability) _) => return .ok capability
  | _ => return .error .notSupportedByDevice

def queryMediaInfo (h : TreeHandle) : StateM DeviceTree (Except Errno MediaInfo) := do
  match (← get).node? h.path with
  | some (.media (some info) _ _) => return .ok info
  | _ => return .error .notSupportedByDevice

def queryNumber (h : TreeHandle) : StateM DeviceTree (Except Errno DeviceNumber) := do
  match (← get).node? h.path with
  | some (.video _ (some devnum)) => return .ok devnum
  | _ => return .error .badHandle

/-- The interfaces behind a handle, and what the count query answers. Every call counts. -/
def queryTopology (h : TreeHandle) :
    StateM DeviceTree (Except Errno (List Interface × UInt32)) := do
  modify fun t => { t with topologyQueries := t.topologyQueries + 1 }
  match (← get).node? h.path with
  | some (.media _ (some interfaces) count) =>
    return .ok (interfaces, count.getD (UInt32.ofNat interfaces.length))
  | _ => return .error .notSupportedByDevice

def queryCount (h : TreeHandle) : StateM DeviceTree (Except Errno UInt32) := do
  return (← queryTopology h).map (·.2)

/-- Writes the interfaces to the start of the buffer. A buffer that is too small is left
alone. -/
def queryFill (h : TreeHandle) (buffer : List Interface) :
    StateM DeviceTree (Except Errno Nat × List Interface) := do
  match ← queryTopology h with
  | .error e => return (.error e, buffer)
  | .ok (interfaces, _) =>
    if buffer.length < interfaces.length then return (.error .noSpace, buffer)
    else return (.ok interfaces.length, interfaces ++ buffer.drop interfaces.length)

def log (r : LogRecord) : StateM DeviceTree Unit :=
  modify fun t => { t with logged := t.logged ++ [r] }

/-- A tree in which every directory lists the same names, or cannot be read at all. -/
def access (names : Option (List Bytes)) : Access DeviceTree TreeHandle where
  entries _ := return names.elim (.error .permissionDenied) .ok
  openVideo := openVideo
  openMedia := openMedia
  capability := queryCapability
  mediaInfo := queryMediaInfo
  deviceNumber := queryNumber
  interfaceCount := queryCount
  fillInterfaces := queryFill
  close := close
  log := log
  allocationLimit := usualAllocationLimit

end DeviceTree

end MediaPairing
