import MediaPairing.Access

/-!
# Reading a controller's interfaces

A controller writes its interfaces into a buffer that must be large enough, so it is asked
twice: for their number, then for the records. The buffer starts out zeroed, and what is
read is as much of it as the controller says it has written.
-/

namespace MediaPairing

variable {σ Fd : Type}

/-- The interfaces of the controller that is open at `fd`. -/
def readInterfaces (sys : Access σ Fd) (path : Path) (fd : Fd) :
    StateM σ (Except PairingError (List Interface)) := do
  match ← sys.interfaceCount fd with
  | .error e => return .error (.topologyQueryFailed path e)
  | .ok count =>
    if count = 0 then return .error (.emptyTopology path)
    else if sys.allocationLimit < Interface.recordSize * count.toNat then
      return .error (.allocationFailed count)
    else
      match ← sys.fillInterfaces fd (List.replicate count.toNat .zero) with
      | (.error e, _) => return .error (.topologyQueryFailed path e)
      | (.ok filled, buffer) => return .ok (buffer.take filled)

/-- The video interfaces that `media` publishes now. -/
def videoInterfaces (sys : Access σ Fd) (media : MediaDevice Fd) :
    StateM σ (Except PairingError (List Interface)) := do
  match ← readInterfaces sys media.path media.fd with
  | .error e => return .error e
  | .ok interfaces => return .ok (interfaces.filter Interface.isVideo)

/-- Whether one of the interfaces has the number `devnum`; each one looked at is logged. -/
def anyNumbered (sys : Access σ Fd) (devnum : DeviceNumber) : List Interface → StateM σ Bool
  | [] => return false
  | i :: rest => do
    sys.log (.mediaNumber i.devnode)
    if i.devnode = devnum then return true
    else anyNumbered sys devnum rest

/-- Whether `media` publishes a video interface with the number `devnum`. -/
def publishes (sys : Access σ Fd) (media : MediaDevice Fd) (devnum : DeviceNumber) :
    StateM σ (Except PairingError Bool) := do
  match ← readInterfaces sys media.path media.fd with
  | .error e => return .error e
  | .ok interfaces =>
    return .ok (← anyNumbered sys devnum (interfaces.filter Interface.isVideo))

end MediaPairing
