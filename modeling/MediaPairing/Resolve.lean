import MediaPairing.Topology

/-!
# Finding the controller of a video node

`resolve` hands over the first `media*` controller, in the order of the directory's listing,
that publishes a video interface with the device number of a given video node. Controllers
are matched on that number and never on names; if two publish the same number, the first
one wins.

A failure to read the number or the directory, or to have a buffer for the interfaces, ends
the search. A controller that cannot be opened, does not answer a query or has no interfaces
is logged and skipped.
-/

namespace MediaPairing

variable {σ Fd : Type}

/-- What the names of media controllers begin with. -/
def mediaStem : String := "media"

/-- Opens one media controller and asks for its description. -/
def openMediaDevice (sys : Access σ Fd) (path : Path) :
    StateM σ (Except PairingError (MediaDevice Fd)) := do
  match ← sys.openMedia path with
  | .error e => return .error (.openFailed path e)
  | .ok fd =>
    match ← sys.mediaInfo fd with
    | .error e =>
      sys.close fd
      return .error (.mediaInfoQueryFailed path e)
    | .ok info => return .ok { path, fd, info }

/-- The device number of an open video node. -/
def deviceNumberOf (sys : Access σ Fd) (video : VideoDevice Fd) :
    StateM σ (Except PairingError DeviceNumber) := do
  match ← sys.deviceNumber video.fd with
  | .error e => return .error (.identityQueryFailed video.path e)
  | .ok devnum => return .ok devnum

/-- Tries the controllers at `paths` in turn; `dir` is named if none publishes `devnum`. -/
def resolvePaths (sys : Access σ Fd) (dir : Path) (devnum : DeviceNumber) :
    List Path → StateM σ (Except PairingError (MediaDevice Fd))
  | [] => do
    sys.log .noMediaDevice
    return .error (.noMatchingMediaDevice dir devnum)
  | path :: rest => do
    sys.log (.probing path)
    match ← openMediaDevice sys path with
    | .error e =>
      sys.log (.skipped e)
      resolvePaths sys dir devnum rest
    | .ok media =>
      match ← publishes sys media devnum with
      | .ok true =>
        sys.log (.usingMedia media.path)
        return .ok media
      | .ok false =>
        sys.log (.doesNotPublish media.path devnum)
        sys.close media.fd
        resolvePaths sys dir devnum rest
      | .error (.allocationFailed count) =>
        sys.close media.fd
        return .error (.allocationFailed count)
      | .error e =>
        sys.log (.skipped e)
        sys.close media.fd
        resolvePaths sys dir devnum rest

/-- The first controller in `dir` that publishes the device number of `video`. -/
def resolve (sys : Access σ Fd) (dir : Path) (video : VideoDevice Fd) :
    StateM σ (Except PairingError (MediaDevice Fd)) := do
  match ← deviceNumberOf sys video with
  | .error e => return .error e
  | .ok devnum =>
    sys.log (.videoNumber devnum)
    match ← sys.entries dir with
    | .error e => return .error (.directoryUnreadable dir e)
    | .ok names => resolvePaths sys dir devnum (candidates mediaStem dir names)

end MediaPairing
