import MediaPairing.Access

/-!
# Finding a video node

`probe` opens the `video*` nodes of a directory in the order of its listing and hands over
the first one that the caller accepts, still open. Nodes that cannot be opened or do not
answer the capability query are logged and skipped; a rejected node is closed before the
next one is tried. The caller's predicate may keep a state of its own and may use the
system.
-/

namespace MediaPairing

variable {σ τ Fd : Type}

/-- What the names of video nodes begin with. -/
def videoStem : String := "video"

/-- Opens one video node and asks for its capabilities. -/
def openVideoDevice (sys : Access σ Fd) (path : Path) :
    StateM σ (Except PairingError (VideoDevice Fd)) := do
  match ← sys.openVideo path with
  | .error e => return .error (.openFailed path e)
  | .ok fd =>
    match ← sys.capability fd with
    | .error e =>
      sys.close fd
      return .error (.capabilityQueryFailed path e)
    | .ok capability => return .ok { path, fd, capability }

/-- Tries the nodes at `paths` in turn; `dir` is named if none is accepted. -/
def probePaths (sys : Access σ Fd) (dir : Path)
    (accept : VideoDevice Fd → StateT τ (StateM σ) Bool) :
    List Path → StateT τ (StateM σ) (Except PairingError (VideoDevice Fd))
  | [] => do
    sys.log .noVideoDevice
    return .error (.noSuitableDevice dir)
  | path :: rest => do
    sys.log (.probing path)
    match ← openVideoDevice sys path with
    | .error e =>
      sys.log (.skipped e)
      probePaths sys dir accept rest
    | .ok device =>
      if ← accept device then
        sys.log (.usingVideo device.path)
        return .ok device
      else
        sys.log (.rejected device.path device.capability.card)
        sys.close device.fd
        probePaths sys dir accept rest

/-- The first video node in `dir` that `accept` says yes to. -/
def probe (sys : Access σ Fd) (dir : Path)
    (accept : VideoDevice Fd → StateT τ (StateM σ) Bool) :
    StateT τ (StateM σ) (Except PairingError (VideoDevice Fd)) := do
  match ← sys.entries dir with
  | .error e => return .error (.directoryUnreadable dir e)
  | .ok names => probePaths sys dir accept (candidates videoStem dir names)

/-- The same search with a predicate that keeps no state. -/
def probeWith (sys : Access σ Fd) (dir : Path) (accept : VideoDevice Fd → StateM σ Bool) :
    StateM σ (Except PairingError (VideoDevice Fd)) := do
  let (found, ()) ← (probe sys dir fun device => StateT.lift (accept device)).run ()
  return found

end MediaPairing
