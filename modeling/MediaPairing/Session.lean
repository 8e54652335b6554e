import MediaPairing.Probe
import MediaPairing.Resolve
import MediaPairing.Criterion

/-!
# Sessions

A caller that works with several devices holds them under names. A device that is held
under a name stays open until it is dropped, or until a later device takes its name: the
earlier one is then closed, after the later one was opened. A device without a name is
closed as soon as it was made.

A device can be reduced to its bare descriptor, which is then held in its place.
-/

namespace MediaPairing

/-- What a name stands for. -/
inductive Holding (Fd : Type) where
  | video (device : VideoDevice Fd)
  | media (device : MediaDevice Fd)
  | bare (fd : Fd)

namespace Holding

variable {Fd : Type}

def fd : Holding Fd → Fd
  | video device => device.fd
  | media device => device.fd
  | bare fd => fd

end Holding

structure Session (σ Fd : Type) where
  system : σ
  held : List (String × Holding Fd) := []

/-- Why a step of a session fails. -/
inductive SessionError where
  /-- Nothing fit for the step is held under the name. -/
  | notHeld (name : String)
  | pairing (error : PairingError)
  | device (error : Errno)
  | io (error : IoError)

namespace Session

variable {σ Fd α : Type}

/-- What a step answers. -/
abbrev Answer (α : Type) := Except SessionError α

/-! ## Names -/

/-- Runs a computation of the system. -/
def onSystem (x : StateM σ α) : StateM (Session σ Fd) α := fun s =>
  let (a, system) := x s.system
  (a, { s with system })

def find? (s : Session σ Fd) (name : String) : Option (Holding Fd) := s.held.lookup name

def forget (s : Session σ Fd) (name : String) : Session σ Fd :=
  { s with held := s.held.filter (·.1 != name) }

/-- Closes what is held under `name`, if anything is, and forgets it. -/
def release (sys : Access σ Fd) (name : String) : StateM (Session σ Fd) Unit := do
  match (← get).find? name with
  | none => return ()
  | some h =>
    modify (·.forget name)
    onSystem (sys.close h.fd)

/-- Holds `h` under `name`, in place of what was held there; closes it if there is no name. -/
def hold (sys : Access σ Fd) (name : String) (h : Holding Fd) : StateM (Session σ Fd) Unit := do
  if name.isEmpty then onSystem (sys.close h.fd)
  else
    release sys name
    modify fun s => { s with held := (name, h) :: s.held }

def withHeld (name : String) (f : Holding Fd → StateM (Session σ Fd) (Answer α)) :
    StateM (Session σ Fd) (Answer α) := do
  match (← get).find? name with
  | none => return .error (.notHeld name)
  | some h => f h

def withVideo (name : String) (f : VideoDevice Fd → StateM (Session σ Fd) (Answer α)) :
    StateM (Session σ Fd) (Answer α) :=
  withHeld name fun
    | .video device => f device
    | _ => return .error (.notHeld name)

def withMedia (name : String) (f : MediaDevice Fd → StateM (Session σ Fd) (Answer α)) :
    StateM (Session σ Fd) (Answer α) :=
  withHeld name fun
    | .media device => f device
    | _ => return .error (.notHeld name)

/-! ## Steps -/

/-- A computation of the system that may fail. -/
def attempt {ε : Type} (wrap : ε → SessionError) (x : StateM σ (Except ε α)) :
    StateM (Session σ Fd) (Answer α) := do
  return (← onSystem x).mapError wrap

/-- A computation that makes something to be held under `name`. -/
def make {ε : Type} (sys : Access σ Fd) (name : String) (wrap : ε → SessionError)
    (holding : α → Holding Fd) (x : StateM σ (Except ε α)) : StateM (Session σ Fd) (Answer α) := do
  match ← attempt wrap x with
  | .error e => return .error e
  | .ok a =>
    hold sys name (holding a)
    return .ok a

/-- A criterion as a predicate that keeps the paths it was asked about. -/
def recording (supports : VideoDevice Fd → String → StateM σ Bool) (criterion : Criterion)
    (device : VideoDevice Fd) : StateT (List Path) (StateM σ) Bool := do
  modify (· ++ [device.path])
  criterion.holds supports (← get).length device

/-- Probes `dir`; also answers the paths that the criterion was asked about. -/
def probe (sys : Access σ Fd) (supports : VideoDevice Fd → String → StateM σ Bool) (dir : Path)
    (criterion : Criterion) (name : String) :
    StateM (Session σ Fd) (Except SessionError (VideoDevice Fd) × List Path) := do
  let (answer, seen) ←
    onSystem ((MediaPairing.probe sys dir (recording supports criterion)).run [])
  let answer ← make sys name .pairing .video (pure answer)
  return (answer, seen)

def openVideo (sys : Access σ Fd) (path : Path) (name : String) :
    StateM (Session σ Fd) (Answer (VideoDevice Fd)) :=
  make sys name .pairing .video (openVideoDevice sys path)

def openMedia (sys : Access σ Fd) (path : Path) (name : String) :
    StateM (Session σ Fd) (Answer (MediaDevice Fd)) :=
  make sys name .pairing .media (openMediaDevice sys path)

def resolve (sys : Access σ Fd) (dir : Path) (video name : String) :
    StateM (Session σ Fd) (Answer (MediaDevice Fd)) :=
  withVideo video fun device =>
    make sys name .pairing .media (MediaPairing.resolve sys dir device)

def deviceNumber (sys : Access σ Fd) (video : String) :
    StateM (Session σ Fd) (Answer DeviceNumber) :=
  withVideo video fun device => attempt .pairing (deviceNumberOf sys device)

def videoInterfaces (sys : Access σ Fd) (media : String) :
    StateM (Session σ Fd) (Answer (List Interface)) :=
  withMedia media fun device => attempt .pairing (MediaPairing.videoInterfaces sys device)

/-- The names in `dir`. -/
def list (sys : Access σ Fd) (dir : Path) : StateM (Session σ Fd) (Answer (List Bytes)) :=
  attempt .io (sys.entries dir)

/-- Reduces a device to its bare descriptor. -/
def reduce (name : String) : StateM (Session σ Fd) (Answer Fd) :=
  withHeld name fun
    | .bare _ => return .error (.notHeld name)
    | h => do
      modify fun s => { s.forget name with held := (name, .bare h.fd) :: (s.forget name).held }
      return .ok h.fd

def drop (sys : Access σ Fd) (name : String) : StateM (Session σ Fd) (Answer Unit) :=
  withHeld name fun _ => do
    release sys name
    return .ok ()

/-! ## Steps on bare descriptors -/

/-- Opens a node without asking it anything. -/
def openBare (sys : Access σ Fd) (name : String) (x : StateM σ (Except Errno Fd)) :
    StateM (Session σ Fd) (Answer Fd) :=
  make sys name .device .bare x

/-- A query on the descriptor of whatever is held under `name`. -/
def query (name : String) (ask : Fd → StateM σ (Except Errno α)) :
    StateM (Session σ Fd) (Answer α) :=
  withHeld name fun h => attempt .device (ask h.fd)

/-- Fills a zeroed buffer of `capacity` records, and answers the reported number and the whole
buffer. -/
def fillZeroed (sys : Access σ Fd) (capacity : Nat) (fd : Fd) :
    StateM σ (Except Errno (Nat × List Interface)) := do
  match ← sys.fillInterfaces fd (List.replicate capacity .zero) with
  | (.error e, _) => return .error e
  | (.ok filled, buffer) => return .ok (filled, buffer)

def fill (sys : Access σ Fd) (capacity : Nat) (name : String) :
    StateM (Session σ Fd) (Answer (Nat × List Interface)) :=
  query name (fillZeroed sys capacity)

/-- The same on a controller only. -/
def fillMedia (sys : Access σ Fd) (capacity : Nat) (media : String) :
    StateM (Session σ Fd) (Answer (Nat × List Interface)) :=
  withMedia media fun device => attempt .device (fillZeroed sys capacity device.fd)

end Session

end MediaPairing
