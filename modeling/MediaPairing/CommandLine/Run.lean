import MediaPairing.CommandLine.Options
import MediaPairing.Probe
import MediaPairing.Resolve
import MediaPairing.Formats
import MediaPairing.Devnode

/-!
# A run of the command

A run probes for a video node that passes the filters, resolves its controller, and prints
the report on the pair. The report asks the devices again: for the number of the video node,
for the formats if one was asked for, and for the video interfaces. A failure in the middle
leaves what was printed before it. Both devices are closed at the end, whatever happens, the
controller first.
-/

namespace MediaPairing

/-! ## Filters -/

/-- Whether a text passes a test that may be missing. -/
def passesIfGiven (test : Option TextTest) (text : String) : Bool :=
  match test with
  | none => true
  | some test => test text

/-- The filters that need no more than the capabilities. -/
def Filters.acceptsCapability (f : Filters) (c : Capability) : Bool :=
  (!f.capture || c.isCapture) && (!f.m2m || c.isM2m) && passesIfGiven f.driver c.driver &&
    passesIfGiven f.card c.card

namespace System

variable {σ Fd : Type} (sys : System σ Fd)

/-- Whether `video` passes all filters. Its formats are asked for last, and a device that
cannot tell them does not pass. -/
def accepts (f : Filters) (video : VideoDevice Fd) : StateM σ Bool := do
  if f.acceptsCapability video.capability then
    match f.format with
    | none => return true
    | some fourcc =>
      match ← sys.supportsFormat video fourcc with
      | .ok answer => return answer
      | .error e =>
        sys.log (.skipped e)
        return false
  else return false

/-! ## The report -/

/-- Prints the formats with the code `fourcc`, queue by queue. -/
def printFormats (video : VideoDevice Fd) (fourcc : FourCc) :
    List BufferQueue → StateM σ (Except PairingError Unit)
  | [] => return .ok ()
  | queue :: rest => do
    match ← sys.formats video queue with
    | .error e => return .error e
    | .ok fs =>
      (fs.filter (·.fourcc == fourcc)).forM fun f => sys.print (.format queue f)
      printFormats video fourcc rest

/-- Prints each interface with the path of its device node, as far as that can be found. -/
def printInterfaces (sysDir devDir : Path) : List Interface → StateM σ Unit
  | [] => return ()
  | i :: rest => do
    match ← sys.devnodePath i.devnode sysDir devDir with
    | .ok node => sys.print (.interface i.id i.devnode (some node))
    | .error e =>
      sys.log (.unnamedNode e)
      sys.print (.interface i.id i.devnode none)
    printInterfaces sysDir devDir rest

def printVideo (format : Option FourCc) (video : VideoDevice Fd) :
    StateM σ (Except PairingError Unit) := do
  sys.print (.video video.path)
  sys.print (.videoDriver video.capability.driver)
  sys.print (.card video.capability.card)
  sys.print (.videoBus video.capability.busInfo)
  match ← deviceNumberOf sys.toAccess video with
  | .error e => return .error e
  | .ok devnum =>
    sys.print (.deviceNumber devnum)
    match format with
    | none => return .ok ()
    | some fourcc => sys.printFormats video fourcc BufferQueue.all

def printMedia (sysDir devDir : Path) (media : MediaDevice Fd) :
    StateM σ (Except PairingError Unit) := do
  sys.print (.media media.path)
  sys.print (.mediaDriver media.info.driver)
  sys.print (.model media.info.model)
  sys.print (.mediaBus media.info.busInfo)
  sys.print (.mediaVersion (.ofWord media.info.mediaVersion))
  match ← videoInterfaces sys.toAccess media with
  | .error e => return .error e
  | .ok interfaces =>
    sys.printInterfaces sysDir devDir interfaces
    return .ok ()

def printReport (o : Options) (video : VideoDevice Fd) (media : MediaDevice Fd) :
    StateM σ (Except PairingError Unit) := do
  match ← sys.printVideo o.filters.format video with
  | .error e => return .error e
  | .ok () => sys.printMedia o.sysDir o.devDir media

end System

/-! ## The run -/

/-- At which stage a run failed, and why. -/
inductive Failure where
  | noVideo (error : PairingError)
  /-- The video node at `path` was found, but not its controller. -/
  | noController (path : Path) (error : PairingError)
  /-- Both were found, and the report broke off. -/
  | report (error : PairingError)

def System.run {σ Fd : Type} (sys : System σ Fd) (o : Options) :
    StateM σ (Except Failure Unit) := do
  sys.log .ready
  match ← probeWith sys.toAccess o.devDir (sys.accepts o.filters) with
  | .error e => return .error (.noVideo e)
  | .ok video =>
    match ← resolve sys.toAccess o.devDir video with
    | .error e =>
      sys.close video.fd
      return .error (.noController video.path e)
    | .ok media =>
      let outcome ← sys.printReport o video media
      sys.close media.fd
      sys.close video.fd
      return outcome.mapError Failure.report

end MediaPairing
