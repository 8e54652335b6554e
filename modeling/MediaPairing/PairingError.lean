import MediaPairing.Path
import MediaPairing.Errno
import MediaPairing.DeviceNumber
import MediaPairing.FourCc
import MediaPairing.Text.Quoted

/-!
# Why discovery fails

The errors of one node (opening it, querying it, an empty topology) are logged and skipped
by the searches; a caller only meets them when it asks for that node. The others end a
search.

* `PairingError.message` is the text of an error, which ends in the text of its cause.
* `PairingError.cause?` is the text of the cause alone.
-/

namespace MediaPairing

/-- Why the formats of a queue could not be listed. -/
inductive ListingFailure where
  | os (errno : Errno)
  /-- The queue has a format for every index there is. A program that counts on breaks down or
  starts over, by how it was built; this stands for either, and is none of its answers. -/
  | indexOverflow
deriving DecidableEq

def ListingFailure.message : ListingFailure → String
  | .os e => e.message
  | .indexOverflow => "attempt to add with overflow"

inductive PairingError where
  | openFailed (path : Path) (cause : Errno)
  | capabilityQueryFailed (path : Path) (cause : Errno)
  | formatQueryFailed (path : Path) (cause : ListingFailure)
  | mediaInfoQueryFailed (path : Path) (cause : Errno)
  | identityQueryFailed (path : Path) (cause : Errno)
  | topologyQueryFailed (path : Path) (cause : Errno)
  /-- The buffer for `count` interface records cannot be had. -/
  | allocationFailed (count : UInt32)
  | emptyTopology (path : Path)
  | noSuitableDevice (dir : Path)
  | noMatchingMediaDevice (dir : Path) (devnum : DeviceNumber)
  | directoryUnreadable (dir : Path) (cause : IoError)
  | devnodeLookupFailed (devnum : DeviceNumber) (uevent : Path) (cause : IoError)
  | invalidFourCc (text : String)
deriving DecidableEq

namespace PairingError

/-- The text of what lies behind the error, if anything does. -/
def cause? : PairingError → Option String
  | openFailed _ e | capabilityQueryFailed _ e | mediaInfoQueryFailed _ e
  | identityQueryFailed _ e | topologyQueryFailed _ e => some e.message
  | formatQueryFailed _ e => some e.message
  | allocationFailed _ =>
    some "memory allocation failed because the memory allocator returned an error"
  | directoryUnreadable _ e | devnodeLookupFailed _ _ e => some e.message
  | emptyTopology _ | noSuitableDevice _ | noMatchingMediaDevice _ _ | invalidFourCc _ => none

def message : PairingError → String
  | openFailed path e => s!"cannot open {path.display}: {e.message}"
  | capabilityQueryFailed path e => s!"VIDIOC_QUERYCAP on {path.display} failed: {e.message}"
  | formatQueryFailed path e => s!"format enumeration on {path.display} failed: {e.message}"
  | mediaInfoQueryFailed path e =>
    s!"MEDIA_IOC_DEVICE_INFO on {path.display} failed: {e.message}"
  | identityQueryFailed path e => s!"cannot stat video device {path.display}: {e.message}"
  | topologyQueryFailed path e => s!"MEDIA_IOC_G_TOPOLOGY on {path.display} failed: {e.message}"
  | allocationFailed count => s!"cannot allocate {count.toNat} media interfaces"
  | emptyTopology path => s!"media device {path.display} has no interfaces"
  | noSuitableDevice dir => s!"could not find a valid video device in {dir.display}"
  | noMatchingMediaDevice dir devnum =>
    s!"could not find a media device for video device number {devnum.text} in {dir.display}"
  | directoryUnreadable dir e => s!"cannot read device directory {dir.display}: {e.message}"
  | devnodeLookupFailed devnum uevent e =>
    s!"cannot find device node for {devnum.text} via {uevent.display}: {e.message}"
  | invalidFourCc text => s!"invalid pixel format code {quote text}"

end PairingError

/-- The code that a text spells, or the complaint that it spells none. -/
def FourCc.parse (s : String) : Except PairingError FourCc :=
  match ofString? s with
  | some f => .ok f
  | none => .error (.invalidFourCc s)

end MediaPairing
