/-!
# What a device says about itself

`Capability` is a video node's answer to the capability query, `MediaInfo` a media
controller's answer to the device information query. Version words split into three bytes.

A capability record has two flag words: one for the whole physical device and one for the
node. Every test looks at `nodeCaps`, which is the node's own word whenever the record
says that it has one.
-/

namespace MediaPairing

/-- A version `major.minor.patch`. -/
structure KernelVersion where
  major : UInt8
  minor : UInt8
  patch : UInt8
deriving DecidableEq

namespace KernelVersion

/-- The version that a word holds in its three low bytes. -/
def ofWord (w : UInt32) : KernelVersion where
  major := (w >>> (16 : UInt32)).toUInt8
  minor := (w >>> (8 : UInt32)).toUInt8
  patch := w.toUInt8

def text (v : KernelVersion) : String :=
  s!"{v.major.toNat}.{v.minor.toNat}.{v.patch.toNat}"

end KernelVersion

structure Capability where
  driver : String := ""
  card : String := ""
  busInfo : String := ""
  version : UInt32 := 0
  /-- The flags of the whole physical device. -/
  capabilities : UInt32 := 0
  /-- The flags of this node, valid if `capabilities` says so. -/
  deviceCaps : UInt32 := 0
deriving DecidableEq, Inhabited

namespace Capability

/-! ## Flags -/

def videoCapture : UInt32 := 0x00000001
def videoOutput : UInt32 := 0x00000002
def videoCaptureMplane : UInt32 := 0x00001000
def videoOutputMplane : UInt32 := 0x00002000
def videoM2mMplane : UInt32 := 0x00004000
def videoM2m : UInt32 := 0x00008000
def streaming : UInt32 := 0x04000000
/-- Says that `deviceCaps` is valid. -/
def deviceCapsValid : UInt32 := 0x80000000

/-- The flags that hold for this node. -/
def nodeCaps (c : Capability) : UInt32 :=
  if c.capabilities &&& deviceCapsValid != 0 then c.deviceCaps else c.capabilities

/-- Whether the node has all of `flags`. -/
def has (c : Capability) (flags : UInt32) : Bool := c.nodeCaps &&& flags == flags

/-- Whether the node captures video, on either kind of queue. -/
def isCapture (c : Capability) : Bool :=
  c.nodeCaps &&& (videoCapture ||| videoCaptureMplane) != 0

/-- Whether the node converts video from memory to memory, on either kind of queue. -/
def isM2m (c : Capability) : Bool := c.nodeCaps &&& (videoM2m ||| videoM2mMplane) != 0

def kernelVersion (c : Capability) : KernelVersion := .ofWord c.version

end Capability

structure MediaInfo where
  driver : String := ""
  model : String := ""
  serial : String := ""
  busInfo : String := ""
  mediaVersion : UInt32 := 0
  hwRevision : UInt32 := 0
  driverVersion : UInt32 := 0
deriving DecidableEq, Inhabited

end MediaPairing
