import MediaPairing.DeviceNumber

/-!
# Interfaces of a media controller

A controller's topology lists the interfaces that it publishes to programs, each with the
number of its device node. Only interfaces of the kind `v4lVideo` pair a controller with a
video node.

The kernel's record of an interface has 28 words. The first three are its id, its kind and its
flags. Nine reserved words follow, and then sixteen for what the kind of interface needs, of
which a device node takes the first two: the major and the minor number. No reading of a record
goes beyond these two, so `Interface` leaves out the reserved words and the other fourteen; they
only count in the size of a record, and with it in the size of a buffer.
-/

namespace MediaPairing

inductive InterfaceType where
  | dvbFrontend
  | dvbDemux
  | dvbDvr
  | dvbCa
  | dvbNet
  /-- The only kind that pairs a controller with a video node. -/
  | v4lVideo
  | v4lVbi
  | v4lRadio
  | v4lSubdev
  | v4lSwradio
  | v4lTouch
  | alsaPcmCapture
  | alsaPcmPlayback
  | alsaControl
  /-- A kind without a name of its own. -/
  | other (raw : UInt32)
deriving DecidableEq

namespace InterfaceType

def ofRaw (raw : UInt32) : InterfaceType :=
  if raw = 0x100 then .dvbFrontend
  else if raw = 0x101 then .dvbDemux
  else if raw = 0x102 then .dvbDvr
  else if raw = 0x103 then .dvbCa
  else if raw = 0x104 then .dvbNet
  else if raw = 0x200 then .v4lVideo
  else if raw = 0x201 then .v4lVbi
  else if raw = 0x202 then .v4lRadio
  else if raw = 0x203 then .v4lSubdev
  else if raw = 0x204 then .v4lSwradio
  else if raw = 0x205 then .v4lTouch
  else if raw = 0x300 then .alsaPcmCapture
  else if raw = 0x301 then .alsaPcmPlayback
  else if raw = 0x302 then .alsaControl
  else .other raw

def raw : InterfaceType → UInt32
  | dvbFrontend => 0x100
  | dvbDemux => 0x101
  | dvbDvr => 0x102
  | dvbCa => 0x103
  | dvbNet => 0x104
  | v4lVideo => 0x200
  | v4lVbi => 0x201
  | v4lRadio => 0x202
  | v4lSubdev => 0x203
  | v4lSwradio => 0x204
  | v4lTouch => 0x205
  | alsaPcmCapture => 0x300
  | alsaPcmPlayback => 0x301
  | alsaControl => 0x302
  | other raw => raw

end InterfaceType

/-- One record of the interface list, as the kernel writes it. -/
structure Interface where
  id : UInt32 := 0
  rawType : UInt32 := 0
  flags : UInt32 := 0
  devnode : DeviceNumber := ⟨0, 0⟩
deriving DecidableEq, Inhabited

namespace Interface

/-- An interface without flags. -/
def ofType (id : UInt32) (type : InterfaceType) (devnode : DeviceNumber) : Interface where
  id := id
  rawType := type.raw
  devnode := devnode

def type (i : Interface) : InterfaceType := .ofRaw i.rawType

def isVideo (i : Interface) : Bool := i.type == .v4lVideo

/-- The record that a zeroed buffer holds. -/
def zero : Interface := {}

/-- The bytes that one record takes. -/
def recordSize : Nat := 112

end Interface

end MediaPairing
