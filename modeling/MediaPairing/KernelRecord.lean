import MediaPairing.Text.Fixed
import MediaPairing.Capability
import MediaPairing.PixelFormat

/-!
# Kernel records

What a device has to say reaches a program in a record with fixed-size text fields. Each
kind of answer has three forms here: the reply (`…Reply`), with texts as the bytes that the
device gives; the record (`…Record`), with the texts cut or padded to their fields; and the
value that is read from it.

* `CapabilityReply.record` writes the record and `CapabilityRecord.capability` reads it.
* `CapabilityReply.capability` is the value without the detour: its texts are neither cut
  nor trimmed.
-/

namespace MediaPairing

/-! ## The capability query -/

structure CapabilityReply where
  driver : Bytes := []
  card : Bytes := []
  busInfo : Bytes := []
  version : UInt32 := 0
  capabilities : UInt32 := 0
  deviceCaps : UInt32 := 0

structure CapabilityRecord where
  driver : FixedText 16
  card : FixedText 32
  busInfo : FixedText 32
  version : UInt32
  capabilities : UInt32
  deviceCaps : UInt32

def CapabilityRecord.capability (r : CapabilityRecord) : Capability where
  driver := r.driver.text
  card := r.card.text
  busInfo := r.busInfo.text
  version := r.version
  capabilities := r.capabilities
  deviceCaps := r.deviceCaps

namespace CapabilityReply

def record (r : CapabilityReply) : CapabilityRecord where
  driver := .ofBytes 16 r.driver
  card := .ofBytes 32 r.card
  busInfo := .ofBytes 32 r.busInfo
  version := r.version
  capabilities := r.capabilities
  deviceCaps := r.deviceCaps

def capability (r : CapabilityReply) : Capability where
  driver := Utf8.decodeLossy r.driver
  card := Utf8.decodeLossy r.card
  busInfo := Utf8.decodeLossy r.busInfo
  version := r.version
  capabilities := r.capabilities
  deviceCaps := r.deviceCaps

/-- The reply of a device with these capabilities. -/
def ofCapability (c : Capability) : CapabilityReply where
  driver := Utf8.encode c.driver
  card := Utf8.encode c.card
  busInfo := Utf8.encode c.busInfo
  version := c.version
  capabilities := c.capabilities
  deviceCaps := c.deviceCaps

end CapabilityReply

/-! ## The device information query -/

structure MediaInfoReply where
  driver : Bytes := []
  model : Bytes := []
  serial : Bytes := []
  busInfo : Bytes := []
  mediaVersion : UInt32 := 0
  hwRevision : UInt32 := 0
  driverVersion : UInt32 := 0

structure MediaInfoRecord where
  driver : FixedText 16
  model : FixedText 32
  serial : FixedText 40
  busInfo : FixedText 32
  mediaVersion : UInt32
  hwRevision : UInt32
  driverVersion : UInt32

def MediaInfoRecord.mediaInfo (r : MediaInfoRecord) : MediaInfo where
  driver := r.driver.text
  model := r.model.text
  serial := r.serial.text
  busInfo := r.busInfo.text
  mediaVersion := r.mediaVersion
  hwRevision := r.hwRevision
  driverVersion := r.driverVersion

namespace MediaInfoReply

def record (r : MediaInfoReply) : MediaInfoRecord where
  driver := .ofBytes 16 r.driver
  model := .ofBytes 32 r.model
  serial := .ofBytes 40 r.serial
  busInfo := .ofBytes 32 r.busInfo
  mediaVersion := r.mediaVersion
  hwRevision := r.hwRevision
  driverVersion := r.driverVersion

def mediaInfo (r : MediaInfoReply) : MediaInfo where
  driver := Utf8.decodeLossy r.driver
  model := Utf8.decodeLossy r.model
  serial := Utf8.decodeLossy r.serial
  busInfo := Utf8.decodeLossy r.busInfo
  mediaVersion := r.mediaVersion
  hwRevision := r.hwRevision
  driverVersion := r.driverVersion

/-- The reply of a controller with this information. -/
def ofMediaInfo (i : MediaInfo) : MediaInfoReply where
  driver := Utf8.encode i.driver
  model := Utf8.encode i.model
  serial := Utf8.encode i.serial
  busInfo := Utf8.encode i.busInfo
  mediaVersion := i.mediaVersion
  hwRevision := i.hwRevision
  driverVersion := i.driverVersion

end MediaInfoReply

/-! ## The format query -/

structure FormatReply where
  code : UInt32 := 0
  description : Bytes := []
  flags : UInt32 := 0

structure FormatRecord where
  code : UInt32
  description : FixedText 32
  flags : UInt32

def FormatReply.record (r : FormatReply) : FormatRecord where
  code := r.code
  description := .ofBytes 32 r.description
  flags := r.flags

def FormatRecord.pixelFormat (r : FormatRecord) : PixelFormat where
  fourcc := .ofWord r.code
  description := r.description.text
  flags := r.flags

end MediaPairing
