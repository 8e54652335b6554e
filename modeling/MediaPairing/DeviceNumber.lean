/-!
# Device numbers

The `(major, minor)` pair by which the kernel knows a character device, and its packed
64-bit form. In the packed word the low eight bits and bits 20 to 31 are the minor number,
bits 8 to 19 and 32 and up the major number.
-/

namespace MediaPairing

structure DeviceNumber where
  major : UInt32
  minor : UInt32
deriving DecidableEq, Inhabited

namespace DeviceNumber

/-- The number as `major:minor`. -/
def text (d : DeviceNumber) : String := s!"{d.major.toNat}:{d.minor.toNat}"

/-- The major number held in a packed word. -/
def majorBits (w : UInt64) : UInt64 :=
  (w >>> (32 : UInt64) &&& 0xFFFFF000) ||| (w >>> (8 : UInt64) &&& 0xFFF)

/-- The minor number held in a packed word. -/
def minorBits (w : UInt64) : UInt64 :=
  (w >>> (12 : UInt64) &&& 0xFFFFFF00) ||| (w &&& 0xFF)

def unpack (w : UInt64) : DeviceNumber := ⟨(majorBits w).toUInt32, (minorBits w).toUInt32⟩

def pack (d : DeviceNumber) : UInt64 :=
  let major := d.major.toUInt64
  let minor := d.minor.toUInt64
  (major &&& 0xFFFFF000) <<< (32 : UInt64) ||| (major &&& 0xFFF) <<< (8 : UInt64) |||
    (minor &&& 0xFFFFFF00) <<< (12 : UInt64) ||| (minor &&& 0xFF)

end DeviceNumber

end MediaPairing
