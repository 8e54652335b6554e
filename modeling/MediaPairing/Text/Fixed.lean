import MediaPairing.Text.Utf8
import MediaPairing.Text.Blank

/-!
# Text in fixed-size fields

Kernel records hold texts in byte fields of a fixed size, padded with NUL. A text that
fills its field has no NUL after it.

* `FixedText.ofBytes` writes a field: the bytes are cut to the size, or padded.
* `FixedText.text` reads it: the bytes before the first NUL, decoded and trimmed.
-/

namespace MediaPairing

/-- The bytes before the first NUL, or all of them. -/
def beforeNul (bs : Bytes) : Bytes := bs.takeWhile (· != 0)

/-- The text of a NUL-padded byte string. -/
def paddedText (bs : Bytes) : String :=
  String.ofList (trim (Utf8.decodeLossy (beforeNul bs)).toList)

/-- A field of `size` bytes. -/
structure FixedText (size : Nat) where
  bytes : Bytes
  length_bytes : bytes.length = size

namespace FixedText

/-- The field that holds as much of `bs` as fits. -/
def ofBytes (size : Nat) (bs : Bytes) : FixedText size where
  bytes := (bs ++ List.replicate size 0).take size
  length_bytes := by simp

def text {size : Nat} (f : FixedText size) : String := paddedText f.bytes

end FixedText

end MediaPairing
