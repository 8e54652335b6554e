import MediaPairing.Text.Utf8

/-!
# Pixel format codes

A code is four bytes, such as `YUYV`. It has a number form, whose lowest byte is the first
byte of the code, and a text form.

* `FourCc.ofString?` reads up to four ASCII characters and pads with spaces.
* `FourCc.text` shows every byte that is neither graphic ASCII nor a space as a full stop.
-/

namespace MediaPairing

structure FourCc where
  byte₀ : UInt8
  byte₁ : UInt8
  byte₂ : UInt8
  byte₃ : UInt8
deriving DecidableEq, Inhabited

namespace FourCc

def bytes (f : FourCc) : Bytes := [f.byte₀, f.byte₁, f.byte₂, f.byte₃]

def ofWord (w : UInt32) : FourCc where
  byte₀ := UInt8.ofNat (w.toNat % 256)
  byte₁ := UInt8.ofNat (w.toNat / 256 % 256)
  byte₂ := UInt8.ofNat (w.toNat / 65536 % 256)
  byte₃ := UInt8.ofNat (w.toNat / 16777216 % 256)

def toWord (f : FourCc) : UInt32 :=
  UInt32.ofNat (f.byte₀.toNat + 256 * f.byte₁.toNat + 65536 * f.byte₂.toNat +
    16777216 * f.byte₃.toNat)

/-- The code of one to four bytes, padded with spaces on the right. -/
def ofBytes? : Bytes → Option FourCc
  | [a] => some ⟨a, 0x20, 0x20, 0x20⟩
  | [a, b] => some ⟨a, b, 0x20, 0x20⟩
  | [a, b, c] => some ⟨a, b, c, 0x20⟩
  | [a, b, c, d] => some ⟨a, b, c, d⟩
  | _ => none

/-- The code that a text spells, if it is one to four ASCII characters. -/
def ofString? (s : String) : Option FourCc :=
  let bs := Utf8.encode s
  if bs.all (· < 0x80) then ofBytes? bs else none

/-- Graphic ASCII characters and the space. -/
def isShown (b : UInt8) : Bool := 0x20 ≤ b && b ≤ 0x7E

def shown (b : UInt8) : Char := if isShown b then Char.ofNat b.toNat else '.'

def text (f : FourCc) : String := String.ofList (f.bytes.map shown)

end FourCc

end MediaPairing
