/-!
# UTF-8 over byte lists

A byte list is read from the left into pieces: a scalar value where a well-formed
sequence stands, and a gap where none does. A gap covers the longest beginning of a
well-formed sequence that the bytes allow (one byte where not even the first can begin
one), so reading goes on with the first byte that does not fit.

* `pieces` is this reading, with `none` for a gap.
* `decode?` asks for a reading without gaps; `decodeLossy` shows each gap as U+FFFD.
* `encode` writes the UTF-8 bytes of a text.
-/

namespace MediaPairing

/-- Raw bytes, as names, paths and file contents hold them. -/
abbrev Bytes := List UInt8

namespace Utf8

/-! ## Classes of bytes -/

/-- A byte that continues a sequence: `80`–`BF`. -/
def isTail (b : UInt8) : Bool := 0x80 ≤ b && b ≤ 0xBF

/-- The bytes that may follow `b` in a sequence of three: overlong forms and surrogates
are excluded here. -/
def isSecondOfThree (b c : UInt8) : Bool :=
  if b = 0xE0 then 0xA0 ≤ c && c ≤ 0xBF
  else if b = 0xED then 0x80 ≤ c && c ≤ 0x9F
  else isTail c

/-- The bytes that may follow `b` in a sequence of four: overlong forms and values above
`10FFFF` are excluded here. -/
def isSecondOfFour (b c : UInt8) : Bool :=
  if b = 0xF0 then 0x90 ≤ c && c ≤ 0xBF
  else if b = 0xF4 then 0x80 ≤ c && c ≤ 0x8F
  else isTail c

/-! ## Scalar values -/

/-- The low six bits, which is what a continuation byte carries. -/
def low6 (b : UInt8) : Nat := b.toNat % 64

def oneByte (b : UInt8) : Char := Char.ofNat b.toNat

def twoBytes (b c : UInt8) : Char := Char.ofNat (b.toNat % 32 * 64 + low6 c)

def threeBytes (b c d : UInt8) : Char :=
  Char.ofNat (b.toNat % 16 * 4096 + low6 c * 64 + low6 d)

def fourBytes (b c d e : UInt8) : Char :=
  Char.ofNat (b.toNat % 8 * 262144 + low6 c * 4096 + low6 d * 64 + low6 e)

/-! ## Reading -/

/-- The scalar values and gaps of a byte list, from the left. -/
def pieces : Bytes → List (Option Char)
  | [] => []
  | b :: rest =>
    if b < 0x80 then some (oneByte b) :: pieces rest
    else if 0xC2 ≤ b ∧ b ≤ 0xDF then
      match rest with
      | [] => [none]
      | c :: rest₁ =>
        if isTail c then some (twoBytes b c) :: pieces rest₁
        else none :: pieces (c :: rest₁)
    else if 0xE0 ≤ b ∧ b ≤ 0xEF then
      match rest with
      | [] => [none]
      | [c] => if isSecondOfThree b c then [none] else none :: pieces [c]
      | c :: d :: rest₂ =>
        if isSecondOfThree b c then
          if isTail d then some (threeBytes b c d) :: pieces rest₂
          else none :: pieces (d :: rest₂)
        else none :: pieces (c :: d :: rest₂)
    else if 0xF0 ≤ b ∧ b ≤ 0xF4 then
      match rest with
      | [] => [none]
      | [c] => if isSecondOfFour b c then [none] else none :: pieces [c]
      | [c, d] =>
        if isSecondOfFour b c then
          if isTail d then [none] else none :: pieces [d]
        else none :: pieces [c, d]
      | c :: d :: e :: rest₃ =>
        if isSecondOfFour b c then
          if isTail d then
            if isTail e then some (fourBytes b c d e) :: pieces rest₃
            else none :: pieces (e :: rest₃)
          else none :: pieces (d :: e :: rest₃)
        else none :: pieces (c :: d :: e :: rest₃)
    else none :: pieces rest

/-- The text of a reading without gaps. -/
def gapless : List (Option Char) → Option (List Char)
  | [] => some []
  | none :: _ => none
  | some c :: ps => (gapless ps).map (c :: ·)

/-- The text that `bs` holds, if all of it is well-formed. -/
def decode? (bs : Bytes) : Option String := (gapless (pieces bs)).map String.ofList

/-- The text that `bs` holds, with U+FFFD at each gap. -/
def decodeLossy (bs : Bytes) : String := String.ofList ((pieces bs).map (·.getD '\uFFFD'))

/-! ## Writing -/

/-- The UTF-8 bytes of a text. -/
def encode (s : String) : Bytes := s.toList.flatMap String.utf8EncodeChar

end Utf8

end MediaPairing
