import MediaPairing.Text.Utf8

/-!
# Plain text

Terminals act on control characters and on the sequences that an escape character begins.
Plain text is what is left of a text without them.

* Characters of a sequence are dropped up to the one that ends it. How a sequence ends
  depends on how it begins.
* Tabs, line feeds, form feeds and carriage returns are kept, also inside the sequences that
  a terminal would carry them out in. What follows such a character is read as text up to the
  next control character that is dropped; then the sequence goes on.
* `plainText` is the plain text of a text.
-/

namespace MediaPairing

/-- What the next character belongs to. -/
inductive TextPart where
  | text
  /-- A sequence of which only the escape character has been read. -/
  | escape
  /-- A short sequence, after its first character. -/
  | shortSequence
  /-- A control sequence: `[` after the escape character. -/
  | controlSequence
  /-- The beginning of a device control string: `P` after the escape character. -/
  | deviceStart
  | deviceParameters
  | deviceIntermediate
  /-- A string that only ends where the next sequence begins, or with the string terminator. -/
  | stringBody
  /-- A system command: `]` after the escape character. It ends with a bell. -/
  | systemCommand
deriving DecidableEq

/-- The control characters that plain text keeps. -/
def isKeptControl (c : Char) : Bool := c == '\t' || c == '\n' || c == '\x0c' || c == '\r'

/-- The characters that plain text keeps where it does not belong to a sequence. -/
def isPlain (c : Char) : Bool := isKeptControl c || (' ' ≤ c && c != '\x7f')

/-- Whether one of the bytes of `c` is the string terminator. -/
def holdsTerminator (c : Char) : Bool := (String.utf8EncodeChar c).contains 0x9C

namespace TextPart

/-- Whether control characters inside the part are carried out. -/
def carriesOutControls : TextPart → Bool
  | escape | shortSequence | controlSequence => true
  | _ => false

/-- The part after a character of the part. -/
def next (part : TextPart) (c : Char) : TextPart :=
  let isIntermediate := ' ' ≤ c && c ≤ '/'
  let isFinal := '@' ≤ c && c ≤ '~'
  match part with
  | text => text
  | escape =>
    if isIntermediate then shortSequence
    else if c = '[' then controlSequence
    else if c = ']' then systemCommand
    else if c = 'P' then deviceStart
    else if c = 'X' ∨ c = '^' ∨ c = '_' then stringBody
    else if '0' ≤ c ∧ c ≤ '~' then text
    else escape
  | shortSequence => if '0' ≤ c ∧ c ≤ '~' then text else shortSequence
  | controlSequence => if isFinal then text else controlSequence
  | deviceStart =>
    if isIntermediate then deviceIntermediate
    else if '0' ≤ c ∧ c ≤ '?' then deviceParameters
    else if isFinal then stringBody
    else deviceStart
  | deviceParameters =>
    if isIntermediate then deviceIntermediate
    else if '<' ≤ c ∧ c ≤ '~' then stringBody
    else deviceParameters
  | deviceIntermediate => if '0' ≤ c ∧ c ≤ '~' then stringBody else deviceIntermediate
  | stringBody => if holdsTerminator c then text else stringBody
  | systemCommand => if c = '\x07' then text else systemCommand

end TextPart

/-- Where the reading of a text is. -/
structure PlainReader where
  part : TextPart := .text
  /-- Whether the last character was kept. -/
  isKept : Bool := false

namespace PlainReader

/-- Reads one character. -/
def read (r : PlainReader) (c : Char) : PlainReader :=
  if c = '\x18' ∨ c = '\x1a' then ⟨.text, false⟩
  else if c = '\x1b' then ⟨.escape, false⟩
  else if r.isKept || r.part = .text then ⟨if c.toNat < 0x80 then r.part else .text, isPlain c⟩
  else ⟨r.part.next c, r.part.carriesOutControls && isKeptControl c⟩

/-- The characters that are kept. -/
def keep (r : PlainReader) : List Char → List Char
  | [] => []
  | c :: rest =>
    let after := r.read c
    if after.isKept then c :: keep after rest else keep after rest

end PlainReader

def plainText (s : String) : String := String.ofList (PlainReader.keep {} s.toList)

end MediaPairing
