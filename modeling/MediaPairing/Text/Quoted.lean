import MediaPairing.Text.Printable

/-!
# Quoted text

A text between double quotes. The quote and the backslash are written with a backslash
before them, tab, line feed, carriage return and NUL as `\t`, `\n`, `\r` and `\0`, and any
other character that is unprintable or extends the one before it by its code point, in
lower-case hexadecimal digits between braces. An apostrophe stands for itself.
-/

namespace MediaPairing

/-- The written form of one character. -/
def quoteChar (c : Char) : List Char :=
  if c = '"' then ['\\', '"']
  else if c = '\\' then ['\\', '\\']
  else if c = '\t' then ['\\', 't']
  else if c = '\n' then ['\\', 'n']
  else if c = '\r' then ['\\', 'r']
  else if c = '\x00' then ['\\', '0']
  else if isPrintable c && !isExtending c then [c]
  else ['\\', 'u', '{'] ++ Nat.toDigits 16 c.toNat ++ ['}']

/-- The quoted form of a text. -/
def quote (s : String) : String :=
  String.ofList ('"' :: s.toList.flatMap quoteChar ++ ['"'])

end MediaPairing
