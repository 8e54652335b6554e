import MediaPairing.Text.Utf8

/-!
# Paths

A path is a byte list; nothing is normalised. Two operations look inside it: `join` puts a
name under a directory, and `key` splits a path into its components, by which an in-memory
tree looks its nodes up and a criterion knows a device.

* `Path.join`: an absolute name stands alone, any other is put after the directory with one
  `/` between, unless the directory is empty or already ends in `/`.
* `Path.key`: repeated and trailing `/` do not count, nor does a `.` that is not the
  beginning of a relative path; `..` is a component like any other.
-/

namespace MediaPairing

structure Path where
  bytes : Bytes
deriving DecidableEq, Inhabited

namespace Path

/-- The byte `/`. -/
def slash : UInt8 := 0x2F

/-- The byte `.`. -/
def dot : UInt8 := 0x2E

/-- The path that a text spells. -/
def ofString (s : String) : Path := ⟨Utf8.encode s⟩

/-- The path as text, with U+FFFD where it is not UTF-8. -/
def display (p : Path) : String := Utf8.decodeLossy p.bytes

def isAbsolute (p : Path) : Bool := p.bytes.head? == some slash

/-- The bytes between a directory and a name under it. -/
def separator (dir : Path) : Bytes :=
  if dir.bytes.isEmpty || dir.bytes.getLast? == some slash then [] else [slash]

/-- The path of `name` seen from `dir`. -/
def join (dir name : Path) : Path :=
  if name.isAbsolute then name else ⟨dir.bytes ++ dir.separator ++ name.bytes⟩

/-- Whether a NUL byte stands in the path, which no system call can be given. -/
def hasNul (p : Path) : Bool := p.bytes.contains 0

/-! ## Components -/

/-- The pieces between the slashes, empty ones included. -/
def segments : Bytes → List Bytes
  | [] => [[]]
  | b :: rest =>
    if b = slash then [] :: segments rest
    else
      match segments rest with
      | [] => [[b]]
      | s :: ss => (b :: s) :: ss

/-- What different spellings of a path have in common: whether it is absolute, and its
components. -/
structure Key where
  absolute : Bool
  parts : List Bytes
deriving DecidableEq

/-- Whether a segment is neither empty nor `.`. -/
def isProper (s : Bytes) : Bool := !s.isEmpty && s != [dot]

def key (p : Path) : Key where
  absolute := p.isAbsolute
  parts :=
    match segments p.bytes with
    | [] => []
    | s :: ss => (if s = [dot] then [s] else [s].filter isProper) ++ ss.filter isProper

/-- The part after the last `/`. -/
def lastSegment (p : Path) : Bytes := (segments p.bytes).getLast?.getD []

end Path

end MediaPairing
