import MediaPairing.Capability
import MediaPairing.Interface
import MediaPairing.LogRecord

/-!
# Access to devices

`Access σ Fd` is all that discovery asks of a system with state `σ` and descriptors `Fd`:
listing a directory, opening and closing nodes, the queries on an open node, memory for what
they give, and a log. The searches are written over it, so they run unchanged on every system.

A device owns its descriptor: who is done with a device closes it.
-/

namespace MediaPairing

/-- An open video node. -/
structure VideoDevice (Fd : Type) where
  path : Path
  fd : Fd
  capability : Capability

/-- An open media controller. -/
structure MediaDevice (Fd : Type) where
  path : Path
  fd : Fd
  info : MediaInfo

/-- The most bytes that a buffer may have on a usual system. -/
def usualAllocationLimit : Nat := 64 * 1024 * 1024

structure Access (σ Fd : Type) where
  /-- The names in a directory, in the order in which the system gives them. -/
  entries : Path → StateM σ (Except IoError (List Bytes))
  openVideo : Path → StateM σ (Except Errno Fd)
  openMedia : Path → StateM σ (Except Errno Fd)
  capability : Fd → StateM σ (Except Errno Capability)
  mediaInfo : Fd → StateM σ (Except Errno MediaInfo)
  deviceNumber : Fd → StateM σ (Except Errno DeviceNumber)
  interfaceCount : Fd → StateM σ (Except Errno UInt32)
  /-- Writes the interfaces to the buffer; the answer is how many were written, and the
  buffer afterwards. -/
  fillInterfaces : Fd → List Interface → StateM σ (Except Errno Nat × List Interface)
  close : Fd → StateM σ Unit
  log : LogRecord → StateM σ Unit
  /-- No buffer of more bytes than this can be had. -/
  allocationLimit : Nat

/-- The directory that is searched if none is named. -/
def defaultDir : Path := .ofString "/dev"

/-- The paths of the names in `dir` that begin with `stem`, in the order of the listing. -/
def candidates (stem : String) (dir : Path) (names : List Bytes) : List Path :=
  (names.filter ((Utf8.encode stem).isPrefixOf ·)).map (dir.join ⟨·⟩)

end MediaPairing
