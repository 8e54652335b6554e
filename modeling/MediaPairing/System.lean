import MediaPairing.Access
import MediaPairing.KernelRecord
import MediaPairing.Report

/-!
# Systems

A run of the command needs more than discovery: the formats of a video node, the files that
name device nodes, and a place for the report. `System σ Fd` is access to devices together with
these.
-/

namespace MediaPairing

structure System (σ Fd : Type) extends Access σ Fd where
  /-- The record of the format at `index` of a queue. -/
  format : Fd → BufferQueue → Nat → StateM σ (Except Errno FormatRecord)
  /-- The text of a file. -/
  readText : Path → StateM σ (Except IoError String)
  /-- Puts a line to the report. -/
  print : ReportLine → StateM σ Unit

end MediaPairing
