import MediaPairing.Machine.Basic

/-!
# The journal as text

A call is written in one of two wordings: as the system call that the kernel sees, or as
the operation that the caller asked for. A call ends in its outcome; a closed handle stands
for itself.
-/

namespace MediaPairing

inductive Wording where
  /-- The system calls. -/
  | kernel
  /-- The operations. -/
  | direct
deriving DecidableEq

namespace Call

def kernelText : Call → String
  | list dir => s!"list {dir.display}"
  | openVideo path => s!"open RDWR NONBLOCK CLOEXEC {path.display}"
  | openMedia path => s!"open RDWR CLOEXEC {path.display}"
  | capability h => s!"VIDIOC_QUERYCAP fd{h}"
  | mediaInfo h => s!"MEDIA_IOC_DEVICE_INFO fd{h}"
  | deviceNumber h => s!"fstat fd{h}"
  | interfaceCount h => s!"MEDIA_IOC_G_TOPOLOGY count fd{h}"
  | fillInterfaces capacity h => s!"MEDIA_IOC_G_TOPOLOGY fill capacity={capacity} fd{h}"
  | format queue index h => s!"VIDIOC_ENUM_FMT type={queue.raw.toNat} index={index} fd{h}"
  | read path => s!"read {path.display}"

def directText : Call → String
  | openVideo path => s!"open_video {path.display}"
  | openMedia path => s!"open_media {path.display}"
  | capability h => s!"query_capability fd{h}"
  | mediaInfo h => s!"query_media_info fd{h}"
  | deviceNumber h => s!"device_number fd{h}"
  | interfaceCount h => s!"interface_count fd{h}"
  | fillInterfaces capacity h => s!"fill_interfaces capacity={capacity} fd{h}"
  | call => call.kernelText

def text : Wording → Call → String
  | .kernel => kernelText
  | .direct => directText

end Call

def Outcome.text : Outcome → String
  | done => "ok"
  | opened h => s!"fd{h}"
  | failed e => s!"errno {e.code}"

namespace Event

/-- The line of a call or a close. -/
def traceLine? (w : Wording) : Event → Option String
  | called call outcome => some s!"{call.text w} -> {outcome.text}"
  | closed h => some s!"close fd{h}"
  | logged _ | printed _ => none

def logRecord? : Event → Option LogRecord
  | logged r => some r
  | _ => none

def reportLine? : Event → Option ReportLine
  | printed line => some line
  | _ => none

end Event

namespace Machine

/-- The calls and closes of the journal. -/
def trace (w : Wording) (m : Machine) : List String := m.journal.filterMap (·.traceLine? w)

def logRecords (m : Machine) : List LogRecord := m.journal.filterMap Event.logRecord?

def reportLines (m : Machine) : List ReportLine := m.journal.filterMap Event.reportLine?

/-- The open handles, lowest first. -/
def openHandles (m : Machine) : List Nat := (m.handles.map (·.1)).mergeSort

/-- The machine with an empty journal. -/
def forgetJournal (m : Machine) : Machine := { m with journal := [] }

end Machine

end MediaPairing
