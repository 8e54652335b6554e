import MediaPairing.PairingError

/-!
# Log records

What discovery reports while it runs. A record says what happened; its level and its text
follow from that.
-/

namespace MediaPairing

/-- How much a record matters, from errors down to details. -/
inductive LogLevel where
  | error
  | warn
  | info
  | debug
deriving DecidableEq

namespace LogLevel

def name : LogLevel → String
  | error => "ERROR"
  | warn => "WARN"
  | info => "INFO"
  | debug => "DEBUG"

/-- Errors have rank 1, details rank 4. -/
def rank : LogLevel → Nat
  | error => 1
  | warn => 2
  | info => 3
  | debug => 4

end LogLevel

inductive LogRecord where
  /-- The command line is read and logging works. -/
  | ready
  /-- A node is about to be opened. -/
  | probing (path : Path)
  /-- A node, or a filter's question to it, failed and is passed over. -/
  | skipped (error : PairingError)
  | rejected (path : Path) (card : String)
  | usingVideo (path : Path)
  | noVideoDevice
  | videoNumber (devnum : DeviceNumber)
  /-- A video interface of a controller is compared with the number looked for. -/
  | mediaNumber (devnum : DeviceNumber)
  | doesNotPublish (path : Path) (devnum : DeviceNumber)
  | usingMedia (path : Path)
  | noMediaDevice
  /-- The device node of an interface has no name. -/
  | unnamedNode (error : PairingError)
deriving DecidableEq

namespace LogRecord

def level : LogRecord → LogLevel
  | ready | rejected .. | doesNotPublish .. | unnamedNode _ => .debug
  | probing _ | usingVideo _ | videoNumber _ | mediaNumber _ | usingMedia _ => .info
  | skipped _ => .warn
  | noVideoDevice | noMediaDevice => .error

def text : LogRecord → String
  | ready => "Logging initialized"
  | probing path => s!"Probing device {path.display}"
  | skipped e | unnamedNode e => e.message
  | rejected path card => s!"{path.display} ({card}) rejected"
  | usingVideo path => s!"Using video device {path.display}"
  | noVideoDevice => "Could not find a valid video device"
  | videoNumber devnum => s!"video device number {devnum.text}"
  | mediaNumber devnum => s!"media device number {devnum.text}"
  | doesNotPublish path devnum => s!"{path.display} does not publish {devnum.text}"
  | usingMedia path => s!"Using media device {path.display}"
  | noMediaDevice => "Could not find a valid media device"

end LogRecord

end MediaPairing
