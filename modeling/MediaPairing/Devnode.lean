import MediaPairing.Pattern.Captures
import MediaPairing.System
import MediaPairing.Text.Blank

/-!
# Names of device nodes

The system's device tree describes each device number in a file of `KEY=value` lines. The
value of `DEVNAME`, put under the device directory, is the path of the node.

* `devname?` finds the value by an expression with a group, and trims it.
* `System.devnodePath` reads the file of a device number and no other.
-/

namespace MediaPairing

/-- What the expression has in parentheses: characters other than a line feed. -/
def devnameGroup : Pattern := .repeat (.chars [(0, 9), (11, 0x10FFFF)]) 1 none

/-- The expression `(?m)^DEVNAME=(.+)$`. -/
def devnamePattern : Pattern :=
  .seq (.anchor .lineStart)
    (.seq (.literal "DEVNAME=".toList) (.seq (.group 1 devnameGroup) (.anchor .lineEnd)))

/-- The name of the device node that a description gives, if it gives one. -/
def devname? (description : String) : Option String := do
  let text := description.toList
  let groups ← devnamePattern.captures? text.toArray
  let (start, stop) ← groups.lookup 1
  let name := trim (text.extract start stop)
  if name.isEmpty then none else some (String.ofList name)

/-- The file that describes a device number. -/
def ueventPath (sysDir : Path) (devnum : DeviceNumber) : Path :=
  sysDir.join (.ofString s!"dev/char/{devnum.text}/uevent")

/-- The path of the node with the number `devnum`, under `devDir`. -/
def System.devnodePath {σ Fd : Type} (sys : System σ Fd) (devnum : DeviceNumber)
    (sysDir devDir : Path) : StateM σ (Except PairingError Path) := do
  let uevent := ueventPath sysDir devnum
  match ← sys.readText uevent with
  | .error e => return .error (.devnodeLookupFailed devnum uevent e)
  | .ok description =>
    match devname? description with
    | none => return .error (.devnodeLookupFailed devnum uevent .noDevname)
    | some name => return .ok (devDir.join (.ofString name))

end MediaPairing
