import MediaPairing.Machine.Access
import MediaPairing.Formats
import MediaPairing.Devnode

/-!
# A machine as a system

A run of the command goes through the kernel's interface (`Machine.kernel`). The world may stay
as it is while the run goes on (`Machine.system`), or anyone may change it between two calls
(`Machine.changing`). Who changes it has seen all that has happened so far, and may put any world
in place of the one that was.
-/

namespace MediaPairing

namespace Machine

/-- A machine that nobody else works with. -/
def system : System Machine Nat where
  toAccess := kernel
  format := queryFormat
  readText := readText
  print := print

/-! ## Changes between two calls -/

/-- What becomes of a world, after all that has happened. -/
abbrev Change := List Event → World → World

/-- A call that finds the world as `change` has left it. -/
def amid {α : Type} (change : Change) (call : StateM Machine α) : StateM Machine α := do
  modify fun m => { m with world := change m.journal m.world }
  call

/-- A machine whose world changes between two calls. -/
def changing (change : Change) : System Machine Nat where
  entries dir := amid change (kernel.entries dir)
  openVideo path := amid change (kernel.openVideo path)
  openMedia path := amid change (kernel.openMedia path)
  capability handle := amid change (kernel.capability handle)
  mediaInfo handle := amid change (kernel.mediaInfo handle)
  deviceNumber handle := amid change (kernel.deviceNumber handle)
  interfaceCount handle := amid change (kernel.interfaceCount handle)
  fillInterfaces handle buffer := amid change (kernel.fillInterfaces handle buffer)
  close := close
  log := log
  allocationLimit := kernel.allocationLimit
  format handle queue index := amid change (queryFormat handle queue index)
  readText path := amid change (readText path)
  print := print

/-- A world that stays as it is. -/
theorem changing_unchanged : changing (fun _ w => w) = system := rfl

end Machine

/-! ## On a machine that nobody else works with -/

/-- The formats that `video` offers on a queue. -/
abbrev formats (video : VideoDevice Nat) (queue : BufferQueue) :
    StateM Machine (Except PairingError (List PixelFormat)) :=
  Machine.system.formats video queue

/-- Whether `video` offers `fourcc` on any queue. -/
abbrev supportsFormat (video : VideoDevice Nat) (fourcc : FourCc) :
    StateM Machine (Except PairingError Bool) :=
  Machine.system.supportsFormat video fourcc

/-- The path of the node with the number `devnum`, under `devDir`. -/
abbrev devnodePath (devnum : DeviceNumber) (sysDir devDir : Path) :
    StateM Machine (Except PairingError Path) :=
  Machine.system.devnodePath devnum sysDir devDir

end MediaPairing
