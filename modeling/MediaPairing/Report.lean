import MediaPairing.Capability
import MediaPairing.PixelFormat
import MediaPairing.Path
import MediaPairing.DeviceNumber

/-!
# The report

The lines in which a pair of devices is described: the video node first, then the
controller with its video interfaces.
-/

namespace MediaPairing

inductive ReportLine where
  | video (path : Path)
  | videoDriver (name : String)
  | card (name : String)
  | videoBus (info : String)
  | deviceNumber (devnum : DeviceNumber)
  /-- A format that was asked for, on one of the queues that offer it. -/
  | format (queue : BufferQueue) (format : PixelFormat)
  | media (path : Path)
  | mediaDriver (name : String)
  | model (name : String)
  | mediaBus (info : String)
  | mediaVersion (version : KernelVersion)
  /-- A video interface, with the path of its device node if that is known. -/
  | interface (id : UInt32) (devnum : DeviceNumber) (node : Option Path)
deriving DecidableEq

def ReportLine.text : ReportLine → String
  | video path => s!"video: {path.display}"
  | videoDriver name | mediaDriver name => s!"  driver: {name}"
  | card name => s!"  card: {name}"
  | videoBus info | mediaBus info => s!"  bus info: {info}"
  | deviceNumber devnum => s!"  device number: {devnum.text}"
  | format queue f => s!"  {queue.name}: {f.fourcc.text} ({f.description})"
  | media path => s!"media: {path.display}"
  | model name => s!"  model: {name}"
  | mediaVersion version => s!"  media version: {version.text}"
  | interface id devnum node =>
    let name := (node.map Path.display).getD "?"
    s!"  video interface {id.toNat}: {devnum.text} ({name})"

end MediaPairing
