import MediaPairing.CommandLine.Console
import MediaPairing.Proofs.Text.Wording

/-!
# What a report reads

The lines of a report, written out.

* `videoTexts`, `mediaTexts`: the lines on a video node and on a controller.
* `formatText`, `Options.interfaceText`: the line of a format and that of an interface.
* `reportText_eq`: a report is its lines, each one ended.
-/

namespace MediaPairing

/-! ## Lines -/

def shownQueue : BufferQueue → String
  | .videoCapture => "VideoCapture"
  | .videoCaptureMplane => "VideoCaptureMplane"
  | .videoOutput => "VideoOutput"
  | .videoOutputMplane => "VideoOutputMplane"

theorem BufferQueue.name_eq (queue : BufferQueue) : queue.name = shownQueue queue := by
  cases queue <;> rfl

/-- The lines on a video node with the number `devnum`. -/
def videoTexts (video : VideoDevice Nat) (devnum : DeviceNumber) : List String :=
  ["video: " ++ shownPath video.path,
    "  driver: " ++ video.capability.driver,
    "  card: " ++ video.capability.card,
    "  bus info: " ++ video.capability.busInfo,
    "  device number: " ++ shownNumber devnum]

/-- The line of a format that a queue offers. -/
def formatText (queue : BufferQueue) (f : PixelFormat) : String :=
  "  " ++ shownQueue queue ++ ": " ++ shownCode f.fourcc ++ " (" ++ f.description ++ ")"

/-- The lines on a controller before those of its interfaces. -/
def mediaTexts (media : MediaDevice Nat) : List String :=
  ["media: " ++ shownPath media.path,
    "  driver: " ++ media.info.driver,
    "  model: " ++ media.info.model,
    "  bus info: " ++ media.info.busInfo,
    "  media version: " ++ shownVersion media.info.mediaVersion]

/-- The line of an interface. It ends in the name that the files of the machine give to the
device node, or in `?` if they give none. -/
def Options.interfaceText (o : Options) (m : Machine) (i : Interface) : String :=
  let name :=
    match ((devnodePath i.devnode o.sysDir o.devDir).run m).1 with
    | .ok path => shownPath path
    | .error _ => "?"
  "  video interface " ++ toString i.id.toNat ++ ": " ++ shownNumber i.devnode ++ " (" ++ name ++
    ")"

theorem text_format (queue : BufferQueue) (f : PixelFormat) :
    (ReportLine.format queue f).text = formatText queue f := by
  unfold formatText
  rw [← queue.name_eq, ← f.fourcc.text_eq]
  rfl

theorem text_mediaVersion (w : UInt32) :
    (ReportLine.mediaVersion (.ofWord w)).text = "  media version: " ++ shownVersion w := by
  rw [← text_ofWord]
  rfl

/-! ## Reports -/

/-- The text of lines, each one ended by a line feed. -/
def printedText (texts : List String) : String := String.join (texts.map (· ++ "\n"))

theorem reportText_eq (lines : List ReportLine) :
    reportText lines = printedText (lines.map ReportLine.text) := by
  unfold reportText printedText
  rw [List.map_map]
  rfl

end MediaPairing
