import MediaPairing.FourCc

/-!
# Queues and pixel formats

A video node offers pixel formats on up to four kinds of buffer queue. `BufferQueue.all`
is the order in which they are asked.
-/

namespace MediaPairing

inductive BufferQueue where
  | videoCapture
  | videoCaptureMplane
  | videoOutput
  | videoOutputMplane
deriving DecidableEq

namespace BufferQueue

def all : List BufferQueue := [videoCapture, videoCaptureMplane, videoOutput, videoOutputMplane]

/-- The kernel's number for the queue. -/
def raw : BufferQueue → UInt32
  | videoCapture => 1
  | videoCaptureMplane => 9
  | videoOutput => 2
  | videoOutputMplane => 10

def name : BufferQueue → String
  | videoCapture => "VideoCapture"
  | videoCaptureMplane => "VideoCaptureMplane"
  | videoOutput => "VideoOutput"
  | videoOutputMplane => "VideoOutputMplane"

end BufferQueue

structure PixelFormat where
  fourcc : FourCc
  description : String
  flags : UInt32
deriving DecidableEq

end MediaPairing
