import MediaPairing.System

/-!
# Pixel formats of a video node

A queue's formats are asked for one by one, from index 0, until the kernel calls the index
invalid; that is the end of the list, and an empty list for a queue that the node does not
have. Any other failure ends the enumeration without a result.

* `System.formats` lists one queue, `System.supportsFormat` looks for a code on all of them.
-/

namespace MediaPairing

namespace System

variable {σ Fd : Type} (sys : System σ Fd)

/-- The formats of a queue from `index` on. An index is a 32-bit word. -/
def formatsFrom (fd : Fd) (queue : BufferQueue) (index : Nat) :
    StateM σ (Except ListingFailure (List PixelFormat)) := do
  if index < UInt32.size then
    match ← sys.format fd queue index with
    | .ok record =>
      match ← formatsFrom fd queue (index + 1) with
      | .ok rest => return .ok (record.pixelFormat :: rest)
      | .error e => return .error e
    | .error e => return if e = .invalidArgument then .ok [] else .error (.os e)
  else return .error .indexOverflow
termination_by UInt32.size - index

/-- The formats that `video` offers on a queue. -/
def formats (video : VideoDevice Fd) (queue : BufferQueue) :
    StateM σ (Except PairingError (List PixelFormat)) := do
  match ← sys.formatsFrom video.fd queue 0 with
  | .error e => return .error (.formatQueryFailed video.path e)
  | .ok fs => return .ok fs

/-- Whether one of `queues` offers `fourcc`. The first queue that offers it, or that cannot
be enumerated, decides. -/
def anyOffers (video : VideoDevice Fd) (fourcc : FourCc) :
    List BufferQueue → StateM σ (Except PairingError Bool)
  | [] => return .ok false
  | queue :: rest => do
    match ← sys.formats video queue with
    | .error e => return .error e
    | .ok fs =>
      if fs.any (·.fourcc == fourcc) then return .ok true
      else anyOffers video fourcc rest

/-- Whether `video` offers `fourcc` on any queue. -/
def supportsFormat (video : VideoDevice Fd) (fourcc : FourCc) :
    StateM σ (Except PairingError Bool) :=
  sys.anyOffers video fourcc BufferQueue.all

end System

end MediaPairing
