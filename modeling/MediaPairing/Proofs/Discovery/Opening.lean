import MediaPairing.Proofs.Machine.Backend
import MediaPairing.Probe
import MediaPairing.Resolve

/-!
# Opening a candidate

A search opens each candidate and puts one question to it. Video nodes and media controllers
differ in the calls, in the error for a node without an answer, and in what is made of the
answer (`NodeKind`); the rest is the same.

* `Opening`: the three ways in which this can end, each with the machine that it leaves. It
  is refused, it stays silent and is closed again, or it answers and is kept open.
* `openVideoDevice_opening`, `openMediaDevice_opening`: there is no other way.
-/

namespace MediaPairing

/-- The handle that a device owns, with the path that it was opened by. -/
def VideoDevice.holding (d : VideoDevice Nat) : Nat × Path := (d.fd, d.path)

/-- The handle that a device owns, with the path that it was opened by. -/
def MediaDevice.holding (d : MediaDevice Nat) : Nat × Path := (d.fd, d.path)

/-- How the nodes of one kind are opened and asked, and what is made of the answer. -/
structure NodeKind (α D : Type) where
  openCall : Path → Call
  askCall : Nat → Call
  reply : Backend → Node → Except Errno α
  /-- The error for a node that does not answer. -/
  failure : Path → Errno → PairingError
  device : Path → Nat → α → D
  holding : D → Nat × Path
  attempt?_openCall : ∀ path, (openCall path).attempt? = some path
  handle?_askCall : ∀ handle, (askCall handle).handle? = some handle
  holding_device : ∀ path handle a, holding (device path handle a) = (handle, path)

namespace NodeKind

def video : NodeKind Capability (VideoDevice Nat) where
  openCall := .openVideo
  askCall := .capability
  reply := Backend.capability
  failure := .capabilityQueryFailed
  device := VideoDevice.mk
  holding := VideoDevice.holding
  attempt?_openCall := fun _ => rfl
  handle?_askCall := fun _ => rfl
  holding_device := fun _ _ _ => rfl

def media : NodeKind MediaInfo (MediaDevice Nat) where
  openCall := .openMedia
  askCall := .mediaInfo
  reply := Backend.mediaInfo
  failure := .mediaInfoQueryFailed
  device := MediaDevice.mk
  holding := MediaDevice.holding
  attempt?_openCall := fun _ => rfl
  handle?_askCall := fun _ => rfl
  holding_device := fun _ _ _ => rfl

end NodeKind

variable {α D : Type} {b : Backend} {kind : NodeKind α D} {m : Machine} {path : Path}

/-- What opening the node at `path` and asking it comes to. -/
inductive Opening (b : Backend) (kind : NodeKind α D) (m : Machine) (path : Path) :
    Except PairingError D × Machine → Prop
  /-- The node cannot be opened. -/
  | refused {e : Errno} (reach_eq : b.reach m.world path = .error e) :
    Opening b kind m path
      (.error (.openFailed path e),
        m.extend (if b.admits path then [.called (kind.openCall path) (.failed e)] else []))
  /-- The node does not answer, and is closed again. -/
  | silent {n : Node} {e : Errno} (reach_eq : b.reach m.world path = .ok n)
    (reply_eq : kind.reply b n = .error e) :
    Opening b kind m path
      (.error (kind.failure path e),
        m.spend [.called (kind.openCall path) (.opened m.nextHandle),
          .called (kind.askCall m.nextHandle) (.failed e), .closed m.nextHandle])
  /-- The node answers, and stays open. -/
  | answered {n : Node} {a : α} (reach_eq : b.reach m.world path = .ok n)
    (reply_eq : kind.reply b n = .ok a) :
    Opening b kind m path
      (.ok (kind.device path m.nextHandle a),
        m.keep path [.called (kind.openCall path) (.opened m.nextHandle),
          .called (kind.askCall m.nextHandle) .done])

/-- Opens a node and asks it; a node that does not answer is closed again. -/
def openAndAsk (kind : NodeKind α D) (opening : Path → StateM Machine (Except Errno Nat))
    (ask : Nat → StateM Machine (Except Errno α)) (path : Path) :
    StateM Machine (Except PairingError D) := do
  match ← opening path with
  | .error e => return .error (.openFailed path e)
  | .ok fd =>
    match ← ask fd with
    | .error e =>
      Machine.close fd
      return .error (kind.failure path e)
    | .ok a => return .ok (kind.device path fd a)

theorem get?_of_reach {w : World} {n : Node} (h : b.reach w path = .ok n) :
    w.nodes.get? path = some n := by
  unfold Backend.reach at h
  split at h
  · split at h
    · cases h
    · rename_i n' hn
      split at h
      · cases h
      · cases h
        exact hn
  · cases h

theorem openAndAsk_opening (hm : m.Fresh) {opening : Path → StateM Machine (Except Errno Nat)}
    {ask : Nat → StateM Machine (Except Errno α)} (hopen : b.Opens opening kind.openCall)
    (hask : Asks ask kind.askCall (kind.reply b)) (path : Path) :
    Opening b kind m path ((openAndAsk kind opening ask path).run m) := by
  have hrun := hopen path m
  unfold openAndAsk
  cases hreach : b.reach m.world path with
  | error e =>
    rw [hreach] at hrun
    rw [run_bind_of_eq hrun]
    exact .refused hreach
  | ok n =>
    rw [hreach] at hrun
    rw [run_bind_of_eq hrun]
    dsimp only
    have hanswer := hask m.nextHandle
      (m.keep path [.called (kind.openCall path) (.opened m.nextHandle)])
    rw [Machine.node_keep hm (get?_of_reach hreach)] at hanswer
    cases hreply : kind.reply b n with
    | error e =>
      simp only [Except.bind, hreply] at hanswer
      rw [run_bind_of_eq hanswer, Machine.keep_extend]
      dsimp only
      rw [run_bind_of_eq (Machine.close_run _ _), Machine.shut_keep hm]
      exact .silent hreach hreply
    | ok a =>
      simp only [Except.bind, hreply] at hanswer
      rw [run_bind_of_eq hanswer, Machine.keep_extend]
      exact .answered hreach hreply

theorem openVideoDevice_opening (b : Backend) (hm : m.Fresh) (path : Path) :
    Opening b .video m path ((openVideoDevice b.access path).run m) := by
  have heq : openVideoDevice b.access path =
      openAndAsk .video b.access.openVideo b.access.capability path := by
    refine bind_congr fun opened => ?_
    cases opened with
    | error e => rfl
    | ok fd =>
      refine bind_congr fun reply => ?_
      cases reply <;> simp only [Backend.access_close] <;> rfl
  rw [heq]
  exact openAndAsk_opening hm b.opens_video b.asks_capability path

theorem openMediaDevice_opening (b : Backend) (hm : m.Fresh) (path : Path) :
    Opening b .media m path ((openMediaDevice b.access path).run m) := by
  have heq : openMediaDevice b.access path =
      openAndAsk .media b.access.openMedia b.access.mediaInfo path := by
    refine bind_congr fun opened => ?_
    cases opened with
    | error e => rfl
    | ok fd =>
      refine bind_congr fun reply => ?_
      cases reply <;> simp only [Backend.access_close] <;> rfl
  rw [heq]
  exact openAndAsk_opening hm b.opens_media b.asks_mediaInfo path

end MediaPairing
