import MediaPairing.Proofs.Machine.Backend
import MediaPairing.Probe
import MediaPairing.Resolve

/-!
# The steps of a search

One step of a search tries the candidate at the first path. What the step comes to depends on
the machine that opening leaves, and on that which asking leaves; what happens in these two
is not looked into here.

* `probePaths_skip`, `probePaths_offer`: a step of the search for a video node.
* `resolvePaths_skip`, `resolvePaths_ask`: a step of the search for a controller.
-/

namespace MediaPairing

section

variable {τ : Type} {b : Backend} {dir path : Path} {rest : List Path} {m m₁ m₂ : Machine}
  {accept : VideoDevice Nat → StateT τ (StateM Machine) Bool} {s s₁ : τ}

/-! ## Probing -/

theorem probePaths_nil (b : Backend) (dir : Path)
    (accept : VideoDevice Nat → StateT τ (StateM Machine) Bool) (s : τ) (m : Machine) :
    ((probePaths b.access dir accept []).run s).run m =
      ((.error (.noSuitableDevice dir), s), m.extend [.logged .noVideoDevice]) := by
  unfold probePaths
  rw [Backend.access_log, runs_bind_of_eq (runs_lift_of_eq s (Machine.log_run _ m))]
  rfl

theorem probePaths_skip {e : PairingError}
    (hopened : (openVideoDevice b.access path).run (m.extend [.logged (.probing path)]) =
      (.error e, m₁)) :
    ((probePaths b.access dir accept (path :: rest)).run s).run m =
      ((probePaths b.access dir accept rest).run s).run (m₁.extend [.logged (.skipped e)]) := by
  rw [probePaths]
  simp only [Backend.access_log]
  rw [runs_bind_of_eq (runs_lift_of_eq s (Machine.log_run _ m)),
    runs_bind_of_eq (runs_lift_of_eq s hopened)]
  dsimp only
  rw [runs_bind_of_eq (runs_lift_of_eq s (Machine.log_run _ m₁))]

theorem probePaths_offer {device : VideoDevice Nat} {accepted : Bool}
    (hopened : (openVideoDevice b.access path).run (m.extend [.logged (.probing path)]) =
      (.ok device, m₁))
    (hasked : ((accept device).run s).run m₁ = ((accepted, s₁), m₂)) :
    ((probePaths b.access dir accept (path :: rest)).run s).run m =
      if accepted then ((.ok device, s₁), m₂.extend [.logged (.usingVideo device.path)])
      else
        ((probePaths b.access dir accept rest).run s₁).run
          ((m₂.extend [.logged (.rejected device.path device.capability.card)]).shut
            device.fd) := by
  rw [probePaths]
  simp only [Backend.access_log, Backend.access_close]
  rw [runs_bind_of_eq (runs_lift_of_eq s (Machine.log_run _ m)),
    runs_bind_of_eq (runs_lift_of_eq s hopened)]
  dsimp only
  rw [runs_bind_of_eq hasked]
  cases accepted with
  | true =>
    rw [if_pos rfl, if_pos rfl, runs_bind_of_eq (runs_lift_of_eq s₁ (Machine.log_run _ m₂))]
    rfl
  | false =>
    rw [if_neg (by decide), if_neg (by decide),
      runs_bind_of_eq (runs_lift_of_eq s₁ (Machine.log_run _ m₂)),
      runs_bind_of_eq (runs_lift_of_eq s₁ (Machine.close_run device.fd _))]

/-! ## Resolving -/

variable {devnum : DeviceNumber}

theorem resolvePaths_nil (b : Backend) (dir : Path) (devnum : DeviceNumber) (m : Machine) :
    (resolvePaths b.access dir devnum []).run m =
      (.error (.noMatchingMediaDevice dir devnum), m.extend [.logged .noMediaDevice]) := by
  unfold resolvePaths
  rw [Backend.access_log, run_bind_of_eq (Machine.log_run _ m)]
  rfl

theorem resolvePaths_skip {e : PairingError}
    (hopened : (openMediaDevice b.access path).run (m.extend [.logged (.probing path)]) =
      (.error e, m₁)) :
    (resolvePaths b.access dir devnum (path :: rest)).run m =
      (resolvePaths b.access dir devnum rest).run (m₁.extend [.logged (.skipped e)]) := by
  rw [resolvePaths]
  simp only [Backend.access_log]
  rw [run_bind_of_eq (Machine.log_run _ m), run_bind_of_eq hopened]
  dsimp only
  rw [run_bind_of_eq (Machine.log_run _ m₁)]

/-- How the search goes on from `m`, where `media` has been asked whether it publishes the
number. -/
def resolveOn (b : Backend) (dir : Path) (devnum : DeviceNumber) (rest : List Path)
    (media : MediaDevice Nat) (m : Machine) :
    Except PairingError Bool → Except PairingError (MediaDevice Nat) × Machine
  | .ok true => (.ok media, m.extend [.logged (.usingMedia media.path)])
  | .ok false =>
    (resolvePaths b.access dir devnum rest).run
      ((m.extend [.logged (.doesNotPublish media.path devnum)]).shut media.fd)
  | .error (.allocationFailed count) => (.error (.allocationFailed count), m.shut media.fd)
  | .error e =>
    (resolvePaths b.access dir devnum rest).run
      ((m.extend [.logged (.skipped e)]).shut media.fd)

theorem resolvePaths_ask {media : MediaDevice Nat} {published : Except PairingError Bool}
    (hopened : (openMediaDevice b.access path).run (m.extend [.logged (.probing path)]) =
      (.ok media, m₁))
    (hasked : (publishes b.access media devnum).run m₁ = (published, m₂)) :
    (resolvePaths b.access dir devnum (path :: rest)).run m =
      resolveOn b dir devnum rest media m₂ published := by
  rw [resolvePaths]
  simp only [Backend.access_log, Backend.access_close]
  rw [run_bind_of_eq (Machine.log_run _ m), run_bind_of_eq hopened]
  dsimp only
  rw [run_bind_of_eq hasked]
  cases published with
  | ok matched =>
    cases matched with
    | true =>
      dsimp only [resolveOn]
      rw [run_bind_of_eq (Machine.log_run _ m₂)]
      rfl
    | false =>
      dsimp only [resolveOn]
      rw [run_bind_of_eq (Machine.log_run _ m₂), run_bind_of_eq (Machine.close_run _ _)]
  | error e =>
    cases e with
    | allocationFailed count =>
      dsimp only [resolveOn]
      rw [run_bind_of_eq (Machine.close_run media.fd m₂)]
      rfl
    | _ =>
      dsimp only [resolveOn]
      rw [run_bind_of_eq (Machine.log_run _ m₂), run_bind_of_eq (Machine.close_run _ _)]

end

end MediaPairing
