import MediaPairing.Proofs.Device.InterfaceKinds
import MediaPairing.Proofs.Machine.Backend
import MediaPairing.Resolve

/-!
# What is read of open devices

The number of a video node and the interfaces of a controller are functions of the node
behind the handle. The interfaces depend on the answers to the count query and to the fill
query, which need not agree. Reading twice gives the same as long as the node does not change.

* `Backend.identity`, `Backend.interfaces`: these functions.
* `deviceNumberOf_answers`: how the number is asked for.
* `readInterfaces_answers`, `videoInterfaces_answers`, `publishes_answers`: the three ways in
  which the interfaces are asked for.
-/

namespace MediaPairing

/-! ## Reading -/

/-- What reading the interfaces of a node at `path` gives. -/
def Backend.interfaces (b : Backend) (path : Path) (node : Except Errno Node) :
    Except PairingError (List Interface) :=
  match node.bind Node.count with
  | .error e => .error (.topologyQueryFailed path e)
  | .ok count =>
    if count = 0 then .error (.emptyTopology path)
    else if b.limit < Interface.recordSize * count.toNat then
      .error (.allocationFailed count)
    else (node.bind (b.fill · count.toNat)).mapError (.topologyQueryFailed path)

variable (b : Backend)

/-- What reading the device number of a video node gives. -/
def Backend.identity (b : Backend) (video : VideoDevice Nat) (m : Machine) :
    Except PairingError DeviceNumber :=
  ((m.node video.fd).bind b.number).mapError (.identityQueryFailed video.path)

theorem identity_error {b : Backend} {video : VideoDevice Nat} {m : Machine} {e : PairingError}
    (h : b.identity video m = .error e) : ∃ cause, e = .identityQueryFailed video.path cause := by
  unfold Backend.identity at h
  cases hnumber : (m.node video.fd).bind b.number with
  | error cause =>
    rw [hnumber] at h
    cases h
    exact ⟨cause, rfl⟩
  | ok devnum =>
    rw [hnumber] at h
    cases h

theorem deviceNumberOf_asks (video : VideoDevice Nat) (m : Machine) :
    Answers (deviceNumberOf b.access video) m (Event.Asking video.fd) (b.identity video m) := by
  unfold deviceNumberOf Backend.identity
  refine (b.asks_deviceNumber.answers (fun _ => rfl) video.fd m).bind fun es => ?_
  cases (m.node video.fd).bind b.number <;> exact answers_pure _ _ _

theorem deviceNumberOf_answers (video : VideoDevice Nat) (m : Machine) :
    Answers (deviceNumberOf b.access video) m (Event.About video.fd) (b.identity video m) :=
  (deviceNumberOf_asks b video m).mono fun _ => Event.Asking.about

/-- Reading the interfaces puts questions to the controller, and does nothing else. -/
theorem readInterfaces_asks (path : Path) (fd : Nat) (m : Machine) :
    Answers (readInterfaces b.access path fd) m (Event.Asking fd)
      (b.interfaces path (m.node fd)) := by
  unfold readInterfaces Backend.interfaces
  refine (b.asks_interfaceCount.answers (fun _ => rfl) fd m).bind fun es => ?_
  cases (m.node fd).bind Node.count with
  | error e => exact answers_pure _ _ _
  | ok count =>
    dsimp only
    by_cases hzero : count = 0
    · rw [if_pos hzero, if_pos hzero]
      exact answers_pure _ _ _
    · rw [if_neg hzero, if_neg hzero, Backend.access_allocationLimit]
      by_cases hlimit : b.limit < Interface.recordSize * count.toNat
      · rw [if_pos hlimit, if_pos hlimit]
        exact answers_pure _ _ _
      · rw [if_neg hlimit, if_neg hlimit]
        obtain ⟨a, hfill, htaken⟩ := b.fillInterfaces_answers fd count (m.extend es)
        rw [Machine.node_extend] at htaken
        rw [← htaken]
        refine hfill.bind fun es' => ?_
        obtain ⟨filled, buffer⟩ := a
        cases filled with
        | error e => exact answers_pure _ _ _
        | ok filled => exact answers_pure _ _ _

theorem readInterfaces_answers (path : Path) (fd : Nat) (m : Machine) :
    Answers (readInterfaces b.access path fd) m (Event.About fd)
      (b.interfaces path (m.node fd)) :=
  (readInterfaces_asks b path fd m).mono fun _ => Event.Asking.about

theorem videoInterfaces_answers (media : MediaDevice Nat) (m : Machine) :
    Answers (videoInterfaces b.access media) m (Event.About media.fd)
      ((b.interfaces media.path (m.node media.fd)).map (·.filter Interface.isVideo)) := by
  unfold videoInterfaces
  refine (readInterfaces_answers b media.path media.fd m).bind fun es => ?_
  cases b.interfaces media.path (m.node media.fd) <;> exact answers_pure _ _ _

/-- The records of comparing the numbers of interfaces with `devnum`: those up to the first one
with that number. -/
def comparisons (devnum : DeviceNumber) (is : List Interface) : List LogRecord :=
  (is.take (is.findIdx (·.devnode = devnum) + 1)).map fun i => .mediaNumber i.devnode

theorem anyNumbered_run (devnum : DeviceNumber) (is : List Interface) (m : Machine) :
    (anyNumbered b.access devnum is).run m =
      (is.any (·.devnode = devnum), m.extend ((comparisons devnum is).map Event.logged)) := by
  induction is generalizing m with
  | nil =>
    simp [comparisons, Machine.extend]
    rfl
  | cons i rest ih =>
    unfold anyNumbered
    rw [Backend.access_log, run_bind_of_eq (Machine.log_run _ _)]
    by_cases hi : i.devnode = devnum
    · rw [if_pos hi]
      simp [comparisons, List.findIdx_cons, hi]
      rfl
    · rw [if_neg hi, ih, Machine.extend_extend]
      simp [comparisons, List.findIdx_cons, hi]

theorem anyNumbered_answers (devnum : DeviceNumber) (handle : Nat) (is : List Interface)
    (m : Machine) :
    Answers (anyNumbered b.access devnum is) m (Event.About handle)
      (is.any (·.devnode = devnum)) := by
  refine ⟨_, ?_, anyNumbered_run b devnum is m⟩
  intro e he
  obtain ⟨r, -, rfl⟩ := List.mem_map.mp he
  trivial

theorem publishes_answers (media : MediaDevice Nat) (devnum : DeviceNumber) (m : Machine) :
    Answers (publishes b.access media devnum) m (Event.About media.fd)
      ((b.interfaces media.path (m.node media.fd)).map fun is =>
        (is.filter Interface.isVideo).any (·.devnode = devnum)) := by
  unfold publishes
  refine (readInterfaces_answers b media.path media.fd m).bind fun es => ?_
  cases b.interfaces media.path (m.node media.fd) with
  | error e => exact answers_pure _ _ _
  | ok is =>
    refine (anyNumbered_answers b devnum media.fd _ _).bind fun es' => ?_
    exact answers_pure _ _ _

end MediaPairing
