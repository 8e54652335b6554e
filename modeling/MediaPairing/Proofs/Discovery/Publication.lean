import MediaPairing.Proofs.Discovery.Readout
import MediaPairing.Proofs.Text.Wording

/-!
# Listing and matching

There are two ways to look at the video interfaces of an open controller: to list them, and to
match them with a device number. Both read the topology anew, and the second stops at the first
interface with the number. As long as the controller stays as it is, they agree.

* `Backend.listing`: what listing gives, and what matching goes by.
* `publishes_run`: a match asks what a listing asks, and then logs each comparison.
* `publishes_iff_listed`: which numbers match, read off the listing.
-/

namespace MediaPairing

/-! ## What both read -/

/-- What listing the video interfaces of `media` gives. -/
def Backend.listing (b : Backend) (media : MediaDevice Nat) (m : Machine) :
    Except PairingError (List Interface) :=
  (b.interfaces media.path (m.node media.fd)).map (·.filter Interface.isVideo)

/-- The records of matching the interfaces of a listing with `devnum`. Where nothing is listed,
there is nothing to compare. -/
def matchRecords (devnum : DeviceNumber) : Except PairingError (List Interface) → List LogRecord
  | .ok is => comparisons devnum is
  | .error _ => []

section

variable {b : Backend} {media : MediaDevice Nat} {m m' : Machine}

theorem listing_congr (h : m'.node media.fd = m.node media.fd) :
    b.listing media m' = b.listing media m := by
  unfold Backend.listing
  rw [h]

/-- A match is put to the controller as a listing is; after that it only logs. -/
theorem publishes_run (b : Backend) (media : MediaDevice Nat) (devnum : DeviceNumber)
    (m : Machine) :
    ∃ asked, (∀ e ∈ asked, e.Asking media.fd) ∧
      (publishes b.access media devnum).run m =
        ((b.listing media m).map fun is => is.any (·.devnode = devnum),
          m.extend (asked ++ (matchRecords devnum (b.listing media m)).map Event.logged)) := by
  obtain ⟨asked, hasked, hread⟩ := readInterfaces_asks b media.path media.fd m
  refine ⟨asked, hasked, ?_⟩
  unfold publishes Backend.listing
  rw [run_bind_of_eq hread]
  cases b.interfaces media.path (m.node media.fd) with
  | error e =>
    simp only [Except.map, matchRecords, List.map_nil, List.append_nil]
    rfl
  | ok is =>
    dsimp only
    rw [run_bind_of_eq (anyNumbered_run b devnum _ _), Machine.extend_extend]
    rfl

/-! ## Records -/

theorem logRecords_extend (m : Machine) (es : List Event) :
    (m.extend es).logRecords = m.logRecords ++ es.filterMap Event.logRecord? :=
  List.filterMap_append

/-- Numbers that are compared show one line each. -/
theorem lines_comparisons (devnum : DeviceNumber) (is : List Interface) :
    (comparisons devnum is).map LogRecord.line =
      (is.take (is.findIdx (·.devnode = devnum) + 1)).map fun i =>
        (.info, "media device number " ++ shownNumber i.devnode) := by
  unfold comparisons
  rw [List.map_map]
  rfl

theorem filterMap_logged (rs : List LogRecord) :
    (rs.map Event.logged).filterMap Event.logRecord? = rs := by
  rw [List.filterMap_map]
  exact List.filterMap_some

theorem publishes_logRecords (devnum : DeviceNumber) :
    ((publishes b.access media devnum).run m).2.logRecords =
      m.logRecords ++ matchRecords devnum (b.listing media m) := by
  obtain ⟨asked, hasked, hrun⟩ := publishes_run b media devnum m
  have hsilent : asked.filterMap Event.logRecord? = [] :=
    List.filterMap_eq_nil_iff.mpr fun e he => (hasked e he).logRecord?_eq_none
  rw [hrun, logRecords_extend, List.filterMap_append, hsilent, List.nil_append, filterMap_logged]

end

/-! ## Agreement -/

/-- While an open controller stays as it is, its video interfaces are those of its interfaces that
have the raw type `0x200`, in their order and as often as they occur. A device number matches if
and only if one of them has it, does not match if and only if none of them has it, and the match
fails as the listing fails. It logs one record for each of them up to the first that has the
number, which reads `media device number` and the number of the interface. -/
theorem publishes_iff_listed (b : Backend) (media : MediaDevice Nat) (devnum : DeviceNumber)
    {m m' m'' : Machine} (hm' : m'.node media.fd = m.node media.fd)
    (hm'' : m''.node media.fd = m.node media.fd) :
    ∃ read listed matched,
      ((readInterfaces b.access media.path media.fd).run m).1 = read ∧
      ((videoInterfaces b.access media).run m').1 = listed ∧
      ((publishes b.access media devnum).run m'').1 = matched ∧
      listed = read.map (·.filter (·.rawType = 0x200)) ∧
      (matched = .ok true ↔ ∃ is, listed = .ok is ∧ ∃ i ∈ is, i.devnode = devnum) ∧
      (matched = .ok false ↔ ∃ is, listed = .ok is ∧ ∀ i ∈ is, i.devnode ≠ devnum) ∧
      (∀ e, matched = .error e ↔ listed = .error e) ∧
      ((publishes b.access media devnum).run m'').2.logRecords =
        m''.logRecords ++
          (match listed with
          | .ok is =>
            (is.take (is.findIdx (·.devnode = devnum) + 1)).map fun i => .mediaNumber i.devnode
          | .error _ => []) ∧
      ((publishes b.access media devnum).run m'').2.logRecords.map LogRecord.line =
        m''.logRecords.map LogRecord.line ++
          match listed with
          | .ok is =>
            (is.take (is.findIdx (·.devnode = devnum) + 1)).map fun i =>
              (.info, "media device number " ++ shownNumber i.devnode)
          | .error _ => [] := by
  have hread := (readInterfaces_answers b media.path media.fd m).fst_run
  have hlisted : ((videoInterfaces b.access media).run m').1 = b.listing media m := by
    rw [← listing_congr hm']
    exact (videoInterfaces_answers b media m').fst_run
  have hmatched : ((publishes b.access media devnum).run m'').1 =
      (b.listing media m).map fun is => is.any (·.devnode = devnum) := by
    obtain ⟨asked, -, hrun⟩ := publishes_run b media devnum m''
    rw [hrun, listing_congr hm'']
  have hlogged : ((publishes b.access media devnum).run m'').2.logRecords =
      m''.logRecords ++ matchRecords devnum (b.listing media m'') := publishes_logRecords devnum
  rw [listing_congr hm''] at hlogged
  have hfiltered : b.listing media m =
      (b.interfaces media.path (m.node media.fd)).map (·.filter (·.rawType = 0x200)) := by
    simp only [Backend.listing, Interface.filter_isVideo]
  refine ⟨_, _, _, hread, hlisted, hmatched, hfiltered, ?_⟩
  cases hlisting : b.listing media m with
  | error e =>
    rw [hlisting] at hlogged
    refine ⟨?_, ?_, fun e' => ?_, hlogged, ?_⟩
    · simp [Except.map]
    · simp [Except.map]
    · simp [Except.map]
    · rw [hlogged, List.map_append]
      rfl
  | ok is =>
    rw [hlisting] at hlogged
    refine ⟨?_, ?_, fun e' => ?_, hlogged, ?_⟩
    · simp [Except.map]
    · simp [Except.map]
    · simp [Except.map]
    · rw [hlogged, List.map_append]
      exact congrArg _ (lines_comparisons devnum is)

/-- A machine with an open controller. A subdevice has the number of two of its video interfaces,
and two more records are reported than there are interfaces. -/
def Machine.crowded : Machine where
  world :=
    { nodes := [(.ofString "/dev/media0",
        { topology := .ok
            { interfaces := [.ofType 1 .v4lSubdev ⟨81, 0⟩, .ofType 2 .v4lVideo ⟨81, 3⟩,
                .ofType 3 .v4lVideo ⟨81, 0⟩, .ofType 4 .v4lVideo ⟨81, 0⟩]
              count := some (.ok 6)
              reported := some 6 } })] }
  nextHandle := 1
  handles := [(0, .ofString "/dev/media0")]

/-- The match stops at the first of the two interfaces with the number. -/
theorem publishes_iff_listed_crowded :
    ((videoInterfaces Machine.kernel ⟨.ofString "/dev/media0", 0, {}⟩).run .crowded).2.node 0 =
        Machine.crowded.node 0 ∧
      ((videoInterfaces Machine.kernel ⟨.ofString "/dev/media0", 0, {}⟩).run .crowded).1 =
        .ok [.ofType 2 .v4lVideo ⟨81, 3⟩, .ofType 3 .v4lVideo ⟨81, 0⟩,
          .ofType 4 .v4lVideo ⟨81, 0⟩] ∧
      ((publishes Machine.kernel ⟨.ofString "/dev/media0", 0, {}⟩ ⟨81, 0⟩).run
        ((videoInterfaces Machine.kernel ⟨.ofString "/dev/media0", 0, {}⟩).run .crowded).2).1 =
        .ok true ∧
      ((publishes Machine.kernel ⟨.ofString "/dev/media0", 0, {}⟩ ⟨81, 0⟩).run
        ((videoInterfaces Machine.kernel ⟨.ofString "/dev/media0", 0, {}⟩).run
          .crowded).2).2.logRecords = [.mediaNumber ⟨81, 3⟩, .mediaNumber ⟨81, 0⟩] ∧
      ((publishes Machine.kernel ⟨.ofString "/dev/media0", 0, {}⟩ ⟨81, 0⟩).run
        ((videoInterfaces Machine.kernel ⟨.ofString "/dev/media0", 0, {}⟩).run
          .crowded).2).2.logRecords.map LogRecord.line =
        [(.info, "media device number 81:3"), (.info, "media device number 81:0")] := by
  have hsame : ((videoInterfaces Machine.kernel ⟨.ofString "/dev/media0", 0, {}⟩).run
      .crowded).2.node 0 = Machine.crowded.node 0 := rfl
  obtain ⟨read, listed, matched, hread, hlisted, hmatched, hfiltered, htrue, -, -, hlogged,
    hlines⟩ :=
    publishes_iff_listed .kernel ⟨.ofString "/dev/media0", 0, {}⟩ ⟨81, 0⟩
      (show Machine.crowded.node 0 = Machine.crowded.node 0 from rfl) hsame
  obtain rfl : listed = .ok [.ofType 2 .v4lVideo ⟨81, 3⟩, .ofType 3 .v4lVideo ⟨81, 0⟩,
      .ofType 4 .v4lVideo ⟨81, 0⟩] := by
    rw [hfiltered, ← hread]
    rfl
  have hmatch : matched = .ok true :=
    htrue.mpr ⟨_, rfl, .ofType 3 .v4lVideo ⟨81, 0⟩, by decide, rfl⟩
  have hshown : ((publishes Machine.kernel ⟨.ofString "/dev/media0", 0, {}⟩ ⟨81, 0⟩).run
      ((videoInterfaces Machine.kernel ⟨.ofString "/dev/media0", 0, {}⟩).run
        .crowded).2).2.logRecords.map LogRecord.line =
      [(.info, "media device number 81:3"), (.info, "media device number 81:0")] :=
    hlines.trans (by decide +kernel)
  exact ⟨hsame, hlisted, hmatched.trans hmatch, hlogged, hshown⟩

end MediaPairing
