import MediaPairing.Proofs.Discovery.ProbeLog

/-!
# The lines of a search

What the log of a search shows, line by line. The lines on a candidate follow from what it tells:
that it is tried, the numbers of its interfaces as far as they are compared, and last its own
error, that it is used, or that it is not the one looked for.

* `Backend.videoLines`, `Backend.mediaLines`: the lines on a candidate.
* `Backend.probeLines`, `Backend.resolveLines`: the lines of a search, by its answer and the
  candidates that it tried.
* `lines_videoDismissal`, `lines_mediaDismissal`: accounts of candidates show these lines.
* `ProbeLog.lines_eq`: so does the log of a search for a video node.
-/

namespace MediaPairing

/-- The last line of a search that ends in this error. -/
def failureLines : PairingError → List (LogLevel × String)
  | .noSuitableDevice _ => [(.error, "Could not find a valid video device")]
  | .noMatchingMediaDevice .. => [(.error, "Could not find a valid media device")]
  | _ => []

namespace Backend

variable (b : Backend) (w : World) (devnum : DeviceNumber)

/-- The lines on a video node that is passed over. -/
def videoLines (path : Path) : List (LogLevel × String) :=
  [(.info, "Probing device " ++ shownPath path),
    match b.told .video w path with
    | .error e => (.warn, shownError e)
    | .ok (_, capability) => (.debug, shownPath path ++ " (" ++ capability.card ++ ") rejected")]

/-- The lines of a search for a video node. -/
def probeLines (answer : Except PairingError (VideoDevice Nat)) (tried : List Path) :
    List (LogLevel × String) :=
  match answer with
  | .ok device =>
    tried.dropLast.flatMap (b.videoLines w) ++
      [(.info, "Probing device " ++ shownPath device.path),
        (.info, "Using video device " ++ shownPath device.path)]
  | .error e => tried.flatMap (b.videoLines w) ++ failureLines e

/-- The lines on a controller that is tried. If a buffer for its interfaces cannot be had, nothing
is said of that. -/
def mediaLines (path : Path) : List (LogLevel × String) :=
  (.info, "Probing device " ++ shownPath path) ::
    match b.survey w path with
    | .error (.allocationFailed _) => []
    | .error e => [(.warn, shownError e)]
    | .ok is =>
      ((is.take (is.findIdx (·.devnode = devnum) + 1)).map fun i =>
        (.info, "media device number " ++ shownNumber i.devnode)) ++
      [if is.any (·.devnode = devnum) then (.info, "Using media device " ++ shownPath path)
        else (.debug, shownPath path ++ " does not publish " ++ shownNumber devnum)]

/-- The lines of a search for the controller of `devnum`, after the one on that number. -/
def resolveLines (answer : Except PairingError (MediaDevice Nat)) (tried : List Path) :
    List (LogLevel × String) :=
  tried.flatMap (b.mediaLines w devnum) ++
    match answer with
    | .ok _ => []
    | .error e => failureLines e

end Backend

/-! ## Candidates -/

section

variable {b : Backend} {w : World} {dir path : Path} {devnum : DeviceNumber}

theorem lines_videoDismissal (b : Backend) (w : World) (path : Path) :
    (b.videoDismissal w path).map LogRecord.line = b.videoLines w path := by
  unfold Backend.videoDismissal Backend.videoDisposition Backend.videoLines
  cases b.told .video w path with
  | error e => exact congrArg (fun line => [_, line]) (line_skipped e)
  | ok told => rfl

theorem mediaLines_ok {is : List Interface} (h : b.survey w path = .ok is) :
    b.mediaLines w devnum path =
      (.info, "Probing device " ++ shownPath path) ::
        ((comparisons devnum is).map LogRecord.line ++
          [if is.any (·.devnode = devnum) then (.info, "Using media device " ++ shownPath path)
            else (.debug, shownPath path ++ " does not publish " ++ shownNumber devnum)]) := by
  unfold Backend.mediaLines
  rw [h, lines_comparisons]

theorem lines_mediaDismissal (h : b.Dismisses w devnum path) :
    (b.mediaDismissal w devnum path).map LogRecord.line = b.mediaLines w devnum path := by
  unfold Backend.Dismisses at h
  cases hsurvey : b.survey w path with
  | error e =>
    rw [hsurvey] at h
    rw [mediaDismissal_error hsurvey, Backend.mediaLines, hsurvey]
    cases e with
    | allocationFailed count => exact absurd rfl (h count)
    | _ => exact congrArg (fun line => [_, line]) (line_skipped _)
  | ok is =>
    rw [hsurvey] at h
    have hunmatched : is.any (·.devnode = devnum) = false := by simpa using h
    rw [mediaDismissal_ok hsurvey, mediaLines_ok hsurvey, hunmatched, account, List.map_cons,
      List.map_append]
    rfl

/-- The controller that is used. -/
theorem lines_published {is : List Interface} (hsurvey : b.survey w path = .ok is)
    (hpublished : ∃ i ∈ is, i.devnode = devnum) :
    (account path (comparisons devnum is) (.usingMedia path)).map LogRecord.line =
      b.mediaLines w devnum path := by
  have hmatched : is.any (·.devnode = devnum) = true := by simpa using hpublished
  rw [mediaLines_ok hsurvey, hmatched, account, List.map_cons, List.map_append]
  rfl

/-- A controller without a buffer for its interfaces. -/
theorem lines_unallocated {count : UInt32}
    (h : b.survey w path = .error (.allocationFailed count)) :
    [LogRecord.probing path].map LogRecord.line = b.mediaLines w devnum path := by
  unfold Backend.mediaLines
  rw [h]
  rfl

theorem lines_flatMap {records : Path → List LogRecord}
    {lines : Path → List (LogLevel × String)} {paths : List Path}
    (h : ∀ path ∈ paths, (records path).map LogRecord.line = lines path) :
    (paths.flatMap records).map LogRecord.line = paths.flatMap lines := by
  rw [List.map_flatMap, List.flatMap_def, List.flatMap_def, List.map_congr_left h]

/-! ## Searches -/

theorem ProbeLog.lines_eq {paths tried : List Path}
    {answer : Except PairingError (VideoDevice Nat)} {records : List LogRecord}
    (h : ProbeLog b w dir paths answer tried records) :
    records.map LogRecord.line = b.probeLines w answer tried := by
  have hdismissals : ∀ paths : List Path,
      (paths.flatMap (b.videoDismissal w)).map LogRecord.line = paths.flatMap (b.videoLines w) :=
    fun _ => lines_flatMap fun path _ => lines_videoDismissal b w path
  cases h with
  | @found before after device hpaths =>
    rw [List.map_append, hdismissals, Backend.probeLines, List.dropLast_concat]
    rfl
  | exhausted =>
    rw [List.map_append, hdismissals]
    rfl

end

end MediaPairing
