import MediaPairing.Proofs.Discovery.Candidates
import MediaPairing.Proofs.Discovery.Publication

/-!
# Accounts of candidates

What a search logs of a candidate is an account of it: a record that it is tried, what is logged
of its interfaces, and a last record that disposes of it. The account of a candidate that is passed
over follows from what the candidate tells when it is opened and asked.

* `Tells es paths records`: which candidates the events try, and which records they log.
* `Backend.told`, `Backend.survey`: what a video node or a controller tells, or its error.
* `account`, `Backend.videoDismissal`, `Backend.mediaDismissal`: the records of one candidate.
* `Mentions paths records`: which candidates the records mention as tried, and that none of them
  is an error. Accounts mention their candidate, and a list of accounts its candidates.
-/

namespace MediaPairing

/-! ## Records -/

/-- The records that were logged, in order. -/
def recorded (es : List Event) : List LogRecord := es.filterMap Event.logRecord?

/-- The candidate that a record says is tried. -/
def LogRecord.probed? : LogRecord → Option Path
  | .probing path => some path
  | _ => none

/-- The events try the nodes at `paths` and log `records`, each in order. -/
structure Tells (es : List Event) (paths : List Path) (records : List LogRecord) : Prop where
  attempts_eq : attempts es = paths
  recorded_eq : recorded es = records

theorem recorded_append (es es' : List Event) :
    recorded (es ++ es') = recorded es ++ recorded es' := List.filterMap_append

theorem Tells.append {es es' : List Event} {paths paths' : List Path}
    {records records' : List LogRecord} (h : Tells es paths records)
    (h' : Tells es' paths' records') :
    Tells (es ++ es') (paths ++ paths') (records ++ records') where
  attempts_eq := by rw [attempts_append, h.attempts_eq, h'.attempts_eq]
  recorded_eq := by rw [recorded_append, h.recorded_eq, h'.recorded_eq]

theorem tells_log (r : LogRecord) : Tells [.logged r] [] [r] := ⟨rfl, rfl⟩

theorem tells_close (handle : Nat) : Tells [.closed handle] [] [] := ⟨rfl, rfl⟩

theorem tells_logged (rs : List LogRecord) : Tells (rs.map Event.logged) [] rs where
  attempts_eq := by
    apply List.filterMap_eq_nil_iff.mpr
    intro e he
    obtain ⟨r, -, rfl⟩ := List.mem_map.mp he
    rfl
  recorded_eq := filterMap_logged rs

theorem tells_open {call : Call} {path : Path} (h : call.attempt? = some path)
    (outcome : Outcome) : Tells [.called call outcome] [path] [] :=
  ⟨(tries_open h outcome).attempts_eq, rfl⟩

theorem tells_asking {es : List Event} {handle : Nat} (h : ∀ e ∈ es, e.Asking handle) :
    Tells es [] [] where
  attempts_eq := (tries_of_about fun e he => (h e he).about).attempts_eq
  recorded_eq := List.filterMap_eq_nil_iff.mpr fun e he => (h e he).logRecord?_eq_none

theorem tells_listing {es : List Event} {dir : Path} (h : ∀ e ∈ es, e.listing? = some dir) :
    Tells es [] [] where
  attempts_eq := (tries_of_listing h).attempts_eq
  recorded_eq := by
    apply List.filterMap_eq_nil_iff.mpr
    intro e he
    have hlisting := h e he
    cases e with
    | logged r => cases hlisting
    | _ => rfl

/-! ## What a candidate tells -/

section

variable {α D : Type}

/-- What the node at `path` tells when it is opened and asked, or why it tells nothing. -/
def Backend.told (b : Backend) (kind : NodeKind α D) (w : World) (path : Path) :
    Except PairingError (Node × α) :=
  match b.reach w path with
  | .error e => .error (.openFailed path e)
  | .ok n =>
    match kind.reply b n with
    | .error e => .error (kind.failure path e)
    | .ok a => .ok (n, a)

variable {b : Backend} {kind : NodeKind α D} {m m' : Machine} {path : Path}

theorem told_ok {n : Node} {a : α} (hreach : b.reach m.world path = .ok n)
    (hreply : kind.reply b n = .ok a) : b.told kind m.world path = .ok (n, a) := by
  simp only [Backend.told, hreach, hreply]

theorem Opening.told_error {e : PairingError} {es : List Event}
    (h : Opening b kind (m.extend es) path (.error e, m')) :
    b.told kind m.world path = .error e := by
  cases h with
  | refused hreach =>
    rw [Machine.extend_world] at hreach
    simp only [Backend.told, hreach]
  | silent hreach hreply =>
    rw [Machine.extend_world] at hreach
    simp only [Backend.told, hreach, hreply]

theorem Opening.ne_allocationFailed {e : PairingError} {m' : Machine}
    (h : Opening b .media m path (.error e, m')) (count : UInt32) :
    e ≠ .allocationFailed count := by
  cases h with
  | refused hreach => exact PairingError.noConfusion
  | silent hreach hreply => exact PairingError.noConfusion

/-- Opening and asking a candidate logs nothing. -/
theorem Opening.tells {answer : Except PairingError D} (hadmits : b.admits path = true)
    (h : Opening b kind m path (answer, m')) :
    ∃ es, m'.journal = m.journal ++ es ∧ Tells es [path] [] := by
  have hopen := fun outcome => tells_open (kind.attempt?_openCall path) outcome
  have hask : ∀ outcome, Tells [.called (kind.askCall m.nextHandle) outcome] [] [] := fun outcome =>
    ⟨(tries_ask (kind.handle?_askCall m.nextHandle) outcome).attempts_eq, rfl⟩
  cases h with
  | refused hreach =>
    rw [if_pos hadmits]
    exact ⟨_, rfl, hopen _⟩
  | silent hreach hreply => exact ⟨_, rfl, (hopen _).append ((hask _).append (tells_close _))⟩
  | answered hreach hreply => exact ⟨_, rfl, (hopen _).append (hask _)⟩

end

/-! ## Dispositions -/

section

variable {α : Type}

/-- The record of what became of a candidate that was passed over: the error that it gave, or that
it is not the one looked for. -/
def disposition (unfit : α → LogRecord) : Except PairingError α → LogRecord
  | .error e => .skipped e
  | .ok a => unfit a

/-- The records of a candidate that was tried. What is logged of its interfaces comes before its
disposition. -/
def account (path : Path) (looked : List LogRecord) (disposed : LogRecord) : List LogRecord :=
  .probing path :: (looked ++ [disposed])

theorem tells_account {path : Path} {looked : List LogRecord} {disposed : LogRecord}
    {opened ended : List Event} (hopened : Tells opened [path] [])
    (hended : Tells ended [] (looked ++ [disposed])) :
    Tells ([.logged (.probing path)] ++ opened ++ ended) [path] (account path looked disposed) :=
  ((tells_log (.probing path)).append hopened).append hended

/-- The errors in the log of a search that gives this answer. -/
def errorRecords : Except PairingError α → List LogRecord
  | .error (.noSuitableDevice _) => [.noVideoDevice]
  | .error (.noMatchingMediaDevice ..) => [.noMediaDevice]
  | _ => []

/-- The records say that the candidates at `paths` are tried, in this order, and hold no error. -/
structure Mentions (paths : List Path) (records : List LogRecord) : Prop where
  probed_eq : records.filterMap LogRecord.probed? = paths
  errors_eq : records.filter (·.level = .error) = []

theorem mentions_nil : Mentions [] [] := ⟨rfl, rfl⟩

theorem Mentions.append {paths paths' : List Path} {records records' : List LogRecord}
    (h : Mentions paths records) (h' : Mentions paths' records') :
    Mentions (paths ++ paths') (records ++ records') where
  probed_eq := by rw [List.filterMap_append, h.probed_eq, h'.probed_eq]
  errors_eq := by rw [List.filter_append, h.errors_eq, h'.errors_eq, List.nil_append]

/-- An error after records without one. -/
theorem Mentions.concat {paths : List Path} {records : List LogRecord} (h : Mentions paths records)
    {r : LogRecord} (hprobed : r.probed? = none) (herror : r.level = .error) :
    (records ++ [r]).filterMap LogRecord.probed? = paths ∧
      (records ++ [r]).filter (·.level = .error) = [r] := by
  constructor
  · rw [List.filterMap_append, h.probed_eq, List.filterMap_cons_none hprobed]
    exact List.append_nil paths
  · rw [List.filter_append, h.errors_eq, List.filter_cons_of_pos (by simpa using herror)]
    rfl

theorem mentions_probing (path : Path) : Mentions [path] [.probing path] := ⟨rfl, rfl⟩

theorem mentions_account {looked : List LogRecord} {disposed : LogRecord}
    (hlooked : Mentions [] looked) (hdisposed : Mentions [] [disposed]) (path : Path) :
    Mentions [path] (account path looked disposed) :=
  (mentions_probing path).append (hlooked.append hdisposed)

theorem mentions_disposition {unfit : α → LogRecord} (h : ∀ a, Mentions [] [unfit a])
    (told : Except PairingError α) : Mentions [] [disposition unfit told] := by
  cases told with
  | error e => exact ⟨rfl, rfl⟩
  | ok a => exact h a

theorem mentions_comparisons (devnum : DeviceNumber) (is : List Interface) :
    Mentions [] (comparisons devnum is) := by
  unfold comparisons
  induction is.take (is.findIdx (·.devnode = devnum) + 1) with
  | nil => exact mentions_nil
  | cons i rest ih =>
    have hfirst : Mentions [] [.mediaNumber i.devnode] := ⟨rfl, rfl⟩
    exact hfirst.append ih

theorem mentions_flatMap {records : Path → List LogRecord}
    (h : ∀ path, Mentions [path] (records path)) (paths : List Path) :
    Mentions paths (paths.flatMap records) := by
  induction paths with
  | nil => exact mentions_nil
  | cons path rest ih =>
    rw [List.flatMap_cons]
    exact (h path).append ih

end

namespace Backend

variable (b : Backend) (w : World) (devnum : DeviceNumber)

def videoDisposition (path : Path) : LogRecord :=
  disposition (fun (_, capability) => .rejected path capability.card) (b.told .video w path)

/-- The records of a video node that was passed over. -/
def videoDismissal (path : Path) : List LogRecord :=
  account path [] (b.videoDisposition w path)

/-- The video interfaces that the controller at `path` tells, or why it tells none. -/
def survey (path : Path) : Except PairingError (List Interface) :=
  match b.told .media w path with
  | .error e => .error e
  | .ok (n, _) => (b.interfaces path (.ok n)).map (·.filter Interface.isVideo)

def mediaDisposition (path : Path) : LogRecord :=
  disposition (fun _ => .doesNotPublish path devnum) (b.survey w path)

/-- The records of a controller that was passed over. -/
def mediaDismissal (path : Path) : List LogRecord :=
  account path (matchRecords devnum (b.survey w path)) (b.mediaDisposition w devnum path)

theorem mentions_videoDismissal (path : Path) : Mentions [path] (b.videoDismissal w path) :=
  mentions_account mentions_nil (mentions_disposition (fun _ => ⟨rfl, rfl⟩) _) path

theorem mentions_mediaDismissal (path : Path) :
    Mentions [path] (b.mediaDismissal w devnum path) := by
  apply mentions_account _ (mentions_disposition (fun _ => ⟨rfl, rfl⟩) _) path
  cases b.survey w path with
  | error e => exact mentions_nil
  | ok is => exact mentions_comparisons devnum is

/-- The controller at `path` does not end the search for `devnum`: it gives an error that is its
own, or has no video interface with the number. -/
def Dismisses (path : Path) : Prop :=
  match b.survey w path with
  | .error e => ∀ count, e ≠ .allocationFailed count
  | .ok is => ∀ i ∈ is, i.devnode ≠ devnum

end Backend

section

variable {b : Backend} {w : World} {devnum : DeviceNumber} {path : Path}

theorem Opening.survey_error {m m' : Machine} {e : PairingError} {es : List Event}
    (h : Opening b .media (m.extend es) path (.error e, m')) :
    b.survey m.world path = .error e := by
  rw [Backend.survey, h.told_error]

/-- What listing an opened controller gives is what it tells. -/
theorem listing_keep {m : Machine} (hm : m.Fresh) {n : Node} {info : MediaInfo}
    (hreach : b.reach m.world path = .ok n) (hreply : b.mediaInfo n = .ok info)
    (es : List Event) :
    b.listing { path, fd := m.nextHandle, info } (m.keep path es) = b.survey m.world path := by
  have htold : b.told .media m.world path = .ok (n, info) := told_ok hreach hreply
  rw [Backend.listing, Machine.node_keep hm (get?_of_reach hreach), Backend.survey, htold]

theorem mediaDismissal_error {e : PairingError} (h : b.survey w path = .error e) :
    b.mediaDismissal w devnum path = account path [] (.skipped e) := by
  rw [Backend.mediaDismissal, Backend.mediaDisposition, h]
  rfl

theorem mediaDismissal_ok {is : List Interface} (h : b.survey w path = .ok is) :
    b.mediaDismissal w devnum path =
      account path (comparisons devnum is) (.doesNotPublish path devnum) := by
  rw [Backend.mediaDismissal, Backend.mediaDisposition, h]
  rfl

theorem dismisses_error {e : PairingError} (h : b.survey w path = .error e)
    (he : ∀ count, e ≠ .allocationFailed count) : b.Dismisses w devnum path := by
  rw [Backend.Dismisses, h]
  exact he

theorem dismisses_ok {is : List Interface} (h : b.survey w path = .ok is)
    (his : ∀ i ∈ is, i.devnode ≠ devnum) : b.Dismisses w devnum path := by
  rw [Backend.Dismisses, h]
  exact his

end

end MediaPairing
