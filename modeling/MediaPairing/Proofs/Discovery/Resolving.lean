import MediaPairing.Proofs.Discovery.Candidates
import MediaPairing.Proofs.Discovery.Descriptors

/-!
# The controller that is found

What `resolve` answers is a function of the machine that it starts on: of the number behind
the video node's handle, of the listing, and of the nodes at the candidates' paths. The first
controller with a verdict ends the search; no candidate after it is tried.

* `Backend.verdict`: how a controller ends the search, if it does.
* `Backend.decision`, `Backend.decides`: the same for a node that the search has opened, and
  for a path.
* `publishes_published`: the verdict is what `publishes` finds, whatever the controller
  answers to the two queries.
* `resolvePaths_resolved`: the search over the candidates, by induction on them.
* `Resolution`, `resolve_resolution`: the three ways in which a whole call can end.
-/

namespace MediaPairing

/-! ## Verdicts -/

/-- How a controller ends the search, if it does: with the number of its interfaces, when no
buffer can hold as many, or with its description, when one of the interfaces that are read of
it is a video interface with the number `devnum`. -/
def Backend.verdict (b : Backend) (devnum : DeviceNumber) (n : Node) :
    Option (Except UInt32 MediaInfo) :=
  match b.mediaInfo n, n.count with
  | .ok info, .ok count =>
    if b.limit < Interface.recordSize * count.toNat then some (.error count)
    else
      match b.fill n count.toNat with
      | .error _ => none
      | .ok interfaces =>
        if interfaces.any fun i => i.rawType = 0x200 ∧ i.devnode = devnum then some (.ok info)
        else none
  | _, _ => none

/-- The answer of a search that an opened controller has ended. -/
def Reached.answer (r : Reached) : Except UInt32 MediaInfo → Except PairingError (MediaDevice Nat)
  | .error count => .error (.allocationFailed count)
  | .ok info => .ok { path := r.path, fd := r.handle, info }

/-- The answer of the search, if an opened node ends it. -/
def Backend.decision (b : Backend) (devnum : DeviceNumber) (r : Reached) :
    Option (Except PairingError (MediaDevice Nat)) :=
  (b.verdict devnum r.node).map r.answer

/-- Whether the candidate at `path` ends the search. -/
def Backend.decides (b : Backend) (w : World) (devnum : DeviceNumber) (path : Path) : Bool :=
  match b.reach w path with
  | .error _ => false
  | .ok n => (b.verdict devnum n).isSome

/-- What asking an opened controller for its interfaces comes to, beside its verdict. -/
inductive Published (info : MediaInfo) (path : Path) :
    Option (Except UInt32 MediaInfo) → Except PairingError Bool → Prop
  | matched : Published info path (some (.ok info)) (.ok true)
  | other : Published info path none (.ok false)
  | empty : Published info path none (.error (.emptyTopology path))
  | failed (e : Errno) : Published info path none (.error (.topologyQueryFailed path e))
  | tooMany (count : UInt32) :
    Published info path (some (.error count)) (.error (.allocationFailed count))

section

variable {b : Backend} {info : MediaInfo} {n : Node}

theorem any_filter_isVideo (devnum : DeviceNumber) (interfaces : List Interface) :
    (interfaces.filter Interface.isVideo).any (·.devnode = devnum) =
      interfaces.any fun i => i.rawType = 0x200 ∧ i.devnode = devnum := by
  rw [Interface.filter_isVideo, List.any_filter]
  congr 1
  funext i
  exact (Bool.decide_and _ _).symm

theorem fill_zero {is : List Interface} (h : b.fill n 0 = .ok is) : is = [] := by
  unfold Backend.fill at h
  cases hfill : n.topology.bind (·.answerFill 0) with
  | error e =>
    rw [hfill] at h
    cases h
  | ok reply =>
    obtain ⟨reported, written⟩ := reply
    rw [hfill] at h
    cases h
    dsimp only
    rw [Nat.min_zero, List.take_zero]

theorem publishes_published (hinfo : b.mediaInfo n = .ok info) (devnum : DeviceNumber)
    (path : Path) :
    Published info path (b.verdict devnum n)
      ((b.interfaces path (.ok n)).map fun is =>
        (is.filter Interface.isVideo).any (·.devnode = devnum)) := by
  simp only [any_filter_isVideo]
  unfold Backend.verdict Backend.interfaces
  simp only [Except.bind, hinfo]
  cases hcount : n.count with
  | error e => exact .failed e
  | ok count =>
    dsimp only
    by_cases hzero : count = 0
    · -- an empty topology is never a match: nothing is read into an empty buffer
      subst hzero
      have hnone : ¬b.limit < Interface.recordSize * (0 : UInt32).toNat := Nat.not_lt_zero _
      rw [if_neg hnone, if_pos rfl]
      cases hfill : b.fill n (0 : UInt32).toNat with
      | error e => exact .empty
      | ok is =>
        rw [fill_zero hfill]
        exact .empty
    · rw [if_neg hzero]
      by_cases hlimit : b.limit < Interface.recordSize * count.toNat
      · rw [if_pos hlimit, if_pos hlimit]
        exact .tooMany count
      · rw [if_neg hlimit, if_neg hlimit]
        cases b.fill n count.toNat with
        | error e => exact .failed e
        | ok is =>
          dsimp only [Except.mapError, Except.map]
          cases is.any fun i => i.rawType = 0x200 ∧ i.devnode = devnum with
          | true => exact .matched
          | false => exact .other

end

/-! ## The search over the candidates -/

/-- The search over the candidates at `paths`, started on `m`, has ended in `r`. -/
structure Resolved (b : Backend) (dir : Path) (devnum : DeviceNumber) (m : Machine)
    (paths : List Path) (r : Except PairingError (MediaDevice Nat) × Machine) : Prop where
  answer_eq : r.1 =
    ((b.reached m.world m.nextHandle paths).findSome? (b.decision devnum)).getD
      (.error (.noMatchingMediaDevice dir devnum))
  searched : Searched m (upTo (b.decides m.world devnum) paths) r.2

section

variable {b : Backend} {dir path : Path} {devnum : DeviceNumber} {m m' : Machine}
  {rest : List Path} {r : Except PairingError (MediaDevice Nat) × Machine}

theorem Resolved.pass (hpassed : Passed b path m m')
    (hdecides : b.decides m.world devnum path = false) (h : Resolved b dir devnum m' rest r) :
    Resolved b dir devnum m (path :: rest) r where
  answer_eq := by
    have hnone : (b.reached m.world m.nextHandle [path]).findSome? (b.decision devnum) = none := by
      unfold Backend.decides at hdecides
      cases hreach : b.reach m.world path with
      | error e => rw [reached_cons_error hreach]; rfl
      | ok n =>
        rw [hreach] at hdecides
        rw [reached_cons_ok hreach, Backend.reached, List.findSome?_singleton, Backend.decision,
          Option.not_isSome_iff_eq_none.mp (Bool.eq_false_iff.mp hdecides)]
        rfl
    rw [h.answer_eq, hpassed.reached_cons, List.findSome?_append, hnone, Option.none_or]
  searched := by
    rw [upTo, hdecides]
    have hsearched := h.searched
    rw [hpassed.world_eq] at hsearched
    exact hpassed.searched hsearched

/-- The candidate at `path` ends the search. -/
theorem resolved_cons {n : Node} {verdict : Except UInt32 MediaInfo}
    (hreach : b.reach m.world path = .ok n) (hverdict : b.verdict devnum n = some verdict)
    (hsearched : Searched m [path] m') :
    Resolved b dir devnum m (path :: rest)
      (Reached.answer { handle := m.nextHandle, path, node := n } verdict, m') where
  answer_eq := by
    rw [reached_cons_ok hreach, List.findSome?_cons, Backend.decision, hverdict]
    rfl
  searched := by
    have hdecides : b.decides m.world devnum path = true := by
      rw [Backend.decides, hreach]
      dsimp only
      rw [hverdict]
      rfl
    rw [upTo, hdecides]
    exact hsearched

theorem Opening.not_decides {e : PairingError} {es : List Event}
    (h : Opening b .media (m.extend es) path (.error e, m')) :
    b.decides m.world devnum path = false := by
  cases h with
  | refused hreach => rw [Backend.decides, ← Machine.extend_world m es, hreach]
  | silent hreach hreply =>
    rw [Backend.decides, ← Machine.extend_world m es, hreach]
    dsimp only
    rw [Backend.verdict, show b.mediaInfo _ = _ from hreply]
    rfl

end

/-- How the search goes on with a controller that was opened and asked: its verdict ends the
search, or it is passed over. -/
theorem Published.resolved {b : Backend} {dir path : Path} {devnum : DeviceNumber} {m : Machine}
    {rest : List Path} {n : Node} {info : MediaInfo} {es : List Event}
    {published : Except PairingError Bool} (hm : m.Fresh)
    (hreach : b.reach m.world path = .ok n)
    (hpublished : Published info path (b.verdict devnum n) published) (htries : Tries es [])
    (hrest : ∀ {m' : Machine}, m'.Fresh →
      Resolved b dir devnum m' rest ((resolvePaths b.access dir devnum rest).run m')) :
    Resolved b dir devnum m (path :: rest)
      (resolveOn b dir devnum rest { path, fd := m.nextHandle, info }
        (m.keep path (NodeKind.media.opened m.nextHandle path ++ es)) published) := by
  generalize hverdict : b.verdict devnum n = verdict at hpublished
  have hnext : verdict = none → ∀ r, Resolved b dir devnum m (path :: rest)
      ((resolvePaths b.access dir devnum rest).run
        (((m.keep path (NodeKind.media.opened m.nextHandle path ++ es)).extend
          [.logged r]).shut m.nextHandle)) := by
    intro hnone r
    have hpassed := passed_shut .media hm hreach (htries.append (tries_log r))
    rw [Machine.keep_extend, List.append_assoc]
    refine (hrest hpassed.fresh).pass hpassed ?_
    rw [Backend.decides, hreach]
    dsimp only
    rw [hverdict, hnone]
    rfl
  cases hpublished with
  | matched =>
    dsimp only [resolveOn]
    rw [Machine.keep_extend, List.append_assoc]
    exact resolved_cons hreach hverdict (searched_kept .media (htries.append (tries_log _)))
  | other => exact hnext rfl _
  | empty => exact hnext rfl _
  | failed e => exact hnext rfl _
  | tooMany count =>
    have hpassed := passed_shut .media hm hreach htries
    exact resolved_cons hreach hverdict ⟨hpassed.world_eq, hpassed.journal_eq⟩

theorem resolvePaths_resolved (b : Backend) (dir : Path) (devnum : DeviceNumber)
    {m : Machine} (hm : m.Fresh) {paths : List Path}
    (hadmits : ∀ path ∈ paths, b.admits path = true) :
    Resolved b dir devnum m paths ((resolvePaths b.access dir devnum paths).run m) := by
  induction paths generalizing m with
  | nil =>
    rw [resolvePaths_nil]
    exact ⟨rfl, searched_extend (tries_log _)⟩
  | cons path rest ih =>
    have hrest := fun path' hpath' => hadmits path' (List.mem_cons_of_mem path hpath')
    have hopening := openMediaDevice_opening b (hm.extend [.logged (.probing path)]) path
    generalize hopened : (openMediaDevice b.access path).run (m.extend [.logged (.probing path)]) =
      opened at hopening
    obtain ⟨answer, m₁⟩ := opened
    cases answer with
    | error e =>
      have hpassed := hopening.passed hm (hadmits path List.mem_cons_self) (.skipped e)
      rw [resolvePaths_skip hopened]
      exact (ih hpassed.fresh hrest).pass hpassed hopening.not_decides
    | ok media =>
      obtain ⟨n, info, hreach, hinfo, hmedia, rfl⟩ := hopening.kept
      have hmedia : media = { path, fd := m.nextHandle, info } := hmedia
      subst hmedia
      obtain ⟨es, hes, hrun⟩ := publishes_answers b { path, fd := m.nextHandle, info } devnum
        (m.keep path (NodeKind.media.opened m.nextHandle path))
      dsimp only at hes hrun
      rw [Machine.node_keep hm (get?_of_reach hreach), Machine.keep_extend] at hrun
      rw [resolvePaths_ask hopened hrun]
      exact (publishes_published hinfo devnum path).resolved hm hreach (tries_of_about hes)
        fun hm' => ih hm' hrest

/-! ## The whole call -/

/-- The ways in which resolving `video` on `m` can end. -/
inductive Resolution (b : Backend) (m : Machine) (dir : Path) (video : VideoDevice Nat) :
    Except PairingError (MediaDevice Nat) × Machine → Prop
  /-- The video node's number cannot be read, and nothing else is asked. -/
  | unidentified {e : Errno} {es : List Event}
    (number_eq : (m.node video.fd).bind b.number = .error e)
    (about : ∀ x ∈ es, x.About video.fd) :
    Resolution b m dir video (.error (.identityQueryFailed video.path e), m.extend es)
  /-- The directory cannot be listed, and nothing is opened. -/
  | unlisted {devnum : DeviceNumber} {e : IoError} {es : List Event}
    (number_eq : (m.node video.fd).bind b.number = .ok devnum)
    (names_eq : b.names m.world dir = .error e) (tries : Tries es []) :
    Resolution b m dir video (.error (.directoryUnreadable dir e), m.extend es)
  | searched {devnum : DeviceNumber} {names : List Bytes}
    {r : Except PairingError (MediaDevice Nat) × Machine}
    (number_eq : (m.node video.fd).bind b.number = .ok devnum)
    (names_eq : b.names m.world dir = .ok names)
    (resolved : Resolved b dir devnum m (candidates mediaStem dir names) r) :
    Resolution b m dir video r

theorem resolve_resolution (b : Backend) {m : Machine} (hm : m.Fresh) (dir : Path)
    (video : VideoDevice Nat) :
    Resolution b m dir video ((resolve b.access dir video).run m) := by
  obtain ⟨es, habout, hrun⟩ := deviceNumberOf_answers b video m
  unfold resolve
  rw [run_bind_of_eq hrun]
  unfold Backend.identity
  cases hnumber : (m.node video.fd).bind b.number with
  | error e => exact .unidentified hnumber habout
  | ok devnum =>
    dsimp only [Except.mapError]
    rw [Backend.access_log, run_bind_of_eq (Machine.log_run _ _), Machine.extend_extend]
    obtain ⟨es', hlisting, hrun'⟩ := b.entries_answers dir
      (m.extend (es ++ [.logged (.videoNumber devnum)]))
    have htries : Tries ((es ++ [.logged (.videoNumber devnum)]) ++ es') [] :=
      ((tries_of_about habout).append (tries_log _)).append (tries_of_listing hlisting)
    rw [run_bind_of_eq hrun', Machine.extend_extend, Machine.extend_world]
    cases hnames : b.names m.world dir with
    | error e => exact .unlisted hnumber hnames htries
    | ok names =>
      have hresolved := resolvePaths_resolved b dir devnum
        (hm.extend ((es ++ [.logged (.videoNumber devnum)]) ++ es'))
        (candidates_admitted hnames mediaStem)
      exact .searched hnumber hnames ⟨hresolved.answer_eq, hresolved.searched.of_extend htries⟩

/-- What `resolve` answers. -/
def Backend.resolved (b : Backend) (m : Machine) (dir : Path) (video : VideoDevice Nat) :
    Except PairingError (MediaDevice Nat) :=
  match (m.node video.fd).bind b.number with
  | .error e => .error (.identityQueryFailed video.path e)
  | .ok devnum =>
    match b.names m.world dir with
    | .error e => .error (.directoryUnreadable dir e)
    | .ok names =>
      ((b.reached m.world m.nextHandle (candidates mediaStem dir names)).findSome?
        (b.decision devnum)).getD (.error (.noMatchingMediaDevice dir devnum))

theorem Resolution.answer_eq {b : Backend} {m : Machine} {dir : Path} {video : VideoDevice Nat}
    {r : Except PairingError (MediaDevice Nat) × Machine} (h : Resolution b m dir video r) :
    r.1 = b.resolved m dir video := by
  unfold Backend.resolved
  cases h with
  | unidentified hnumber _ => rw [hnumber]
  | unlisted hnumber hnames _ =>
    rw [hnumber]
    dsimp only
    rw [hnames]
  | searched hnumber hnames hresolved =>
    rw [hnumber]
    dsimp only
    rw [hnames]
    exact hresolved.answer_eq

theorem Resolution.searches {b : Backend} {m : Machine} {dir : Path} {video : VideoDevice Nat}
    {r : Except PairingError (MediaDevice Nat) × Machine} (h : Resolution b m dir video r) :
    ∃ tried, Searched m tried r.2 := by
  cases h with
  | unidentified _ habout => exact ⟨[], searched_extend (tries_of_about habout)⟩
  | unlisted _ _ htries => exact ⟨[], searched_extend htries⟩
  | searched _ _ hresolved => exact ⟨_, hresolved.searched⟩

/-- What the names of controllers begin with, as bytes. -/
theorem encode_mediaStem : Utf8.encode mediaStem = [0x6D, 0x65, 0x64, 0x69, 0x61] := by decide

/-- What `resolve` answers and what it opens, from the number of the video node, the listing and
the nodes alone: the answer is that of the first candidate with one, and none after it is
tried. -/
theorem resolve_finds_first_decisive (b : Backend) {m : Machine} (hm : m.Fresh) (dir : Path)
    (video : VideoDevice Nat) :
    ∃ es, ((resolve b.access dir video).run m).2.journal = m.journal ++ es ∧
      match (m.node video.fd).bind b.number with
      | .error e =>
        ((resolve b.access dir video).run m).1 = .error (.identityQueryFailed video.path e) ∧
          listings es = [] ∧ attempts es = []
      | .ok devnum =>
        match b.names m.world dir with
        | .error e =>
          ((resolve b.access dir video).run m).1 = .error (.directoryUnreadable dir e) ∧
            attempts es = []
        | .ok names =>
          ∃ paths,
            paths = (names.filter ([0x6D, 0x65, 0x64, 0x69, 0x61].isPrefixOf ·)).map
              (dir.join ⟨·⟩) ∧
            ((resolve b.access dir video).run m).1 =
              ((b.reached m.world m.nextHandle paths).findSome? (b.decision devnum)).getD
                (.error (.noMatchingMediaDevice dir devnum)) ∧
            attempts es = upTo (b.decides m.world devnum) paths ∧
            ((resolve b.access dir video).run m).2.handles = m.handles ++
              (handed MediaDevice.holding ((resolve b.access dir video).run m).1).toList := by
  have hhandles := (resolve_progress b dir video hm).handles_eq
  have hresolution := resolve_resolution b hm dir video
  generalize (resolve b.access dir video).run m = r at hhandles hresolution
  cases hresolution with
  | unidentified hnumber habout =>
    refine ⟨_, rfl, ?_⟩
    rw [hnumber]
    exact ⟨rfl, listings_of_about habout, (tries_of_about habout).attempts_eq⟩
  | unlisted hnumber hnames htries =>
    refine ⟨_, rfl, ?_⟩
    rw [hnumber]
    dsimp only
    rw [hnames]
    exact ⟨rfl, htries.attempts_eq⟩
  | searched hnumber hnames hresolved =>
    obtain ⟨es, hjournal, htries⟩ := hresolved.searched.journal_eq
    refine ⟨es, hjournal, ?_⟩
    rw [hnumber]
    dsimp only
    rw [hnames]
    exact ⟨_, rfl, hresolved.answer_eq, htries.attempts_eq, hhandles⟩

/-- The controller without interfaces is passed over. -/
theorem resolve_finds_first_decisive_sample :
    Machine.sample.Fresh ∧
      ((resolve Machine.kernel (.ofString "/dev") ⟨.ofString "/dev/video0", 4, {}⟩).run
        .sample).1 = .ok ⟨.ofString "/dev/media1", 6, {}⟩ := by
  obtain ⟨es, -, paths, rfl, hanswer, -⟩ := resolve_finds_first_decisive .kernel
    Machine.fresh_sample (.ofString "/dev") ⟨.ofString "/dev/video0", 4, {}⟩
  exact ⟨Machine.fresh_sample, hanswer⟩

end MediaPairing
