import MediaPairing.Proofs.Discovery.Candidates
import MediaPairing.Proofs.Discovery.Descriptors

/-!
# The video node that is found

`probe` offers the caller's predicate the nodes that open and tell their capabilities, in the
order of the listing, and stops at the first one that is accepted. The predicate may keep a
state: it is asked once about each node that is offered, and about nothing else.

* `Backend.offers`: the devices that a search has to offer.
* `firstAccepted`: the choice among them, with the state of the predicate carried along.
* `Decides`: a predicate whose answers are a function of its state and the device.
* `DecidesIn w`: the same on machines with the world `w`, so that the answers may depend on
  what the node behind the device says.
* `Probed`, `probePaths_probed`: the two ways in which the search can end, by induction on
  the candidates.
-/

namespace MediaPairing

variable {τ : Type}

/-! ## Offers -/

/-- The device that a search offers after opening a node, if the node tells its
capabilities. -/
def Backend.offer (b : Backend) (r : Reached) : Option (VideoDevice Nat) :=
  match b.capability r.node with
  | .error _ => none
  | .ok capability => some { path := r.path, fd := r.handle, capability }

/-- The devices among the nodes at the given paths, the first one opened with `handle`. -/
def Backend.offers (b : Backend) (w : World) (handle : Nat) (paths : List Path) :
    List (VideoDevice Nat) :=
  (b.reached w handle paths).filterMap b.offer

/-- The first item that a predicate with a state accepts, and its state after that. -/
def firstAccepted {α : Type} (answer : τ → α → Bool × τ) : τ → List α → Option α × τ
  | s, [] => (none, s)
  | s, a :: rest =>
    match answer s a with
    | (true, s') => (some a, s')
    | (false, s') => firstAccepted answer s' rest

/-- The predicate answers as a function of its state and the device, whatever it logs or asks
the device. -/
def Decides (accept : VideoDevice Nat → StateT τ (StateM Machine) Bool)
    (answer : τ → VideoDevice Nat → Bool × τ) : Prop :=
  ∀ device s m, Answers ((accept device).run s) m (Event.About device.fd) (answer s device)

/-- On machines with the world `w` the predicate answers as a function of its state and the
device, as long as the device is open. -/
def DecidesIn (w : World) (accept : VideoDevice Nat → StateT τ (StateM Machine) Bool)
    (answer : τ → VideoDevice Nat → Bool × τ) : Prop :=
  ∀ device s m, m.world = w → m.handles.lookup device.fd = some device.path →
    Answers ((accept device).run s) m (Event.About device.fd) (answer s device)

theorem Decides.on {accept : VideoDevice Nat → StateT τ (StateM Machine) Bool}
    {answer : τ → VideoDevice Nat → Bool × τ} (h : Decides accept answer) (w : World) :
    DecidesIn w accept answer :=
  fun device s m _ _ => h device s m

theorem Decides.inert {accept : VideoDevice Nat → StateT τ (StateM Machine) Bool}
    {answer : τ → VideoDevice Nat → Bool × τ} (h : Decides accept answer) : Inert accept :=
  fun device s m => (h device s m).quiet fun _ => Event.About.idle

theorem firstAccepted_append {α : Type} {answer : τ → α → Bool × τ} {s s' : τ} {l : List α}
    (h : firstAccepted answer s l = (none, s')) (l' : List α) :
    firstAccepted answer s (l ++ l') = firstAccepted answer s' l' := by
  induction l generalizing s with
  | nil =>
    cases h
    rfl
  | cons a rest ih =>
    rw [firstAccepted] at h
    rw [List.cons_append, firstAccepted]
    cases hanswer : answer s a with
    | mk accepted s₁ =>
      rw [hanswer] at h
      cases accepted with
      | true => cases h
      | false => exact ih h

/-- What was accepted has been said yes to. -/
theorem accepts_of_firstAccepted {α : Type} {answer : τ → α → Bool × τ} {s s' : τ} {l : List α}
    {a : α} (h : firstAccepted answer s l = (some a, s')) : ∃ s₀, (answer s₀ a).1 = true := by
  induction l generalizing s with
  | nil => cases h
  | cons a' rest ih =>
    rw [firstAccepted] at h
    cases hanswer : answer s a' with
    | mk accepted s₁ =>
      rw [hanswer] at h
      cases accepted with
      | true =>
        cases h
        exact ⟨s, congrArg Prod.fst hanswer⟩
      | false => exact ih h

section

variable {b : Backend} {path : Path} {m m' : Machine}

theorem Passed.offers_cons (h : Passed b path m m') (rest : List Path) :
    b.offers m.world m.nextHandle (path :: rest) =
      b.offers m.world m.nextHandle [path] ++ b.offers m'.world m'.nextHandle rest := by
  unfold Backend.offers
  rw [h.reached_cons, List.filterMap_append]

theorem Opening.offers_eq_nil {e : PairingError} {es : List Event}
    (h : Opening b .video (m.extend es) path (.error e, m')) :
    b.offers m.world m.nextHandle [path] = [] := by
  rw [← Machine.extend_world m es]
  unfold Backend.offers
  cases h with
  | refused hreach =>
    rw [reached_cons_error hreach]
    rfl
  | silent hreach hreply =>
    have hreply : b.capability _ = _ := hreply
    rw [reached_cons_ok hreach, List.filterMap_cons, Backend.offer, hreply]
    rfl

theorem offers_cons_ok {n : Node} {capability : Capability}
    (hreach : b.reach m.world path = .ok n) (hreply : b.capability n = .ok capability)
    (rest : List Path) :
    b.offers m.world m.nextHandle (path :: rest) =
      { path, fd := m.nextHandle, capability } ::
        b.offers m.world (m.nextHandle + 1) rest := by
  unfold Backend.offers
  rw [reached_cons_ok hreach, List.filterMap_cons, Backend.offer, hreply]

end

/-! ## The search over the candidates -/

/-- The ways in which the search over the candidates at `paths`, started on `m` with a
predicate in the state `s`, can end. -/
inductive Probed (b : Backend) (dir : Path) (answer : τ → VideoDevice Nat → Bool × τ)
    (m : Machine) (s : τ) (paths : List Path) :
    (Except PairingError (VideoDevice Nat) × τ) × Machine → Prop
  /-- No device is accepted, and all candidates were tried. -/
  | exhausted {s' : τ} {m' : Machine}
    (none_accepted :
      firstAccepted answer s (b.offers m.world m.nextHandle paths) = (none, s'))
    (searched : Searched m paths m') :
    Probed b dir answer m s paths ((.error (.noSuitableDevice dir), s'), m')
  /-- A device is accepted, and no candidate after it was tried. -/
  | found {before after : List Path} {device : VideoDevice Nat} {s' : τ} {m' : Machine}
    (paths_eq : paths = before ++ device.path :: after)
    (none_before : (firstAccepted answer s (b.offers m.world m.nextHandle before)).1 = none)
    (accepted_last :
      firstAccepted answer s (b.offers m.world m.nextHandle (before ++ [device.path])) =
        (some device, s'))
    (accepted :
      firstAccepted answer s (b.offers m.world m.nextHandle paths) = (some device, s'))
    (searched : Searched m (before ++ [device.path]) m') :
    Probed b dir answer m s paths ((.ok device, s'), m')

theorem Probed.pass {b : Backend} {dir path : Path} {answer : τ → VideoDevice Nat → Bool × τ}
    {m m' : Machine} {s s' : τ} {rest : List Path}
    {r : (Except PairingError (VideoDevice Nat) × τ) × Machine} (hpassed : Passed b path m m')
    (hrejected : firstAccepted answer s (b.offers m.world m.nextHandle [path]) = (none, s'))
    (h : Probed b dir answer m' s' rest r) : Probed b dir answer m s (path :: rest) r := by
  have hcons : ∀ l, firstAccepted answer s (b.offers m.world m.nextHandle (path :: l)) =
      firstAccepted answer s' (b.offers m'.world m'.nextHandle l) := by
    intro l
    rw [hpassed.offers_cons, firstAccepted_append hrejected]
  cases h with
  | exhausted hnone hsearched =>
    refine .exhausted ?_ (hpassed.searched hsearched)
    rw [hcons, hnone]
  | @found before after device s₁ m₁ hpaths hbefore hlast haccepted hsearched =>
    have hpaths' : path :: rest = (path :: before) ++ device.path :: after := by
      rw [hpaths, List.cons_append]
    refine .found hpaths' ?_ ?_ ?_ (hpassed.searched hsearched)
    · rw [hcons, hbefore]
    · rw [List.cons_append, hcons, hlast]
    · rw [hcons, haccepted]

theorem probePaths_probed (b : Backend) (dir : Path)
    {accept : VideoDevice Nat → StateT τ (StateM Machine) Bool}
    {answer : τ → VideoDevice Nat → Bool × τ} {w : World} (hdecides : DecidesIn w accept answer)
    {m : Machine} (hw : m.world = w) (hm : m.Fresh) (s : τ) {paths : List Path}
    (hadmits : ∀ path ∈ paths, b.admits path = true) :
    Probed b dir answer m s paths (((probePaths b.access dir accept paths).run s).run m) := by
  induction paths generalizing m s with
  | nil =>
    rw [probePaths_nil]
    exact .exhausted rfl (searched_extend (tries_log _))
  | cons path rest ih =>
    have hrest := fun path' hpath' => hadmits path' (List.mem_cons_of_mem path hpath')
    have hopening := openVideoDevice_opening b (hm.extend [.logged (.probing path)]) path
    generalize hopened : (openVideoDevice b.access path).run (m.extend [.logged (.probing path)]) =
      opened at hopening
    obtain ⟨answered, m₁⟩ := opened
    cases answered with
    | error e =>
      have hpassed := hopening.passed hm (hadmits path List.mem_cons_self) (.skipped e)
      rw [probePaths_skip hopened]
      refine (ih (hpassed.world_eq.trans hw) hpassed.fresh s hrest).pass hpassed ?_
      rw [hopening.offers_eq_nil]
      rfl
    | ok device =>
      obtain ⟨n, capability, hreach, hreply, hdevice, rfl⟩ := hopening.kept
      have hdevice : device = { path, fd := m.nextHandle, capability } := hdevice
      subst hdevice
      obtain ⟨es, hes, hrun⟩ := hdecides { path, fd := m.nextHandle, capability } s
        (m.keep path (NodeKind.video.opened m.nextHandle path)) hw
        (Machine.lookup_append_last hm path)
      have htries := tries_of_about hes
      rw [Machine.keep_extend] at hrun
      generalize hanswer : answer s { path, fd := m.nextHandle, capability } = asked at hrun
      obtain ⟨accepted, s'⟩ := asked
      rw [probePaths_offer hopened hrun]
      -- the state goes on to the next candidate only if the device was rejected
      cases accepted with
      | true =>
        rw [if_pos rfl, Machine.keep_extend, List.append_assoc]
        have haccepted : ∀ l, firstAccepted answer s (b.offers m.world m.nextHandle (path :: l)) =
            (some { path, fd := m.nextHandle, capability }, s') := by
          intro l
          rw [offers_cons_ok hreach hreply, firstAccepted, hanswer]
        exact .found (List.nil_append _).symm rfl (haccepted []) (haccepted rest)
          (searched_kept .video (htries.append (tries_log _)))
      | false =>
        have hpassed := passed_shut .video hm hreach
          (htries.append (tries_log (.rejected path capability.card)))
        rw [if_neg (by decide), Machine.keep_extend, List.append_assoc]
        refine (ih (hpassed.world_eq.trans hw) hpassed.fresh s' hrest).pass hpassed ?_
        rw [offers_cons_ok hreach hreply, firstAccepted, hanswer]
        rfl

/-! ## The whole call -/

/-- What the names of video nodes begin with, as bytes. -/
theorem encode_videoStem : Utf8.encode videoStem = [0x76, 0x69, 0x64, 0x65, 0x6F] := by decide

theorem candidates_video (dir : Path) (names : List Bytes) :
    candidates videoStem dir names =
      (names.filter ([0x76, 0x69, 0x64, 0x65, 0x6F].isPrefixOf ·)).map
        (⟨dir.bytes ++ dir.separator ++ ·⟩) := by
  unfold candidates
  rw [encode_videoStem]
  refine List.map_congr_left fun name hname => ?_
  exact join_of_prefix (by decide) dir (List.mem_filter.mp hname).2

section

variable {b : Backend} {dir : Path} {accept : VideoDevice Nat → StateT τ (StateM Machine) Bool}
  {answer : τ → VideoDevice Nat → Bool × τ} {m : Machine}

theorem probe_unlisted (accept : VideoDevice Nat → StateT τ (StateM Machine) Bool) {e : IoError}
    (hnames : b.names m.world dir = .error e) (s : τ) :
    ∃ es, ((probe b.access dir accept).run s).run m =
      ((.error (.directoryUnreadable dir e), s), m.extend es) ∧ Tries es [] := by
  obtain ⟨es, hes, hrun⟩ := b.entries_answers dir m
  refine ⟨es, ?_, tries_of_listing hes⟩
  unfold probe
  rw [runs_bind_of_eq (runs_lift_of_eq s hrun), hnames]
  rfl

theorem probe_listed (hdecides : DecidesIn m.world accept answer) (hm : m.Fresh) (s : τ)
    {names : List Bytes} (hnames : b.names m.world dir = .ok names) :
    Probed b dir answer m s (candidates videoStem dir names)
      (((probe b.access dir accept).run s).run m) := by
  obtain ⟨es, hes, hrun⟩ := b.entries_answers dir m
  have htries := tries_of_listing hes
  have hprobed := probePaths_probed b dir hdecides (m.extend_world es) (hm.extend es) s
    (candidates_admitted hnames videoStem)
  unfold probe
  rw [runs_bind_of_eq (runs_lift_of_eq s hrun), hnames]
  dsimp only
  generalize ((probePaths b.access dir accept (candidates videoStem dir names)).run s).run
    (m.extend es) = r at hprobed ⊢
  cases hprobed with
  | exhausted hnone hsearched => exact .exhausted hnone (hsearched.of_extend htries)
  | found hpaths hbefore hlast haccepted hsearched =>
    exact .found hpaths hbefore hlast haccepted (hsearched.of_extend htries)

theorem probe_searches (hdecides : DecidesIn m.world accept answer) (hm : m.Fresh) (dir : Path)
    (s : τ) :
    ∃ tried, Searched m tried (((probe b.access dir accept).run s).run m).2 := by
  cases hnames : b.names m.world dir with
  | error e =>
    obtain ⟨es, hrun, htries⟩ := probe_unlisted accept hnames s
    rw [hrun]
    exact ⟨[], searched_extend htries⟩
  | ok names =>
    have hprobed := probe_listed hdecides hm s hnames
    generalize ((probe b.access dir accept).run s).run m = r at hprobed ⊢
    cases hprobed with
    | exhausted _ hsearched => exact ⟨_, hsearched⟩
    | found _ _ _ _ hsearched => exact ⟨_, hsearched⟩

/-- What `probe` answers, and the predicate's state after it. -/
def Backend.probed (b : Backend) (w : World) (handle : Nat) (dir : Path)
    (answer : τ → VideoDevice Nat → Bool × τ) (s : τ) :
    Except PairingError (VideoDevice Nat) × τ :=
  match b.names w dir with
  | .error e => (.error (.directoryUnreadable dir e), s)
  | .ok names =>
    match firstAccepted answer s (b.offers w handle (candidates videoStem dir names)) with
    | (none, s') => (.error (.noSuitableDevice dir), s')
    | (some device, s') => (.ok device, s')

theorem accepts_of_probed {w : World} {handle : Nat} {s s' : τ} {device : VideoDevice Nat}
    (h : b.probed w handle dir answer s = (.ok device, s')) :
    ∃ s₀, (answer s₀ device).1 = true := by
  unfold Backend.probed at h
  split at h
  · cases h
  · split at h
    · cases h
    · rename_i names _ device' s₁ haccepted
      cases h
      exact accepts_of_firstAccepted haccepted

theorem probe_answer (hdecides : DecidesIn m.world accept answer) (hm : m.Fresh) (s : τ) :
    (((probe b.access dir accept).run s).run m).1 =
      b.probed m.world m.nextHandle dir answer s := by
  unfold Backend.probed
  cases hnames : b.names m.world dir with
  | error e =>
    obtain ⟨es, hrun, -⟩ := probe_unlisted accept hnames s
    rw [hrun]
  | ok names =>
    have hprobed := probe_listed hdecides hm s hnames
    generalize ((probe b.access dir accept).run s).run m = r at hprobed ⊢
    dsimp only
    cases hprobed with
    | exhausted hnone _ => rw [hnone]
    | found _ _ _ haccepted _ => rw [haccepted]

end

/-- What `probe` answers, what becomes of the predicate's state, and what is opened: the
candidates up to the first one whose device is accepted, and no other. -/
theorem probe_finds_first_accepted (b : Backend) {m : Machine} (hm : m.Fresh)
    {accept : VideoDevice Nat → StateT τ (StateM Machine) Bool}
    {answer : τ → VideoDevice Nat → Bool × τ} (hdecides : Decides accept answer) (dir : Path)
    (s : τ) :
    ∃ es, (((probe b.access dir accept).run s).run m).2.journal = m.journal ++ es ∧
      match b.names m.world dir with
      | .error e =>
        (((probe b.access dir accept).run s).run m).1 =
            (.error (.directoryUnreadable dir e), s) ∧
          attempts es = []
      | .ok names =>
        ∃ paths,
          paths = (names.filter ([0x76, 0x69, 0x64, 0x65, 0x6F].isPrefixOf ·)).map
            (⟨dir.bytes ++ dir.separator ++ ·⟩) ∧
          (((probe b.access dir accept).run s).run m).1.2 =
            (firstAccepted answer s (b.offers m.world m.nextHandle paths)).2 ∧
          match (firstAccepted answer s (b.offers m.world m.nextHandle paths)).1 with
          | none =>
            (((probe b.access dir accept).run s).run m).1.1 = .error (.noSuitableDevice dir) ∧
              attempts es = paths
          | some device =>
            (((probe b.access dir accept).run s).run m).1.1 = .ok device ∧
              ∃ before after,
                paths = before ++ device.path :: after ∧
                (firstAccepted answer s (b.offers m.world m.nextHandle before)).1 = none ∧
                (firstAccepted answer s
                  (b.offers m.world m.nextHandle (before ++ [device.path]))).1 = some device ∧
                attempts es = before ++ [device.path] := by
  cases hnames : b.names m.world dir with
  | error e =>
    obtain ⟨es, hrun, htries⟩ := probe_unlisted accept hnames s
    rw [hrun]
    exact ⟨es, rfl, rfl, htries.attempts_eq⟩
  | ok names =>
    have hprobed := probe_listed (hdecides.on m.world) hm s hnames
    rw [candidates_video] at hprobed
    generalize ((probe b.access dir accept).run s).run m = r at hprobed
    cases hprobed with
    | exhausted hnone hsearched =>
      obtain ⟨es, hjournal, htries⟩ := hsearched.journal_eq
      refine ⟨es, hjournal, _, rfl, ?_⟩
      rw [hnone]
      exact ⟨rfl, rfl, htries.attempts_eq⟩
    | @found before after device s' m' hpaths hbefore hlast haccepted hsearched =>
      obtain ⟨es, hjournal, htries⟩ := hsearched.journal_eq
      refine ⟨es, hjournal, _, rfl, ?_⟩
      rw [haccepted]
      exact ⟨rfl, rfl, before, after, hpaths, hbefore, congrArg Prod.fst hlast,
        htries.attempts_eq⟩

theorem decides_acceptSecond :
    Decides acceptSecond fun asked _ => (asked == 1, asked + 1) :=
  fun _ s m => answers_pure (s == 1, s + 1) m _

theorem probe_finds_first_accepted_sample :
    Machine.sample.Fresh ∧ Decides acceptSecond (fun asked _ => (asked == 1, asked + 1)) ∧
      (((probe Machine.kernel (.ofString "/dev") acceptSecond).run 0).run .sample).1 =
        (.ok ⟨.ofString "/dev/video1", 6, {}⟩, 2) := by
  obtain ⟨es, -, paths, rfl, hstate, hanswer, -⟩ := probe_finds_first_accepted .kernel
    Machine.fresh_sample decides_acceptSecond (.ofString "/dev") 0
  exact ⟨Machine.fresh_sample, decides_acceptSecond, Prod.ext hanswer hstate⟩

end MediaPairing
