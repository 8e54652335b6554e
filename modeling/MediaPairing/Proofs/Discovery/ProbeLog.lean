import MediaPairing.Proofs.Discovery.Accounts
import MediaPairing.Proofs.Discovery.OwnEvents

/-!
# The log of a search for a video node

A search for a video node logs an account of each candidate that it tries. What the caller's
predicate logs in between is told apart by a list of the search's own events.

* `ProbeLog`: the two ways in which the search can end, with the candidates that were tried and
  the log of each.
* `Steady`: a predicate that does no more than a user of the machine can.
* `probePaths_log`: the search over the candidates, by induction on them; each candidate that is
  passed over adds its account (`ProbeEnds.pass`, `ProbeEnds.reject`).
* `probe_log`: the whole call.
-/

namespace MediaPairing

/-- What a search for a video node over `paths` answers, which candidates it tries, and what it
logs. -/
inductive ProbeLog (b : Backend) (w : World) (dir : Path) (paths : List Path) :
    Except PairingError (VideoDevice Nat) → List Path → List LogRecord → Prop
  /-- No candidate after the one that is used is tried. -/
  | found {before after : List Path} {device : VideoDevice Nat}
    (paths_eq : paths = before ++ device.path :: after) :
    ProbeLog b w dir paths (.ok device) (before ++ [device.path])
      (before.flatMap (b.videoDismissal w) ++ account device.path [] (.usingVideo device.path))
  | exhausted :
    ProbeLog b w dir paths (.error (.noSuitableDevice dir)) paths
      (paths.flatMap (b.videoDismissal w) ++ [.noVideoDevice])

/-- The first candidate is the one that is used. -/
theorem probeLog_first (b : Backend) (w : World) (dir : Path) (device : VideoDevice Nat)
    (rest : List Path) :
    ProbeLog b w dir (device.path :: rest) (.ok device) [device.path]
      (account device.path [] (.usingVideo device.path)) :=
  @ProbeLog.found b w dir _ [] rest device rfl

theorem ProbeLog.pass {b : Backend} {w : World} {dir : Path} {paths tried : List Path}
    {answer : Except PairingError (VideoDevice Nat)} {records : List LogRecord}
    (h : ProbeLog b w dir paths answer tried records) (path : Path) :
    ProbeLog b w dir (path :: paths) answer ([path] ++ tried)
      (b.videoDismissal w path ++ records) := by
  cases h with
  | @found before after device hpaths =>
    have hpaths' : path :: paths = (path :: before) ++ device.path :: after := by
      rw [hpaths, List.cons_append]
    have hfound : ProbeLog b w dir (path :: paths) _ _ _ := .found hpaths'
    rw [List.flatMap_cons, List.append_assoc] at hfound
    exact hfound
  | exhausted =>
    have hexhausted : ProbeLog b w dir (path :: paths) _ _ _ := .exhausted
    rw [List.flatMap_cons, List.append_assoc] at hexhausted
    exact hexhausted

/-- The candidates that are tried are those that the log names. There is an error in the log if
and only if no device is found. -/
theorem ProbeLog.mentions {b : Backend} {w : World} {dir : Path} {paths tried : List Path}
    {answer : Except PairingError (VideoDevice Nat)} {records : List LogRecord}
    (h : ProbeLog b w dir paths answer tried records) :
    records.filterMap LogRecord.probed? = tried ∧
      records.filter (·.level = .error) = errorRecords answer := by
  have hdismissals := mentions_flatMap (b.mentions_videoDismissal w)
  cases h with
  | @found before after device hpaths =>
    have husing : Mentions [] [.usingVideo device.path] := ⟨rfl, rfl⟩
    have hnames := (hdismissals before).append (mentions_account mentions_nil husing device.path)
    exact ⟨hnames.probed_eq, hnames.errors_eq⟩
  | exhausted => exact (hdismissals paths).concat rfl rfl

/-- The predicate changes neither the world nor what is in the journal, and forges no handles. It
may use the machine otherwise: log, open and close nodes, and ask them. -/
structure Steady {τ : Type} (accept : VideoDevice Nat → StateT τ (StateM Machine) Bool) :
    Prop where
  fresh : ∀ device s m, m.Fresh → (((accept device).run s).run m).2.Fresh
  world_eq : ∀ device s m, (((accept device).run s).run m).2.world = m.world
  journal_eq : ∀ device s m, ∃ es, (((accept device).run s).run m).2.journal = m.journal ++ es

section

variable {τ : Type} {b : Backend} {dir path : Path} {m m' : Machine} {rest : List Path}
  {own es gained opened noted : List Event}
  {r : (Except PairingError (VideoDevice Nat) × τ) × Machine}
  {r' : (Except PairingError (VideoDevice Nat) × τ) × Machine × List Event}

/-- A search over `paths`, started on `m`, has come to `r`, and beside the list `own` to `r'`. What
was added to the list is in the journal, and is the log that this needs. -/
def ProbeEnds (b : Backend) (dir : Path) (m : Machine) (own : List Event) (paths : List Path)
    (r : (Except PairingError (VideoDevice Nat) × τ) × Machine)
    (r' : (Except PairingError (VideoDevice Nat) × τ) × Machine × List Event) : Prop :=
  ∃ es gained, r' = (r.1, (r.2, own ++ es)) ∧ r.2.journal = m.journal ++ gained ∧
    es.Sublist gained ∧ ProbeLog b m.world dir paths r.1.1 (attempts es) (recorded es)

theorem probeEnds_of_tells {paths tried : List Path} {records : List LogRecord}
    {answer : Except PairingError (VideoDevice Nat) × τ} (htells : Tells es tried records)
    (hlog : ProbeLog b m.world dir paths answer.1 tried records)
    (hjournal : m'.journal = m.journal ++ gained) (hsub : es.Sublist gained) :
    ProbeEnds b dir m own paths (answer, m') (answer, (m', own ++ es)) := by
  refine ⟨es, gained, rfl, hjournal, hsub, ?_⟩
  rw [htells.attempts_eq, htells.recorded_eq]
  exact hlog

/-- The first candidate is passed over. -/
theorem ProbeEnds.pass (h : ProbeEnds b dir m' (own ++ es) rest r r')
    (hworld : m'.world = m.world) (hjournal : m'.journal = m.journal ++ gained)
    (hsub : es.Sublist gained) (htells : Tells es [path] (b.videoDismissal m.world path)) :
    ProbeEnds b dir m own (path :: rest) r r' := by
  obtain ⟨es', gained', hown, hjournal', hsub', hlog⟩ := h
  refine ⟨es ++ es', gained ++ gained', ?_, ?_, hsub.append hsub', ?_⟩
  · rw [hown, List.append_assoc]
  · rw [hjournal', hjournal, List.append_assoc]
  · rw [attempts_append, recorded_append, htells.attempts_eq, htells.recorded_eq]
    rw [hworld] at hlog
    exact hlog.pass path

/-- In the journal, what the predicate notes stands between the events of the search itself. -/
theorem sublist_between (opened noted ended : List Event) :
    (opened ++ ended).Sublist (opened ++ noted ++ ended) :=
  (List.sublist_append_left opened noted).append (List.Sublist.refl ended)

/-- The first candidate is used, after the predicate was asked about it. -/
theorem probeEnds_use {device : VideoDevice Nat} {s : τ}
    (hjournal : m'.journal = m.journal ++ ([.logged (.probing device.path)] ++ opened ++ noted))
    (hopened : Tells opened [device.path] []) :
    ProbeEnds b dir m own (device.path :: rest)
      ((.ok device, s), m'.extend [.logged (.usingVideo device.path)])
      ((.ok device, s), (m'.extend [.logged (.usingVideo device.path)],
        own ++ ([.logged (.probing device.path)] ++ opened ++
          [.logged (.usingVideo device.path)]))) := by
  have hused : Tells _ _ (account device.path [] (.usingVideo device.path)) :=
    tells_account hopened (tells_log (.usingVideo device.path))
  apply probeEnds_of_tells hused (probeLog_first b m.world dir device rest) _
    (sublist_between _ noted _)
  rw [Machine.extend_journal, hjournal, List.append_assoc]

/-- The first candidate is passed over after the predicate was asked about it, and closed. -/
theorem ProbeEnds.reject {disposed : LogRecord} {handle : Nat}
    (h : ProbeEnds b dir ((m'.extend [.logged disposed]).shut handle)
      (own ++ ([.logged (.probing path)] ++ opened ++ [.logged disposed, .closed handle]))
      rest r r')
    (hworld : m'.world = m.world)
    (hjournal : m'.journal = m.journal ++ ([.logged (.probing path)] ++ opened ++ noted))
    (hopened : Tells opened [path] [])
    (hdisposed : b.videoDisposition m.world path = disposed) :
    ProbeEnds b dir m own (path :: rest) r r' := by
  have hdismissed : Tells _ _ (b.videoDismissal m.world path) := tells_account hopened
    ((tells_log (b.videoDisposition m.world path)).append (tells_close handle))
  rw [hdisposed] at hdismissed
  apply h.pass hworld _ (sublist_between _ noted _) hdismissed
  rw [Machine.shut_journal, Machine.extend_journal, hjournal]
  simp only [List.append_assoc, List.cons_append, List.nil_append]

end

theorem probePaths_log {τ : Type} (b : Backend) (dir : Path)
    {accept : VideoDevice Nat → StateT τ (StateM Machine) Bool} (haccept : Steady accept)
    {m : Machine} (hm : m.Fresh) (s : τ) {paths : List Path}
    (hadmits : ∀ path ∈ paths, b.admits path = true) (own : List Event) :
    ProbeEnds b dir m own paths (((probePaths b.access dir accept paths).run s).run m)
      (((probePaths b.access.owned dir (unowned accept) paths).run s).run (m, own)) := by
  induction paths generalizing m s own with
  | nil =>
    rw [probePaths_nil, probePaths_owned_nil]
    exact probeEnds_of_tells (tells_log _) .exhausted rfl (List.Sublist.refl _)
  | cons path rest ih =>
    have hadmit := hadmits path List.mem_cons_self
    have hrest := fun path' hpath' => hadmits path' (List.mem_cons_of_mem path hpath')
    have hopening := openVideoDevice_opening b (hm.extend [.logged (.probing path)]) path
    generalize hopened : (openVideoDevice b.access path).run (m.extend [.logged (.probing path)]) =
      opened at hopening
    obtain ⟨answered, m₁⟩ := opened
    obtain ⟨es, hjournal, htells⟩ := hopening.tells hadmit
    rw [Machine.extend_journal] at hjournal
    cases answered with
    | error e =>
      have hpassed := hopening.passed hm hadmit (.skipped e)
      have hdisposed : b.videoDisposition m.world path = .skipped e := by
        rw [Backend.videoDisposition, hopening.told_error]
        rfl
      have hdismissed : Tells _ _ (b.videoDismissal m.world path) := tells_account htells
        (tells_log (b.videoDisposition m.world path))
      rw [hdisposed] at hdismissed
      rw [probePaths_skip hopened, probePaths_owned_skip hopened hjournal]
      apply (ih hpassed.fresh s hrest _).pass hpassed.world_eq _ (List.Sublist.refl _) hdismissed
      rw [Machine.extend_journal, hjournal]
      simp only [List.append_assoc]
    | ok device =>
      obtain ⟨n, capability, hreach, hreply, hdevice, rfl⟩ := hopening.kept
      have hdevice : device = { path, fd := m.nextHandle, capability } := hdevice
      subst hdevice
      have hdisposed : b.videoDisposition m.world path = .rejected path capability.card := by
        rw [Backend.videoDisposition, told_ok hreach hreply]
        rfl
      generalize hkept : m.keep path (NodeKind.video.opened m.nextHandle path) = m₁ at *
      have hworld := haccept.world_eq { path, fd := m.nextHandle, capability } s m₁
      have hfresh := haccept.fresh { path, fd := m.nextHandle, capability } s m₁
        (hkept ▸ hm.keep path _)
      obtain ⟨noted, hnoted⟩ := haccept.journal_eq { path, fd := m.nextHandle, capability } s m₁
      generalize hasked : ((accept { path, fd := m.nextHandle, capability }).run s).run m₁ = asked
        at hfresh hworld hnoted
      obtain ⟨⟨accepted, s₁⟩, m₂⟩ := asked
      have hgained : m₂.journal = m.journal ++ ([.logged (.probing path)] ++ es ++ noted) := by
        rw [hnoted, hjournal]
        simp only [List.append_assoc]
      rw [probePaths_offer hopened hasked, probePaths_owned_offer hopened hjournal hasked]
      cases accepted with
      | true => exact probeEnds_use hgained htells
      | false =>
        have hfresh' : ((m₂.extend [.logged (.rejected path capability.card)]).shut
            m.nextHandle).Fresh := (hfresh.extend _).shut _
        exact (ih hfresh' s₁ hrest _).reject (hworld.trans (hkept ▸ rfl)) hgained htells hdisposed

theorem probe_log {τ : Type} (b : Backend) {m : Machine} (hm : m.Fresh)
    {accept : VideoDevice Nat → StateT τ (StateM Machine) Bool} (haccept : Steady accept)
    (dir : Path) (s : τ) :
    ∃ own gained,
      ((probe b.access.owned dir (unowned accept)).run s).run (m, []) =
        ((((probe b.access dir accept).run s).run m).1,
          ((((probe b.access dir accept).run s).run m).2, own)) ∧
      (((probe b.access dir accept).run s).run m).2.journal = m.journal ++ gained ∧
      own.Sublist gained ∧
      match b.names m.world dir with
      | .error e =>
        (((probe b.access dir accept).run s).run m).1.1 = .error (.directoryUnreadable dir e) ∧
          attempts own = [] ∧ recorded own = []
      | .ok names =>
        ProbeLog b m.world dir (candidates videoStem dir names)
          (((probe b.access dir accept).run s).run m).1.1 (attempts own) (recorded own) := by
  obtain ⟨es, hes, hrun⟩ := b.entries_answers dir m
  have hlisted := tells_listing hes
  have howned := (owns_entries b dir).run hrun rfl []
  unfold probe
  rw [runs_bind_of_eq (runs_lift_of_eq s hrun), runs_bind_of_eq (runs_lift_of_eq s howned)]
  cases hnames : b.names m.world dir with
  | error e =>
    exact ⟨es, es, rfl, rfl, List.Sublist.refl _, rfl, hlisted.attempts_eq, hlisted.recorded_eq⟩
  | ok names =>
    obtain ⟨es', gained, hsearch, hjournal, hsub, hlog⟩ := probePaths_log b dir haccept
      (hm.extend es) s (candidates_admitted hnames videoStem) es
    refine ⟨es ++ es', es ++ gained, hsearch, ?_, (List.Sublist.refl es).append hsub, ?_⟩
    · rw [← List.append_assoc]
      exact hjournal
    · rw [attempts_append, recorded_append, hlisted.attempts_eq, hlisted.recorded_eq]
      exact hlog

end MediaPairing
