import MediaPairing.Proofs.Discovery.LogLines

/-!
# The log of a search

A search for a controller logs an account of each candidate, as a search for a video node does.
It can also end at a controller without a buffer for its interfaces, which is the one candidate
without a disposition.

* `ResolveLog`: the three ways in which the search can end, with the candidates that were tried
  and the log of each.
* `resolvePaths_log`: the search over the candidates, by induction on them.
* `searches_log_every_candidate`: both searches leave no candidate without an account.
-/

namespace MediaPairing

/-- What a search for the controller of `devnum` over `paths` answers, which candidates it tries,
and what it logs. -/
inductive ResolveLog (b : Backend) (w : World) (dir : Path) (devnum : DeviceNumber)
    (paths : List Path) :
    Except PairingError (MediaDevice Nat) → List Path → List LogRecord → Prop
  /-- No candidate after the one that is used is tried. -/
  | found {before after : List Path} {media : MediaDevice Nat} {is : List Interface}
    (paths_eq : paths = before ++ media.path :: after)
    (dismisses : ∀ path ∈ before, b.Dismisses w devnum path)
    (survey_eq : b.survey w media.path = .ok is) (published : ∃ i ∈ is, i.devnode = devnum) :
    ResolveLog b w dir devnum paths (.ok media) (before ++ [media.path])
      (before.flatMap (b.mediaDismissal w devnum) ++
        account media.path (comparisons devnum is) (.usingMedia media.path))
  /-- The controller at `path` is the one candidate without a disposition. -/
  | unallocated {before after : List Path} {path : Path} {count : UInt32}
    (paths_eq : paths = before ++ path :: after)
    (dismisses : ∀ path ∈ before, b.Dismisses w devnum path)
    (survey_eq : b.survey w path = .error (.allocationFailed count)) :
    ResolveLog b w dir devnum paths (.error (.allocationFailed count)) (before ++ [path])
      (before.flatMap (b.mediaDismissal w devnum) ++ [.probing path])
  | exhausted (dismisses : ∀ path ∈ paths, b.Dismisses w devnum path) :
    ResolveLog b w dir devnum paths (.error (.noMatchingMediaDevice dir devnum)) paths
      (paths.flatMap (b.mediaDismissal w devnum) ++ [.noMediaDevice])

theorem ResolveLog.pass {b : Backend} {w : World} {dir path : Path} {devnum : DeviceNumber}
    {paths tried : List Path} {answer : Except PairingError (MediaDevice Nat)}
    {records : List LogRecord} (h : ResolveLog b w dir devnum paths answer tried records)
    (hdismisses : b.Dismisses w devnum path) :
    ResolveLog b w dir devnum (path :: paths) answer ([path] ++ tried)
      (b.mediaDismissal w devnum path ++ records) := by
  cases h with
  | @found before after media is hpaths hbefore hsurvey hpublished =>
    have hpaths' : path :: paths = (path :: before) ++ media.path :: after := by
      rw [hpaths, List.cons_append]
    have hfound : ResolveLog b w dir devnum (path :: paths) _ _ _ :=
      .found hpaths' (List.forall_mem_cons.mpr ⟨hdismisses, hbefore⟩) hsurvey hpublished
    rw [List.flatMap_cons, List.append_assoc] at hfound
    exact hfound
  | @unallocated before after path' count hpaths hbefore hsurvey =>
    have hpaths' : path :: paths = (path :: before) ++ path' :: after := by
      rw [hpaths, List.cons_append]
    have hended : ResolveLog b w dir devnum (path :: paths) _ _ _ :=
      .unallocated hpaths' (List.forall_mem_cons.mpr ⟨hdismisses, hbefore⟩) hsurvey
    rw [List.flatMap_cons, List.append_assoc] at hended
    exact hended
  | exhausted hrest =>
    have hexhausted : ResolveLog b w dir devnum (path :: paths) _ _ _ :=
      .exhausted (List.forall_mem_cons.mpr ⟨hdismisses, hrest⟩)
    rw [List.flatMap_cons, List.append_assoc] at hexhausted
    exact hexhausted

theorem ResolveLog.mentions {b : Backend} {w : World} {dir : Path} {devnum : DeviceNumber}
    {paths tried : List Path} {answer : Except PairingError (MediaDevice Nat)}
    {records : List LogRecord} (h : ResolveLog b w dir devnum paths answer tried records) :
    records.filterMap LogRecord.probed? = tried ∧
      records.filter (·.level = .error) = errorRecords answer := by
  have hdismissals := mentions_flatMap (b.mentions_mediaDismissal w devnum)
  cases h with
  | @found before after media is =>
    have husing : Mentions [] [.usingMedia media.path] := ⟨rfl, rfl⟩
    have hnames := (hdismissals before).append
      (mentions_account (mentions_comparisons devnum is) husing media.path)
    exact ⟨hnames.probed_eq, hnames.errors_eq⟩
  | @unallocated before after path =>
    have hnames := (hdismissals before).append (mentions_probing path)
    exact ⟨hnames.probed_eq, hnames.errors_eq⟩
  | exhausted => exact (hdismissals paths).concat rfl rfl

/-- Each candidate that is tried shows its lines, whichever way the search ends. -/
theorem ResolveLog.lines_eq {b : Backend} {w : World} {dir : Path} {devnum : DeviceNumber}
    {paths tried : List Path} {answer : Except PairingError (MediaDevice Nat)}
    {records : List LogRecord} (h : ResolveLog b w dir devnum paths answer tried records) :
    records.map LogRecord.line = b.resolveLines w devnum answer tried := by
  have hdismissals : ∀ {paths : List Path}, (∀ path ∈ paths, b.Dismisses w devnum path) →
      (paths.flatMap (b.mediaDismissal w devnum)).map LogRecord.line =
        paths.flatMap (b.mediaLines w devnum) :=
    fun h => lines_flatMap fun path hpath => lines_mediaDismissal (h path hpath)
  unfold Backend.resolveLines
  cases h with
  | @found before after media is hpaths hbefore hsurvey hpublished =>
    rw [List.map_append, hdismissals hbefore, lines_published hsurvey hpublished,
      List.flatMap_append, List.flatMap_singleton]
    exact (List.append_nil _).symm
  | @unallocated before after path count hpaths hbefore hsurvey =>
    rw [List.map_append, hdismissals hbefore, lines_unallocated hsurvey, List.flatMap_append,
      List.flatMap_singleton]
    exact (List.append_nil _).symm
  | exhausted hpaths =>
    rw [List.map_append, hdismissals hpaths]
    rfl

/-- A search over `paths`, started on `m`, has come to `r`, with the log that this needs. -/
def ResolveEnds (b : Backend) (dir : Path) (devnum : DeviceNumber) (m : Machine)
    (paths : List Path) (r : Except PairingError (MediaDevice Nat) × Machine) : Prop :=
  ∃ es, r.2.journal = m.journal ++ es ∧
    ResolveLog b m.world dir devnum paths r.1 (attempts es) (recorded es)

section

variable {b : Backend} {dir path : Path} {devnum : DeviceNumber} {m m' : Machine}
  {rest : List Path} {r : Except PairingError (MediaDevice Nat) × Machine} {es : List Event}

theorem resolveEnds_of_tells {paths tried : List Path} {records : List LogRecord}
    (htells : Tells es tried records)
    (hlog : ResolveLog b m.world dir devnum paths r.1 tried records)
    (hjournal : r.2.journal = m.journal ++ es) : ResolveEnds b dir devnum m paths r := by
  refine ⟨es, hjournal, ?_⟩
  rw [htells.attempts_eq, htells.recorded_eq]
  exact hlog

/-- The first candidate is the one that is used. -/
theorem resolveLog_first {w : World} {is : List Interface} (media : MediaDevice Nat)
    (rest : List Path) (hsurvey : b.survey w media.path = .ok is)
    (hpublished : ∃ i ∈ is, i.devnode = devnum) :
    ResolveLog b w dir devnum (media.path :: rest) (.ok media) [media.path]
      (account media.path (comparisons devnum is) (.usingMedia media.path)) :=
  @ResolveLog.found b w dir devnum _ [] rest media is rfl (by simp) hsurvey hpublished

/-- The first candidate has more interfaces than a buffer can be had for. -/
theorem resolveLog_unallocated {w : World} {count : UInt32}
    (hsurvey : b.survey w path = .error (.allocationFailed count)) :
    ResolveLog b w dir devnum (path :: rest) (.error (.allocationFailed count)) [path]
      [.probing path] :=
  @ResolveLog.unallocated b w dir devnum _ [] rest path count rfl (by simp) hsurvey

theorem ResolveEnds.pass (h : ResolveEnds b dir devnum m' rest r) (hworld : m'.world = m.world)
    (hjournal : m'.journal = m.journal ++ es)
    (htells : Tells es [path] (b.mediaDismissal m.world devnum path))
    (hdismisses : b.Dismisses m.world devnum path) :
    ResolveEnds b dir devnum m (path :: rest) r := by
  obtain ⟨es', hjournal', hlog⟩ := h
  refine ⟨es ++ es', ?_, ?_⟩
  · rw [hjournal', hjournal, List.append_assoc]
  · rw [attempts_append, recorded_append, htells.attempts_eq, htells.recorded_eq]
    rw [hworld] at hlog
    exact hlog.pass hdismisses

/-- The first candidate is passed over after it was asked, and closed. -/
theorem ResolveEnds.dismiss {m₁ : Machine} {opened asked : List Event} {looked : List LogRecord}
    {disposed : LogRecord} {handle : Nat}
    (h : ResolveEnds b dir devnum (((m₁.extend asked).extend [.logged disposed]).shut handle)
      rest r)
    (hworld : m₁.world = m.world)
    (hjournal : m₁.journal = m.journal ++ [.logged (.probing path)] ++ opened)
    (hopened : Tells opened [path] []) (hasked : Tells asked [] looked)
    (hdismissal : b.mediaDismissal m.world devnum path = account path looked disposed)
    (hdismisses : b.Dismisses m.world devnum path) :
    ResolveEnds b dir devnum m (path :: rest) r := by
  have htells := tells_account hopened
    (hasked.append ((tells_log disposed).append (tells_close handle)))
  rw [← hdismissal] at htells
  refine h.pass hworld ?_ htells hdismisses
  simp only [Machine.shut_journal, Machine.extend_journal, hjournal, List.append_assoc]

theorem resolveOn_error {e : PairingError} (h : ∀ count, e ≠ .allocationFailed count)
    (media : MediaDevice Nat) :
    resolveOn b dir devnum rest media m (.error e) =
      (resolvePaths b.access dir devnum rest).run
        ((m.extend [.logged (.skipped e)]).shut media.fd) := by
  cases e with
  | allocationFailed count => exact absurd rfl (h count)
  | _ => rfl

end

theorem resolvePaths_log (b : Backend) (dir : Path) (devnum : DeviceNumber) {m : Machine}
    (hm : m.Fresh) {paths : List Path} (hadmits : ∀ path ∈ paths, b.admits path = true) :
    ResolveEnds b dir devnum m paths ((resolvePaths b.access dir devnum paths).run m) := by
  induction paths generalizing m with
  | nil =>
    rw [resolvePaths_nil]
    exact ⟨_, rfl, .exhausted (by simp)⟩
  | cons path rest ih =>
    have hadmit := hadmits path List.mem_cons_self
    have hrest := fun path' hpath' => hadmits path' (List.mem_cons_of_mem path hpath')
    have hopening := openMediaDevice_opening b (hm.extend [.logged (.probing path)]) path
    generalize hopened : (openMediaDevice b.access path).run (m.extend [.logged (.probing path)]) =
      opened at hopening
    obtain ⟨answered, m₁⟩ := opened
    obtain ⟨es, hjournal, htells⟩ := hopening.tells hadmit
    rw [Machine.extend_journal] at hjournal
    cases answered with
    | error e =>
      have hpassed := hopening.passed hm hadmit (.skipped e)
      have hdismissed : Tells _ _ (account path [] (.skipped e)) :=
        tells_account htells (tells_log (.skipped e))
      rw [← mediaDismissal_error hopening.survey_error] at hdismissed
      rw [resolvePaths_skip hopened]
      apply (ih hpassed.fresh hrest).pass hpassed.world_eq _ hdismissed
      · exact dismisses_error hopening.survey_error hopening.ne_allocationFailed
      · rw [Machine.extend_journal, hjournal]
        simp only [List.append_assoc]
    | ok media =>
      obtain ⟨n, info, hreach, hreply, hmedia, rfl⟩ := hopening.kept
      have hmedia : media = { path, fd := m.nextHandle, info } := hmedia
      obtain ⟨asked, hasking, hpublished⟩ := publishes_run b media devnum
        (m.keep path (NodeKind.media.opened m.nextHandle path))
      have hlisting : b.listing media (m.keep path (NodeKind.media.opened m.nextHandle path)) =
          b.survey m.world path := by
        rw [hmedia]
        exact listing_keep hm hreach hreply _
      rw [hlisting] at hpublished
      rw [resolvePaths_ask hopened hpublished]
      have hfresh := hm.keep path (NodeKind.media.opened m.nextHandle path)
      have hlooked := (tells_asking hasking).append
        (tells_logged (matchRecords devnum (b.survey m.world path)))
      subst hmedia
      -- only a buffer that cannot be had ends the search here, and then nothing more is logged
      cases hsurvey : b.survey m.world path with
      | error e =>
        rw [hsurvey] at hlooked
        by_cases halloc : ∃ count, e = .allocationFailed count
        · obtain ⟨count, rfl⟩ := halloc
          have htold := ((tells_log (.probing path)).append htells).append
            (hlooked.append (tells_close m.nextHandle))
          apply resolveEnds_of_tells htold (resolveLog_unallocated hsurvey)
          show (Machine.shut _ m.nextHandle).journal = _
          simp only [Machine.shut_journal, Machine.extend_journal, hjournal, List.append_assoc]
        · have he : ∀ count, e ≠ .allocationFailed count := fun count h => halloc ⟨count, h⟩
          rw [Except.map, resolveOn_error he]
          exact (ih (((hfresh.extend _).extend _).shut _) hrest).dismiss rfl hjournal htells hlooked
            (mediaDismissal_error hsurvey) (dismisses_error hsurvey he)
      | ok is =>
        rw [hsurvey] at hlooked
        cases hmatch : is.any (·.devnode = devnum) with
        | true =>
          have hused := tells_account htells (hlooked.append (tells_log (.usingMedia path)))
          have hmatched : ∃ i ∈ is, i.devnode = devnum := by simpa using hmatch
          rw [Except.map, hmatch]
          apply resolveEnds_of_tells hused (resolveLog_first
            { path, fd := m.nextHandle, info } rest hsurvey hmatched)
          show (Machine.extend _ [.logged (.usingMedia path)]).journal = _
          simp only [Machine.extend_journal, hjournal, List.append_assoc]
        | false =>
          have hunmatched : ∀ i ∈ is, i.devnode ≠ devnum := by simpa using hmatch
          rw [Except.map, hmatch]
          exact (ih (((hfresh.extend _).extend _).shut _) hrest).dismiss rfl hjournal htells hlooked
            (mediaDismissal_ok hsurvey) (dismisses_ok hsurvey hunmatched)

/-! ## The whole calls -/

theorem resolve_log (b : Backend) {m : Machine} (hm : m.Fresh) (dir : Path)
    (video : VideoDevice Nat) :
    ∃ es, ((resolve b.access dir video).run m).2.journal = m.journal ++ es ∧
      match b.identity video m with
      | .error e =>
        ((resolve b.access dir video).run m).1 = .error e ∧ attempts es = [] ∧ recorded es = []
      | .ok devnum =>
        ∃ records, recorded es = .videoNumber devnum :: records ∧
          match b.names m.world dir with
          | .error e =>
            ((resolve b.access dir video).run m).1 = .error (.directoryUnreadable dir e) ∧
              attempts es = [] ∧ records = []
          | .ok names =>
            ResolveLog b m.world dir devnum (candidates mediaStem dir names)
              ((resolve b.access dir video).run m).1 (attempts es) records := by
  obtain ⟨es, hasking, hrun⟩ := deviceNumberOf_asks b video m
  have hasked := tells_asking hasking
  unfold resolve
  rw [run_bind_of_eq hrun]
  cases hidentity : b.identity video m with
  | error e => exact ⟨es, rfl, rfl, hasked.attempts_eq, hasked.recorded_eq⟩
  | ok devnum =>
    obtain ⟨es', hes', hlisting⟩ := b.entries_answers dir
      ((m.extend es).extend [.logged (.videoNumber devnum)])
    have hlisted := (hasked.append (tells_log (.videoNumber devnum))).append (tells_listing hes')
    dsimp only
    rw [Backend.access_log, run_bind_of_eq (Machine.log_run _ _), run_bind_of_eq hlisting]
    simp only [Machine.extend_world, Machine.extend_extend]
    cases hnames : b.names m.world dir with
    | error e =>
      exact ⟨_, rfl, _, hlisted.recorded_eq, rfl, hlisted.attempts_eq, rfl⟩
    | ok names =>
      obtain ⟨es'', hjournal, hlog⟩ := resolvePaths_log b dir devnum
        (hm.extend (es ++ [.logged (.videoNumber devnum)] ++ es'))
        (candidates_admitted hnames mediaStem)
      refine ⟨es ++ [.logged (.videoNumber devnum)] ++ es' ++ es'', ?_, recorded es'', ?_, ?_⟩
      · rw [← List.append_assoc m.journal]
        exact hjournal
      · rw [recorded_append, hlisted.recorded_eq]
        rfl
      · rw [attempts_append, hlisted.attempts_eq]
        exact hlog

/-- No candidate is dropped silently. A search for a video node, whatever records the predicate
adds to the log, and a search for a controller log each candidate that they try, in the order of
the listing, and after it, before the next one, what became of it: a warning with its own error, a
detail that it is not the one looked for, or the information that it is used. Only a controller
without a buffer for its interfaces, which ends the search, has no such record. There is an error in
the log if and only if no candidate is found, once and at the end. A call that cannot read the
directory or the number of the video node tries no candidate. What the log reads is spelled out in
`Backend.probeLines` and `Backend.resolveLines`. -/
theorem searches_log_every_candidate {τ : Type} (b : Backend) {m : Machine} (hm : m.Fresh)
    {accept : VideoDevice Nat → StateT τ (StateM Machine) Bool} (haccept : Steady accept)
    (dir : Path) (s : τ) (video : VideoDevice Nat) :
    (∃ own gained,
      ((probe b.access.owned dir (unowned accept)).run s).run (m, []) =
        ((((probe b.access dir accept).run s).run m).1,
          ((((probe b.access dir accept).run s).run m).2, own)) ∧
      (((probe b.access dir accept).run s).run m).2.journal = m.journal ++ gained ∧
      own.Sublist gained ∧
      (match b.names m.world dir with
        | .error e =>
          (((probe b.access dir accept).run s).run m).1.1 = .error (.directoryUnreadable dir e) ∧
            attempts own = [] ∧ recorded own = []
        | .ok names =>
          ProbeLog b m.world dir (candidates videoStem dir names)
            (((probe b.access dir accept).run s).run m).1.1 (attempts own) (recorded own)) ∧
      (recorded own).filterMap LogRecord.probed? = attempts own ∧
      (recorded own).filter (·.level = .error) =
        errorRecords (((probe b.access dir accept).run s).run m).1.1 ∧
      (recorded own).map LogRecord.line =
        b.probeLines m.world (((probe b.access dir accept).run s).run m).1.1 (attempts own)) ∧
    ∃ es, ((resolve b.access dir video).run m).2.journal = m.journal ++ es ∧
      (match b.identity video m with
        | .error e =>
          ((resolve b.access dir video).run m).1 = .error e ∧ attempts es = [] ∧ recorded es = []
        | .ok devnum =>
          ∃ records, recorded es = .videoNumber devnum :: records ∧
            match b.names m.world dir with
            | .error e =>
              ((resolve b.access dir video).run m).1 = .error (.directoryUnreadable dir e) ∧
                attempts es = [] ∧ records = []
            | .ok names =>
              ResolveLog b m.world dir devnum (candidates mediaStem dir names)
                ((resolve b.access dir video).run m).1 (attempts es) records) ∧
      (recorded es).filterMap LogRecord.probed? = attempts es ∧
      (recorded es).filter (·.level = .error) =
        errorRecords ((resolve b.access dir video).run m).1 ∧
      (recorded es).map LogRecord.line =
        match b.identity video m with
        | .error _ => []
        | .ok devnum =>
          (.info, "video device number " ++ shownNumber devnum) ::
            b.resolveLines m.world devnum ((resolve b.access dir video).run m).1 (attempts es) := by
  refine ⟨?_, ?_⟩
  · obtain ⟨own, gained, hrun, hjournal, hsub, hlog⟩ := probe_log b hm haccept dir s
    refine ⟨own, gained, hrun, hjournal, hsub, hlog, ?_⟩
    cases hnames : b.names m.world dir with
    | error e =>
      rw [hnames] at hlog
      obtain ⟨hanswer, hattempts, hrecorded⟩ := hlog
      rw [hanswer, hattempts, hrecorded]
      exact ⟨rfl, rfl, rfl⟩
    | ok names =>
      rw [hnames] at hlog
      exact ⟨hlog.mentions.1, hlog.mentions.2, hlog.lines_eq⟩
  · obtain ⟨es, hjournal, hlog⟩ := resolve_log b hm dir video
    refine ⟨es, hjournal, hlog, ?_⟩
    cases hidentity : b.identity video m with
    | error e =>
      rw [hidentity] at hlog
      obtain ⟨hanswer, hattempts, hrecorded⟩ := hlog
      obtain ⟨cause, rfl⟩ := identity_error hidentity
      rw [hanswer, hattempts, hrecorded]
      exact ⟨rfl, rfl, rfl⟩
    | ok devnum =>
      rw [hidentity] at hlog
      obtain ⟨records, hrecorded, hlog⟩ := hlog
      rw [hrecorded]
      cases hnames : b.names m.world dir with
      | error e =>
        rw [hnames] at hlog
        obtain ⟨hanswer, hattempts, rfl⟩ := hlog
        rw [hanswer, hattempts]
        exact ⟨rfl, rfl, rfl⟩
      | ok names =>
        rw [hnames] at hlog
        exact ⟨hlog.mentions.1, hlog.mentions.2, congrArg (List.cons _) hlog.lines_eq⟩

/-- Accepts the second device that it is asked about. What it logs looks like a record of the
search. -/
def acceptSecondLoudly (device : VideoDevice Nat) : StateT Nat (StateM Machine) Bool :=
  fun asked => do
    Machine.log (.probing device.path)
    return (asked == 1, asked + 1)

theorem steady_acceptSecondLoudly : Steady acceptSecondLoudly where
  fresh := fun _ _ _ hm => hm
  world_eq := fun _ _ _ => rfl
  journal_eq := fun device _ _ => ⟨[.logged (.probing device.path)], rfl⟩

/-- The first video node is rejected and the first controller has no interfaces. -/
theorem searches_log_every_candidate_sample :
    Machine.sample.Fresh ∧ Steady acceptSecondLoudly ∧
      (∃ own,
        (((probe Machine.kernel.owned (.ofString "/dev") (unowned acceptSecondLoudly)).run 0).run
          (.sample, [])).2.2 = own ∧
        attempts own = [.ofString "/dev/video0", .ofString "/dev/video1"] ∧
        (recorded own).map LogRecord.line =
          [(.info, "Probing device /dev/video0"), (.debug, "/dev/video0 () rejected"),
            (.info, "Probing device /dev/video1"), (.info, "Using video device /dev/video1")]) ∧
      ∃ es,
        ((resolve Machine.kernel (.ofString "/dev") ⟨.ofString "/dev/video0", 4, {}⟩).run
          .sample).2.journal = es ∧
        attempts es = [.ofString "/dev/media0", .ofString "/dev/media1"] ∧
        (recorded es).map LogRecord.line =
          [(.info, "video device number 81:0"), (.info, "Probing device /dev/media0"),
            (.warn, "media device /dev/media0 has no interfaces"),
            (.info, "Probing device /dev/media1"), (.info, "media device number 81:0"),
            (.info, "Using media device /dev/media1")] := by
  obtain ⟨⟨own, gained, hrun, -, -, -, hprobed, -, -⟩, es, hjournal, -, hresolved, -, -⟩ :=
    searches_log_every_candidate .kernel Machine.fresh_sample steady_acceptSecondLoudly
      (.ofString "/dev") 0 ⟨.ofString "/dev/video0", 4, {}⟩
  have hown : own = (((probe Machine.kernel.owned (.ofString "/dev")
      (unowned acceptSecondLoudly)).run 0).run (.sample, [])).2.2 :=
    (congrArg (fun r => r.2.2) hrun).symm
  have hes : es = ((resolve Machine.kernel (.ofString "/dev")
      ⟨.ofString "/dev/video0", 4, {}⟩).run .sample).2.journal := hjournal.symm
  have hrecordedOwn : recorded own = [.probing (.ofString "/dev/video0"),
      .rejected (.ofString "/dev/video0") "", .probing (.ofString "/dev/video1"),
      .usingVideo (.ofString "/dev/video1")] := by
    rw [hown]
    rfl
  have hrecorded : recorded es = [.videoNumber ⟨81, 0⟩, .probing (.ofString "/dev/media0"),
      .skipped (.emptyTopology (.ofString "/dev/media0")), .probing (.ofString "/dev/media1"),
      .mediaNumber ⟨81, 0⟩, .usingMedia (.ofString "/dev/media1")] := by
    rw [hes]
    rfl
  rw [hrecordedOwn] at hprobed
  rw [hrecorded] at hresolved
  refine ⟨Machine.fresh_sample, steady_acceptSecondLoudly,
    ⟨own, hown.symm, hprobed.symm, ?_⟩, es, hes.symm, hresolved.symm, ?_⟩
  · rw [hrecordedOwn]
    decide +kernel
  · rw [hrecorded]
    decide +kernel

end MediaPairing
