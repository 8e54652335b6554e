import MediaPairing.Proofs.Command.Report
import MediaPairing.Proofs.Discovery.History

/-!
# More filters

A filter only ever rejects devices. With more filters a search therefore finds a device that
stands at the same place of the listing or later, or none at all; and whether the directory can be
listed has nothing to do with the filters. This needs no luck with the format filter, which asks
the device and may fail: a failure rejects the device as well.

* `Filters.Within`: all filters of one command line are in another, with the same values.
* `Filters.judge`, `stateless_accepts`: the filters as a predicate that keeps no state.
* `Filters.Within.judge`: a device that passes more filters passes fewer.
* `ChosenAt`: the place in the listing at which a search has stopped.
* `probe_narrows`: two searches, with fewer and with more filters.
-/

namespace MediaPairing

/-! ## Filters within filters -/

/-- Every filter of `f` is in `g`, with the same value. -/
structure Filters.Within (f g : Filters) : Prop where
  capture : f.capture = true → g.capture = true
  m2m : f.m2m = true → g.m2m = true
  driver : ∀ p, f.driver = some p → g.driver = some p
  card : ∀ p, f.card = some p → g.card = some p
  format : ∀ fourcc, f.format = some fourcc → g.format = some fourcc

/-- Whether a device without its handle passes the filters, where its path stands for a node of
the world. -/
def Filters.judge (f : Filters) (w : World) (seen : Path × Capability) : Bool :=
  f.passes (VideoDevice.offered ⟨seen.1, 0, seen.2⟩ (w.node seen.1)) seen.2

section

variable {f g : Filters}

theorem passesIfGiven_of_within {p q : Option TextTest} (h : ∀ r, p = some r → q = some r)
    {text : String} (hpasses : passesIfGiven q text = true) : passesIfGiven p text = true := by
  cases p with
  | none => rfl
  | some r =>
    rw [h r rfl] at hpasses
    exact hpasses

theorem Filters.Within.acceptsCapability (h : f.Within g) {c : Capability}
    (haccepts : g.acceptsCapability c = true) : f.acceptsCapability c = true := by
  unfold Filters.acceptsCapability at haccepts ⊢
  simp only [Bool.and_eq_true, Bool.or_eq_true, Bool.not_eq_true'] at haccepts ⊢
  obtain ⟨⟨⟨hcapture, hm2m⟩, hdriver⟩, hcard⟩ := haccepts
  refine ⟨⟨⟨?_, ?_⟩, passesIfGiven_of_within h.driver hdriver⟩,
    passesIfGiven_of_within h.card hcard⟩
  · by_cases hgiven : f.capture = true
    · have hgiven' := h.capture hgiven
      simp_all
    · simp [hgiven]
  · by_cases hgiven : f.m2m = true
    · have hgiven' := h.m2m hgiven
      simp_all
    · simp [hgiven]

/-- A device that passes more filters passes fewer, whatever its queues answer. -/
theorem Filters.Within.passes (h : f.Within g)
    {offered : BufferQueue → Except PairingError (List PixelFormat)} {c : Capability}
    (hpasses : g.passes offered c = true) : f.passes offered c = true := by
  unfold Filters.passes at hpasses ⊢
  rw [Bool.and_eq_true] at hpasses ⊢
  obtain ⟨hcapability, hformat⟩ := hpasses
  refine ⟨h.acceptsCapability hcapability, ?_⟩
  cases hgiven : f.format with
  | none => rfl
  | some fourcc =>
    rw [h.format fourcc hgiven] at hformat
    exact hformat

theorem Filters.Within.judge (h : f.Within g) {w : World} {seen : Path × Capability}
    (hjudge : g.judge w seen = true) : f.judge w seen = true :=
  h.passes hjudge

/-- A candidate that is taken with more filters is taken with fewer. -/
theorem Filters.Within.takes (h : f.Within g) {b : Backend} {w : World} {path : Path}
    (htakes : b.takes w (g.judge w) path = true) : b.takes w (f.judge w) path = true := by
  unfold Backend.takes at htakes ⊢
  cases hsight : b.sight w path with
  | none =>
    rw [hsight] at htakes
    cases htakes
  | some seen =>
    rw [hsight] at htakes
    exact h.judge htakes

/-- What the command looks for does not depend on what was asked before. -/
theorem stateless_accepts (f : Filters) (w : World) :
    Stateless w (Machine.system.accepts f) (f.judge w) where
  answer_eq := by
    intro device m hw _ hopen
    have hanswer := (accepts_answers f device m).fst_run
    rw [Machine.node_of_lookup hopen, hw] at hanswer
    exact hanswer
  harmless := fun _ => harmless_of_answers fun device s m =>
    ⟨_, (accepts_answers f device m).lift s⟩

end

/-! ## Places in a listing -/

/-- A search has stopped with `device` at the name with the index `i`: it has tried the
candidates among the names up to this one, the last of which gave the device. -/
structure ChosenAt (dir : Path) (names : List Bytes) (i : Nat) (device : VideoDevice Nat)
    (es : List Event) : Prop where
  path_eq : ∃ name, names[i]? = some name ∧ (Utf8.encode videoStem).isPrefixOf name = true ∧
    device.path = dir.join ⟨name⟩
  attempts_eq : attempts es = candidates videoStem dir (names.take (i + 1))

/-- The ways in which a search with filters ends, with the place in the listing. -/
inductive Filtered (f : Filters) (dir : Path) (m : Machine) :
    Except PairingError (VideoDevice Nat) × Machine → Prop
  | unlisted {e : IoError} {m' : Machine}
    (names_eq : Backend.kernel.names m.world dir = .error e) :
    Filtered f dir m (.error (.directoryUnreadable dir e), m')
  | exhausted {names : List Bytes} {m' : Machine}
    (names_eq : Backend.kernel.names m.world dir = .ok names)
    (not_taken : ∀ path ∈ candidates videoStem dir names,
      Backend.kernel.takes m.world (f.judge m.world) path = false) :
    Filtered f dir m (.error (.noSuitableDevice dir), m')
  | chosen {names : List Bytes} {i : Nat} {device : VideoDevice Nat} {es : List Event}
    {m' : Machine} (names_eq : Backend.kernel.names m.world dir = .ok names)
    (journal_eq : m'.journal = m.journal ++ es) (chosen : ChosenAt dir names i device es)
    (not_taken : ∀ path ∈ candidates videoStem dir (names.take i),
      Backend.kernel.takes m.world (f.judge m.world) path = false)
    (taken : Backend.kernel.takes m.world (f.judge m.world) device.path = true) :
    Filtered f dir m (.ok device, m')

theorem probeWith_filtered (f : Filters) {m : Machine} (hm : m.Fresh) (dir : Path) :
    Filtered f dir m ((probeWith Machine.kernel dir (Machine.system.accepts f)).run m) := by
  cases hnames : Backend.kernel.names m.world dir with
  | error e =>
    obtain ⟨es, hrun, -⟩ := probe_unlisted
      (fun device =>
        (StateT.lift (Machine.system.accepts f device) : StateT Unit (StateM Machine) Bool))
      hnames ()
    rw [probeWith_run_iff.mpr hrun]
    exact .unlisted hnames
  | ok names =>
    have hprobed : Probed .kernel dir (fun s d => (f.judge m.world d.sight, s)) m ()
        (candidates videoStem dir names) _ :=
      probe_listed (decides_accepts f m.world) hm () hnames
    rcases hprobed.stateless with
      ⟨device, m', before, after, hrun, hpaths, hrejected, htaken, hsearched⟩ | ⟨m', hrun, hnone⟩
    · obtain ⟨i, name, hname, hstem, hpath, hbefore, hupTo⟩ := candidates_split hpaths
      obtain ⟨es, hjournal, htries⟩ := hsearched.journal_eq
      rw [probeWith_run_iff.mpr hrun]
      refine .chosen hnames hjournal ⟨⟨name, hname, hstem, hpath.symm⟩, ?_⟩ ?_ htaken
      · rw [hupTo, htries.attempts_eq]
      · rw [hbefore]
        exact hrejected
    · rw [probeWith_run_iff.mpr hrun]
      exact .exhausted hnames hnone

/-- More names have more candidates. -/
theorem mem_candidates_mono {stem : String} {dir path : Path} {names names' : List Bytes}
    (hsubset : names ⊆ names') (h : path ∈ candidates stem dir names) :
    path ∈ candidates stem dir names' := by
  obtain ⟨name, hname, hstem, hpath⟩ := mem_candidates.mp h
  exact mem_candidates.mpr ⟨name, hsubset hname, hstem, hpath⟩

/-- A chosen device is the last of the candidates that were tried. -/
theorem ChosenAt.mem_candidates {dir : Path} {names : List Bytes} {i : Nat}
    {device : VideoDevice Nat} {es : List Event} (h : ChosenAt dir names i device es) :
    device.path ∈ candidates videoStem dir (names.take (i + 1)) := by
  obtain ⟨name, hname, hstem, hpath⟩ := h.path_eq
  have hmem : name ∈ names.take (i + 1) := by
    apply List.mem_of_getElem? (i := i)
    rw [List.getElem?_take_of_lt (Nat.lt_succ_self i), hname]
  rw [hpath]
  exact MediaPairing.mem_candidates.mpr ⟨name, hmem, hstem, rfl⟩

theorem length_candidates_take {stem : String} (dir : Path) {names : List Bytes} {i : Nat}
    {name : Bytes} (hname : names[i]? = some name)
    (hstem : (Utf8.encode stem).isPrefixOf name = true) :
    (candidates stem dir (names.take (i + 1))).length =
      (candidates stem dir (names.take i)).length + 1 := by
  have htake : names.take (i + 1) = names.take i ++ [name] := by
    rw [List.take_add_one, hname]
    rfl
  simp [candidates, htake, List.filter_append, hstem]

/-- The place at which a search has stopped is settled by what it has tried. -/
theorem ChosenAt.le {dir : Path} {names : List Bytes} {i j : Nat} {device device' : VideoDevice Nat}
    {es : List Event} (h : ChosenAt dir names i device es) (h' : ChosenAt dir names j device' es) :
    i ≤ j := by
  obtain ⟨name, hname, hstem, -⟩ := h.path_eq
  have hlength := length_candidates_take dir hname hstem
  rw [← h.attempts_eq, h'.attempts_eq] at hlength
  by_cases hlt : j < i
  · -- the names up to `j` are among those before `i`, and have no more candidates
    have hsublist : (names.take (j + 1)).Sublist (names.take i) :=
      (List.take_sublist_take_left (Nat.succ_le_of_lt hlt))
    have hle : (candidates videoStem dir (names.take (j + 1))).length ≤
        (candidates videoStem dir (names.take i)).length :=
      ((hsublist.filter _).map _).length_le
    omega
  · omega

theorem ChosenAt.unique {dir : Path} {names : List Bytes} {i j : Nat}
    {device device' : VideoDevice Nat} {es : List Event} (h : ChosenAt dir names i device es)
    (h' : ChosenAt dir names j device' es) : i = j :=
  Nat.le_antisymm (h.le h') (h'.le h)

/-! ## Two searches -/

/-- If a search with more filters finds a device, one with fewer filters finds one as well, at the
same place of the listing or before. If the one with fewer finds none, neither does the one with
more, and they agree on whether the directory can be listed. -/
theorem probe_narrows {o o' : Options} (hdir : o'.devDir = o.devDir)
    (hfilters : o.filters.Within o'.filters) {m m' : Machine} (hm : m.Fresh) (hm' : m'.Fresh)
    (hworld : m'.world = m.world) {answer answer' : Except PairingError (VideoDevice Nat)}
    {m₁ m₁' : Machine}
    (hrun : (probeWith Machine.kernel o.devDir (Machine.system.accepts o.filters)).run m =
      (answer, m₁))
    (hrun' : (probeWith Machine.kernel o'.devDir (Machine.system.accepts o'.filters)).run m' =
      (answer', m₁')) :
    (∀ device', answer' = .ok device' →
      ∃ device names i i' es es', answer = .ok device ∧
        Backend.kernel.names m.world o.devDir = .ok names ∧
        m₁.journal = m.journal ++ es ∧ ChosenAt o.devDir names i device es ∧
        m₁'.journal = m'.journal ++ es' ∧ ChosenAt o.devDir names i' device' es' ∧ i ≤ i') ∧
    (∀ dir, answer = .error (.noSuitableDevice dir) → answer' = .error (.noSuitableDevice dir)) ∧
    ∀ dir e, answer = .error (.directoryUnreadable dir e) ↔
      answer' = .error (.directoryUnreadable dir e) := by
  have hfiltered := probeWith_filtered o.filters hm o.devDir
  have hfiltered' := probeWith_filtered o'.filters hm' o.devDir
  rw [hrun] at hfiltered
  rw [hdir] at hrun'
  rw [hrun'] at hfiltered'
  -- a candidate that the search with fewer filters passes over is no candidate for the other
  have hnever : ∀ path, Backend.kernel.takes m.world (o.filters.judge m.world) path = false →
      ¬Backend.kernel.takes m'.world (o'.filters.judge m'.world) path = true := by
    intro path hnot htakes
    rw [hworld] at htakes
    have htakes' := hfilters.takes htakes
    rw [hnot] at htakes'
    cases htakes'
  cases hfiltered with
  | unlisted hnames =>
    cases hfiltered' with
    | unlisted hnames' =>
      rw [hworld, hnames] at hnames'
      cases hnames'
      simp
    | exhausted hnames' _ => rw [hworld, hnames] at hnames'; cases hnames'
    | chosen hnames' _ _ _ _ => rw [hworld, hnames] at hnames'; cases hnames'
  | exhausted hnames hnone =>
    cases hfiltered' with
    | unlisted hnames' => rw [hworld, hnames] at hnames'; cases hnames'
    | exhausted _ _ => simp
    | @chosen names' i' device' es' _ hnames' _ hchosen' _ htaken' =>
      rw [hworld, hnames] at hnames'
      cases hnames'
      have hmem := mem_candidates_mono (List.take_subset _ _) hchosen'.mem_candidates
      exact absurd htaken' (hnever _ (hnone _ hmem))
  | @chosen names i device es _ hnames hjournal hchosen hbefore htaken =>
    cases hfiltered' with
    | unlisted hnames' => rw [hworld, hnames] at hnames'; cases hnames'
    | exhausted _ _ => simp
    | @chosen names' i' device' es' _ hnames' hjournal' hchosen' _ htaken' =>
      rw [hworld, hnames] at hnames'
      cases hnames'
      have hle : i ≤ i' := by
        by_cases hlt : i' < i
        · have hmem := mem_candidates_mono
            (List.take_subset_take_left names (Nat.succ_le_of_lt hlt)) hchosen'.mem_candidates
          exact absurd htaken' (hnever _ (hbefore _ hmem))
        · omega
      refine ⟨?_, by simp, by simp⟩
      rintro device'' ⟨⟩
      exact ⟨device, names, i, i', es, es', rfl, hnames, hjournal, hchosen, hjournal', hchosen',
        hle⟩

/-- A machine with two video nodes, the second of which captures video. -/
def Machine.twoNodes : Machine where
  world :=
    { dirs := [(.ofString "/dev", .ok [.ok (Utf8.encode "video0"), .ok (Utf8.encode "video1")])]
      nodes := [(.ofString "/dev/video0", { capability := .ok {} }),
        (.ofString "/dev/video1", { capability := .ok { capabilities := 1 } })] }

/-- The options of a command line with these filters and nothing else. -/
def Options.filtering (filters : Filters) : Options where
  devDir := .ofString "/dev"
  sysDir := .ofString "/sys"
  filters := filters
  verbose := false
  quiet := false

theorem probe_narrows_twoNodes :
    (Options.filtering { capture := true }).devDir = (Options.filtering {}).devDir ∧
      (Options.filtering {}).filters.Within (Options.filtering { capture := true }).filters ∧
      Machine.twoNodes.Fresh ∧
      ((probeWith Machine.kernel (Options.filtering { capture := true }).devDir
        (Machine.system.accepts (Options.filtering { capture := true }).filters)).run .twoNodes).1 =
          .ok ⟨.ofString "/dev/video1", 1, { capabilities := 1 }⟩ ∧
      ∃ device, ((probeWith Machine.kernel (Options.filtering {}).devDir
        (Machine.system.accepts (Options.filtering {}).filters)).run .twoNodes).1 = .ok device := by
  have hdir : (Options.filtering { capture := true }).devDir = (Options.filtering {}).devDir := rfl
  have hwithin : (Options.filtering {}).filters.Within
      (Options.filtering { capture := true }).filters := by
    constructor <;> simp [Options.filtering]
  have hfresh : Machine.twoNodes.Fresh := fun _ hp => by cases hp
  have hsecond : ((probeWith Machine.kernel (Options.filtering { capture := true }).devDir
      (Machine.system.accepts (Options.filtering { capture := true }).filters)).run .twoNodes).1 =
      .ok ⟨.ofString "/dev/video1", 1, { capabilities := 1 }⟩ := rfl
  obtain ⟨hfound, -⟩ := probe_narrows hdir hwithin hfresh hfresh rfl rfl rfl
  obtain ⟨device, -, -, -, -, -, hdevice, -⟩ := hfound _ hsecond
  exact ⟨hdir, hwithin, hfresh, hsecond, device, hdevice⟩

end MediaPairing
