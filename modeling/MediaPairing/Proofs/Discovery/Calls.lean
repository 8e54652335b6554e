import MediaPairing.Proofs.Discovery.Custody
import MediaPairing.Proofs.Discovery.Descriptors
import MediaPairing.Proofs.Discovery.FormatReadout

/-!
# What calls leave as it was

A call uses up handles, may leave a device open, and is noted in the journal. It closes no
handle of another device, gives no number twice, and does not touch the world.

* `Machine.Numbered`: the next handle is above all that are open or were ever given.
* `Undisturbed held m m'`: what is left as it was, among it the handles `held`; it is shown for
  the steps of a call first.
* `Guarded`, `guarded_invariant`: a search carries this over, and what it finds is open under a
  new number.
* `Harmless`: a predicate that disturbs nothing.
* `DiscoveryCall`, `Machine.afterCalls`: sequences of calls; `afterCalls_undisturbed`, by
  induction on them.
-/

namespace MediaPairing

variable {τ : Type} {m m' m'' : Machine} {held held' : List Nat}

/-! ## Numbered machines -/

/-- Every handle that is open, or that was given at some time, is below the next one. A machine
that was just started is like this. -/
structure Machine.Numbered (m : Machine) : Prop where
  fresh : m.Fresh
  given_lt : ∀ handle ∈ given m.journal, handle < m.nextHandle

/-- From `m` to `m'` the world stayed, the journal and the numbers of handles went on, and no
handle in `held` was closed. -/
structure Undisturbed (held : List Nat) (m m' : Machine) : Prop where
  world_eq : m'.world = m.world
  journal_eq : ∃ es, m'.journal = m.journal ++ es
  nextHandle_le : m.nextHandle ≤ m'.nextHandle
  numbered : m'.Numbered
  lookup_eq : ∀ handle ∈ held, ∀ path, m.handles.lookup handle = some path →
    m'.handles.lookup handle = some path

theorem undisturbed_refl (hm : m.Numbered) (held : List Nat) : Undisturbed held m m where
  world_eq := rfl
  journal_eq := ⟨[], (List.append_nil _).symm⟩
  nextHandle_le := Nat.le_refl _
  numbered := hm
  lookup_eq := fun _ _ _ h => h

namespace Undisturbed

theorem trans (h : Undisturbed held m m') (h' : Undisturbed held m' m'') :
    Undisturbed held m m'' where
  world_eq := h'.world_eq.trans h.world_eq
  journal_eq := by
    obtain ⟨es, hjournal⟩ := h.journal_eq
    obtain ⟨es', hjournal'⟩ := h'.journal_eq
    exact ⟨es ++ es', by rw [hjournal', hjournal, List.append_assoc]⟩
  nextHandle_le := Nat.le_trans h.nextHandle_le h'.nextHandle_le
  numbered := h'.numbered
  lookup_eq := fun handle hmem path hlookup =>
    h'.lookup_eq handle hmem path (h.lookup_eq handle hmem path hlookup)

theorem mono (h : Undisturbed held m m') (hsubset : ∀ handle ∈ held', handle ∈ held) :
    Undisturbed held' m m' :=
  { h with lookup_eq := fun handle hmem => h.lookup_eq handle (hsubset handle hmem) }

/-- The node behind a handle that was left alone. -/
theorem node_eq (h : Undisturbed held m m') {handle : Nat} (hmem : handle ∈ held) {path : Path}
    (hopen : m.handles.lookup handle = some path) : m'.node handle = m.node handle := by
  have hopen' := h.lookup_eq handle hmem path hopen
  rw [Machine.node_of_lookup hopen, Machine.node_of_lookup hopen', h.world_eq]

end Undisturbed

/-- An open handle of a numbered machine has been numbered. -/
theorem lt_of_lookup {handle : Nat} {path : Path} (hm : m.Fresh)
    (h : m.handles.lookup handle = some path) : handle < m.nextHandle := by
  obtain ⟨before, after, hhandles, -⟩ := List.lookup_eq_some_iff.mp h
  have hmem : (handle, path) ∈ m.handles := by simp [hhandles]
  exact hm _ hmem

/-! ## The steps of a call -/

section

variable {es : List Event} {path : Path}

theorem undisturbed_extend (hm : m.Numbered) (hes : ∀ e ∈ es, e.gives? = none) :
    Undisturbed held m (m.extend es) := by
  have hgiven : given es = [] := List.filterMap_eq_nil_iff.mpr hes
  refine ⟨rfl, ⟨es, rfl⟩, Nat.le_refl _, ⟨hm.fresh, ?_⟩, fun _ _ _ h => h⟩
  intro handle hmem
  rw [Machine.extend_journal, given_append, hgiven, List.append_nil] at hmem
  exact hm.given_lt handle hmem

theorem undisturbed_asked (hm : m.Numbered) {handle : Nat} (hes : ∀ e ∈ es, e.About handle) :
    Undisturbed held m (m.extend es) :=
  undisturbed_extend hm fun e he => (hes e he).idle.gives?_eq_none

theorem undisturbed_logged (hm : m.Numbered) (r : LogRecord) :
    Undisturbed held m (m.extend [.logged r]) := by
  apply undisturbed_extend hm
  intro e he
  rw [List.mem_singleton.mp he]
  rfl

theorem undisturbed_listed (hm : m.Numbered) {dir : Path}
    (hes : ∀ e ∈ es, e.listing? = some dir) : Undisturbed held m (m.extend es) :=
  undisturbed_extend hm fun e he => (Event.idle_of_listing (hes e he)).gives?_eq_none

/-- The handle that a node is opened with is a new number. -/
theorem given_lt_of_opened (hm : m.Numbered) (hes : given es = [m.nextHandle]) :
    ∀ handle ∈ given (m.journal ++ es), handle < m.nextHandle + 1 := by
  intro handle hmem
  rw [given_append, hes] at hmem
  rcases List.mem_append.mp hmem with hmem | hmem
  · have hlt := hm.given_lt handle hmem
    omega
  · have heq := List.mem_singleton.mp hmem
    omega

theorem undisturbed_spend (hm : m.Numbered) (hes : given es = [m.nextHandle]) :
    Undisturbed held m (m.spend es) where
  world_eq := rfl
  journal_eq := ⟨es, rfl⟩
  nextHandle_le := Nat.le_succ _
  numbered := ⟨hm.fresh.spend es, given_lt_of_opened hm hes⟩
  lookup_eq := fun _ _ _ h => h

theorem undisturbed_keep (hm : m.Numbered) (hes : given es = [m.nextHandle]) :
    Undisturbed held m (m.keep path es) where
  world_eq := rfl
  journal_eq := ⟨es, rfl⟩
  nextHandle_le := Nat.le_succ _
  numbered := by
    refine ⟨?_, given_lt_of_opened hm hes⟩
    intro p hp
    rcases List.mem_append.mp hp with hp | hp
    · exact Nat.lt_succ_of_lt (hm.fresh p hp)
    · rw [List.mem_singleton.mp hp]
      exact Nat.lt_succ_self _
  lookup_eq := by
    intro handle _ path' hlookup
    rw [Machine.keep_handles, List.lookup_append, hlookup]
    rfl

theorem lookup_filter_ne {handles : List (Nat × Path)} {handle handle' : Nat}
    (hne : handle ≠ handle') :
    (handles.filter (·.1 != handle')).lookup handle = handles.lookup handle := by
  induction handles with
  | nil => rfl
  | cons p rest ih =>
    obtain ⟨handle'', path⟩ := p
    by_cases hclosed : handle'' = handle'
    · have hother : (handle == handle'') = false := by simp [hclosed, hne]
      rw [List.filter_cons_of_neg (by simp [hclosed]), ih, List.lookup_cons, hother]
    · rw [List.filter_cons_of_pos (by simp [hclosed]), List.lookup_cons, List.lookup_cons, ih]

theorem undisturbed_shut (hm : m.Numbered) {handle : Nat} (hother : handle ∉ held) :
    Undisturbed held m (m.shut handle) where
  world_eq := rfl
  journal_eq := ⟨_, rfl⟩
  nextHandle_le := Nat.le_refl _
  numbered := by
    constructor
    · intro p hp
      exact hm.fresh p (List.mem_filter.mp hp).1
    · intro handle' hmem
      rw [Machine.shut_journal, given_append] at hmem
      rcases List.mem_append.mp hmem with hmem | hmem
      · exact hm.given_lt handle' hmem
      · cases hmem
  lookup_eq := by
    intro handle' hmem path hlookup
    have hne : handle' ≠ handle := by
      rintro rfl
      exact hother hmem
    exact (lookup_filter_ne hne).trans hlookup

end

/-! ## Searches -/

/-- Since `m` nothing was disturbed, and the handle that is kept, if any, was given since then
and is open. -/
def Guarded (held : List Nat) (m : Machine) (kept : Option (Nat × Path)) (m' : Machine) : Prop :=
  Undisturbed held m m' ∧
    ∀ p ∈ kept, m.nextHandle ≤ p.1 ∧ m'.handles.lookup p.1 = some p.2

theorem Undisturbed.guarded (h : Undisturbed held m m') : Guarded held m none m' :=
  ⟨h, fun _ hp => by cases hp⟩

theorem Guarded.extend {kept : Option (Nat × Path)} (h : Guarded held m kept m')
    {es : List Event} (hes : Undisturbed held m' (m'.extend es)) :
    Guarded held m kept (m'.extend es) :=
  ⟨h.1.trans hes, h.2⟩

theorem Opening.guarded {α D : Type} {b : Backend} {kind : NodeKind α D} {path : Path}
    {r : Except PairingError D × Machine} (hm : m.Numbered) (h : Opening b kind m path r) :
    Guarded held m (handed kind.holding r.1) r.2 := by
  have hgives : ∀ handle, Event.gives? (.called (kind.openCall path) (.opened handle)) =
      some handle := by
    intro handle
    have hattempt : (kind.openCall path).attempt?.isSome := by rw [kind.attempt?_openCall]; rfl
    exact if_pos hattempt
  cases h with
  | @refused e hreach =>
    apply Undisturbed.guarded
    apply undisturbed_extend hm
    intro e' he'
    split at he'
    · rw [List.mem_singleton.mp he']
      rfl
    · cases he'
  | @silent n e hreach hreply =>
    apply Undisturbed.guarded
    apply undisturbed_spend hm
    exact List.filterMap_cons_some (hgives m.nextHandle)
  | @answered n a hreach hreply =>
    refine ⟨undisturbed_keep hm (List.filterMap_cons_some (hgives m.nextHandle)), ?_⟩
    simp only [handed, kind.holding_device]
    rintro p ⟨⟩
    exact ⟨Nat.le_refl _, Machine.lookup_append_last hm.fresh path⟩

theorem guarded_invariant (b : Backend) (hheld : ∀ handle ∈ held, handle < m.nextHandle) :
    SearchInvariant b (Guarded held m) where
  fresh h := h.1.numbered.fresh
  logged r h := h.extend (undisturbed_logged h.1.numbered r)
  asked h hes := h.extend (undisturbed_asked h.1.numbered hes)
  opening h hopening := by
    have hguarded : Guarded held _ _ _ := hopening.guarded h.1.numbered
    refine ⟨h.1.trans hguarded.1, fun p hp => ?_⟩
    have hp := hguarded.2 p hp
    exact ⟨Nat.le_trans h.1.nextHandle_le hp.1, hp.2⟩
  shut := by
    intro p m' h
    apply Undisturbed.guarded
    apply h.1.trans
    apply undisturbed_shut h.1.numbered
    intro hmem
    have hlt := hheld p.1 hmem
    have hle := (h.2 p rfl).1
    omega

/-- A predicate that leaves everything as it was, up to the journal and the numbers of handles:
it closes neither the device that it is asked about nor a handle in `held`. -/
def Harmless (held : List Nat) (accept : VideoDevice Nat → StateT τ (StateM Machine) Bool) :
    Prop :=
  ∀ device s m, m.Numbered → m.handles.lookup device.fd = some device.path →
    Undisturbed (device.fd :: held) m (((accept device).run s).run m).2

section

variable {accept : VideoDevice Nat → StateT τ (StateM Machine) Bool}

/-- A predicate that only logs, and asks the device that it is about, is harmless. -/
theorem harmless_of_answers
    (h : ∀ device s m, ∃ a, Answers ((accept device).run s) m (Event.About device.fd) a) :
    Harmless held accept := by
  intro device s m hm _
  obtain ⟨a, es, hes, hrun⟩ := h device s m
  rw [hrun]
  exact undisturbed_asked hm hes

theorem Harmless.guarded (haccept : Harmless held accept) {device : VideoDevice Nat} (s : τ)
    (h : Guarded held m (some device.holding) m') :
    Guarded held m (some device.holding) (((accept device).run s).run m').2 := by
  obtain ⟨hundisturbed, hkept⟩ := h
  obtain ⟨hle, hopen⟩ := hkept device.holding rfl
  have hafter := haccept device s m' hundisturbed.numbered hopen
  constructor
  · apply hundisturbed.trans
    exact hafter.mono fun handle hmem => List.mem_cons_of_mem _ hmem
  · rintro p ⟨⟩
    exact ⟨hle, hafter.lookup_eq device.fd List.mem_cons_self device.path hopen⟩

theorem probe_guarded (b : Backend) (hm : m.Numbered)
    (hheld : ∀ handle ∈ held, handle < m.nextHandle) (haccept : Harmless held accept)
    (dir : Path) (s : τ) :
    Guarded held m (handed VideoDevice.holding (((probe b.access dir accept).run s).run m).1.1)
      (((probe b.access dir accept).run s).run m).2 := by
  apply probe_preserves (guarded_invariant b hheld)
  · intro device s' m' h
    exact haccept.guarded s' h
  · intro es hes
    exact (undisturbed_listed hm hes).guarded

theorem resolve_guarded (b : Backend) (hm : m.Numbered)
    (hheld : ∀ handle ∈ held, handle < m.nextHandle) (dir : Path) (video : VideoDevice Nat) :
    Guarded held m (handed MediaDevice.holding ((resolve b.access dir video).run m).1)
      ((resolve b.access dir video).run m).2 := by
  apply resolve_preserves (guarded_invariant b hheld)
  · intro es hes
    exact (undisturbed_asked hm hes).guarded
  · intro m' es h hes
    exact h.extend (undisturbed_listed h.1.numbered hes)

end

/-! ## Sequences of calls -/

/-- A call, or the end of a device. -/
inductive DiscoveryCall : Type 1 where
  | probe {τ : Type} (dir : Path) (accept : VideoDevice Nat → StateT τ (StateM Machine) Bool)
    (s : τ)
  | openVideo (path : Path)
  | openMedia (path : Path)
  | resolve (dir : Path) (video : VideoDevice Nat)
  | deviceNumber (video : VideoDevice Nat)
  | formats (video : VideoDevice Nat) (queue : BufferQueue)
  | supportsFormat (video : VideoDevice Nat) (fourcc : FourCc)
  | videoInterfaces (media : MediaDevice Nat)
  | drop (handle : Nat)

namespace DiscoveryCall

/-- The machine after a call on it. -/
def after (b : Backend) (m : Machine) : DiscoveryCall → Machine
  | probe dir accept s => (((MediaPairing.probe b.access dir accept).run s).run m).2
  | openVideo path => ((openVideoDevice b.access path).run m).2
  | openMedia path => ((openMediaDevice b.access path).run m).2
  | resolve dir video => ((MediaPairing.resolve b.access dir video).run m).2
  | deviceNumber video => ((deviceNumberOf b.access video).run m).2
  | formats video queue => ((MediaPairing.formats video queue).run m).2
  | supportsFormat video fourcc => ((MediaPairing.supportsFormat video fourcc).run m).2
  | videoInterfaces media => ((MediaPairing.videoInterfaces b.access media).run m).2
  | drop handle => ((b.access.close handle).run m).2

/-- The call closes no handle in `held`. Only dropping a device and a predicate could. -/
def Spares (held : List Nat) : DiscoveryCall → Prop
  | probe _ accept _ => Harmless held accept
  | drop handle => handle ∉ held
  | _ => True

end DiscoveryCall

/-- The machine after some calls on it. -/
def Machine.afterCalls (b : Backend) (m : Machine) (calls : List DiscoveryCall) : Machine :=
  calls.foldl (DiscoveryCall.after b) m

theorem Answers.undisturbed {α : Type} {x : StateM Machine α} {handle : Nat} {a : α}
    (hm : m.Numbered) (h : Answers x m (Event.About handle) a) :
    Undisturbed held m (x.run m).2 := by
  obtain ⟨es, hes, hrun⟩ := h
  rw [hrun]
  exact undisturbed_asked hm hes

theorem DiscoveryCall.undisturbed (b : Backend) (hm : m.Numbered)
    (hheld : ∀ handle ∈ held, handle < m.nextHandle) {call : DiscoveryCall}
    (hspares : call.Spares held) : Undisturbed held m (call.after b m) := by
  cases call with
  | probe dir accept s => exact (probe_guarded b hm hheld hspares dir s).1
  | openVideo path => exact ((openVideoDevice_opening b hm.fresh path).guarded hm).1
  | openMedia path => exact ((openMediaDevice_opening b hm.fresh path).guarded hm).1
  | resolve dir video => exact (resolve_guarded b hm hheld dir video).1
  | deviceNumber video => exact (deviceNumberOf_answers b video m).undisturbed hm
  | formats video queue => exact (formats_answers video queue m).undisturbed hm
  | supportsFormat video fourcc => exact (supportsFormat_answers video fourcc m).undisturbed hm
  | videoInterfaces media => exact (videoInterfaces_answers b media m).undisturbed hm
  | drop handle =>
    have hafter : (drop handle).after b m = m.shut handle := by
      simp only [after, Backend.access_close, Machine.close_run]
    rw [hafter]
    exact undisturbed_shut hm hspares

theorem afterCalls_undisturbed (b : Backend) (hm : m.Numbered)
    (hheld : ∀ handle ∈ held, handle < m.nextHandle) {calls : List DiscoveryCall}
    (hspares : ∀ call ∈ calls, call.Spares held) : Undisturbed held m (m.afterCalls b calls) := by
  induction calls generalizing m with
  | nil => exact undisturbed_refl hm held
  | cons call rest ih =>
    have hcall := DiscoveryCall.undisturbed b hm hheld (hspares call List.mem_cons_self)
    have hbelow : ∀ handle ∈ held, handle < (call.after b m).nextHandle := fun handle hmem =>
      Nat.lt_of_lt_of_le (hheld handle hmem) hcall.nextHandle_le
    have hrest := ih hcall.numbered hbelow
      fun call' hcall' => hspares call' (List.mem_cons_of_mem call hcall')
    exact hcall.trans hrest

end MediaPairing
