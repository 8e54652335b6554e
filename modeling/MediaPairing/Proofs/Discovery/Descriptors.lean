import MediaPairing.Proofs.Discovery.Opening
import MediaPairing.Proofs.Discovery.Readout
import MediaPairing.Proofs.Discovery.Steps

/-!
# Descriptor discipline

A device owns its handle, and each call has to give back every handle but the one that it
hands over. This holds on every path out of a call: a node that stays silent, a device that
is rejected, a controller that does not match or whose topology cannot be read, and a search
that breaks off.

* `Balanced es kept`: in `es`, every open is followed by the one close of its handle before
  another node is tried; only `kept` may stay open.
* `Disciplined m kept m'`: the events from `m` to `m'` are balanced, only `kept` has become
  open, and nothing that was open has been closed.
* `Progress m kept m'`: what carries this through a search, where the next handle must be
  known to be above all that are open.
* `SearchInvariant`: a property that every step of a search carries over.
* `probePaths_preserves`, `resolvePaths_preserves`: the searches carry it over, by induction on
  the paths; each candidate is one step from `none` to `none`, or the last one.
* `probe_preserves`, `resolve_preserves`: whole calls carry it over.
* `progress_invariant`: progress is such a property.
-/

namespace MediaPairing

variable {τ D : Type} {m m' m'' : Machine} {kept : Option (Nat × Path)}

/-! ## Balanced events -/

/-- Each open is followed by one close of the same handle before any other node is tried;
only the handle that is kept stays open. -/
inductive Balanced : List Event → Option Nat → Prop
  | nil : Balanced [] none
  | idle {e : Event} {es : List Event} {kept : Option Nat} (he : e.Idle)
    (hes : Balanced es kept) : Balanced (e :: es) kept
  | refused {call : Call} {e : Errno} {es : List Event} {kept : Option Nat}
    (hcall : call.attempt?.isSome) (hes : Balanced es kept) :
    Balanced (.called call (.failed e) :: es) kept
  | closed {call : Call} {handle : Nat} {idle es : List Event} {kept : Option Nat}
    (hcall : call.attempt?.isSome) (hidle : ∀ e ∈ idle, e.Idle) (hes : Balanced es kept) :
    Balanced (.called call (.opened handle) :: (idle ++ .closed handle :: es)) kept
  | kept {call : Call} {handle : Nat} {idle : List Event} (hcall : call.attempt?.isSome)
    (hidle : ∀ e ∈ idle, e.Idle) :
    Balanced (.called call (.opened handle) :: idle) (some handle)

namespace Balanced

variable {es es' : List Event} {kept : Option Nat}

theorem of_idle (h : ∀ e ∈ es, e.Idle) : Balanced es none := by
  induction es with
  | nil => exact .nil
  | cons e rest ih =>
    exact .idle (h e List.mem_cons_self) (ih fun e' he' => h e' (List.mem_cons_of_mem _ he'))

theorem append (h : Balanced es none) (h' : Balanced es' kept) : Balanced (es ++ es') kept := by
  generalize hnone : (none : Option Nat) = none' at h
  induction h with
  | nil => exact h'
  | idle he _ ih => exact .idle he (ih hnone)
  | refused hcall _ ih => exact .refused hcall (ih hnone)
  | closed hcall hidle _ ih =>
    rw [List.cons_append, List.append_assoc]
    exact .closed hcall hidle (ih hnone)
  | kept _ _ => cases hnone

theorem append_idle (h : Balanced es kept) (h' : ∀ e ∈ es', e.Idle) :
    Balanced (es ++ es') kept := by
  induction h with
  | nil => exact of_idle h'
  | idle he _ ih => exact .idle he ih
  | refused hcall _ ih => exact .refused hcall ih
  | closed hcall hidle _ ih =>
    rw [List.cons_append, List.append_assoc]
    exact .closed hcall hidle ih
  | kept hcall hidle =>
    refine .kept hcall fun e he => ?_
    rcases List.mem_append.mp he with he | he
    · exact hidle e he
    · exact h' e he

/-- The handle that was kept is closed at last. -/
theorem append_close {handle : Nat} (h : Balanced es (some handle)) :
    Balanced (es ++ [.closed handle]) none := by
  generalize hsome : some handle = kept at h
  induction h with
  | nil => cases hsome
  | idle he _ ih => exact .idle he (ih hsome)
  | refused hcall _ ih => exact .refused hcall (ih hsome)
  | closed hcall hidle _ ih =>
    rw [List.cons_append, List.append_assoc]
    exact .closed hcall hidle (ih hsome)
  | kept hcall hidle =>
    cases hsome
    exact .closed hcall hidle .nil

end Balanced

/-! ## One at a time -/

/-- The handles that are open after one more event. -/
def Event.track (held : List Nat) : Event → List Nat
  | called call (.opened handle) =>
    if call.attempt?.isSome then held ++ [handle] else held
  | closed handle => held.erase handle
  | _ => held

/-- The handles that the events have opened and not closed. -/
def stillOpen (es : List Event) : List Nat := es.foldl Event.track []

theorem Event.Idle.track_eq {e : Event} (h : e.Idle) (held : List Nat) :
    e.track held = held := by
  cases e with
  | called call outcome =>
    have hnone : call.attempt? = none := h
    cases outcome <;> simp [track, hnone]
  | closed handle => cases h
  | logged r => rfl
  | printed line => rfl

theorem foldl_track_of_idle {es : List Event} (h : ∀ e ∈ es, e.Idle) (held : List Nat) :
    es.foldl Event.track held = held := by
  induction es with
  | nil => rfl
  | cons e rest ih =>
    rw [List.foldl_cons, (h e List.mem_cons_self).track_eq]
    exact ih fun e' he' => h e' (List.mem_cons_of_mem _ he')

theorem track_opened {call : Call} (hcall : call.attempt?.isSome) (handle : Nat) :
    Event.track [] (.called call (.opened handle)) = [handle] := by
  simp [Event.track, hcall]

/-- At no moment is more than one of the opened handles open. -/
theorem Balanced.length_stillOpen_le {es : List Event} {kept : Option Nat}
    (h : Balanced es kept) {before after : List Event} (hsplit : es = before ++ after) :
    (stillOpen before).length ≤ 1 := by
  unfold stillOpen
  induction h generalizing before with
  | nil =>
    rw [(List.nil_eq_append_iff.mp hsplit).1]
    exact Nat.zero_le 1
  | idle he _ ih =>
    rcases List.cons_eq_append_iff.mp hsplit with ⟨rfl, -⟩ | ⟨before', rfl, hsplit'⟩
    · exact Nat.zero_le 1
    · rw [List.foldl_cons, he.track_eq]
      exact ih hsplit'
  | refused hcall _ ih =>
    rcases List.cons_eq_append_iff.mp hsplit with ⟨rfl, -⟩ | ⟨before', rfl, hsplit'⟩
    · exact Nat.zero_le 1
    · rw [List.foldl_cons]
      exact ih hsplit'
  | @closed call handle idle es kept hcall hidle _ ih =>
    rcases List.cons_eq_append_iff.mp hsplit with ⟨rfl, -⟩ | ⟨before', rfl, hsplit'⟩
    · exact Nat.zero_le 1
    · rw [List.foldl_cons, track_opened hcall]
      rcases List.append_eq_append_iff.mp hsplit' with ⟨rest, rfl, hrest⟩ | ⟨rest, rfl, -⟩
      · rcases List.cons_eq_append_iff.mp hrest with ⟨rfl, -⟩ | ⟨before'', rfl, hsplit''⟩
        · rw [List.append_nil, foldl_track_of_idle hidle]
          exact Nat.le_refl 1
        · -- past the close nothing is open again
          rw [List.foldl_append, foldl_track_of_idle hidle, List.foldl_cons]
          have hnil : Event.track [handle] (.closed handle) = [] := by simp [Event.track]
          rw [hnil]
          exact ih hsplit''
      · rw [foldl_track_of_idle fun e he => hidle e (List.mem_append_left rest he)]
        exact Nat.le_refl 1
  | kept hcall hidle =>
    rcases List.cons_eq_append_iff.mp hsplit with ⟨rfl, -⟩ | ⟨before', rfl, rfl⟩
    · exact Nat.zero_le 1
    · rw [List.foldl_cons, track_opened hcall,
        foldl_track_of_idle fun e he => hidle e (List.mem_append_left after he)]
      exact Nat.le_refl 1

/-! ## From machine to machine -/

/-- Between the two machines nothing was opened or closed. -/
structure Quiet (m m' : Machine) : Prop where
  handles_eq : m'.handles = m.handles
  nextHandle_eq : m'.nextHandle = m.nextHandle
  journal_eq : ∃ es, m'.journal = m.journal ++ es ∧ ∀ e ∈ es, e.Idle

/-- A predicate that opens and closes nothing, whatever else it does. -/
def Inert (accept : VideoDevice Nat → StateT τ (StateM Machine) Bool) : Prop :=
  ∀ device s m, Quiet m (((accept device).run s).run m).2

/-- Between the two machines every open was followed by its close before the next open was
tried, except for that of `kept`, which is the only handle that has become open. No handle
that was open has been closed. -/
structure Disciplined (m : Machine) (kept : Option (Nat × Path)) (m' : Machine) : Prop where
  journal_eq : ∃ es, m'.journal = m.journal ++ es ∧ Balanced es (kept.map Prod.fst) ∧
    (∀ before after, es = before ++ after → (stillOpen before).length ≤ 1) ∧
    ∀ p ∈ m.handles, .closed p.1 ∉ es
  handles_eq : m'.handles = m.handles ++ kept.toList

/-- The same with what is known of the numbers of handles: those that were closed, and the
one that was kept, had not been given before. -/
structure Progress (m : Machine) (kept : Option (Nat × Path)) (m' : Machine) : Prop where
  journal_eq : ∃ es, m'.journal = m.journal ++ es ∧ Balanced es (kept.map Prod.fst) ∧
    ∀ handle, .closed handle ∈ es → m.nextHandle ≤ handle
  handles_eq : m'.handles = m.handles ++ kept.toList
  nextHandle_le : m.nextHandle ≤ m'.nextHandle
  kept_last : ∀ p ∈ kept, m.nextHandle ≤ p.1 ∧ m'.nextHandle = p.1 + 1

/-- The handle that goes to the caller with a device. -/
def handed (holding : D → Nat × Path) : Except PairingError D → Option (Nat × Path)
  | .ok d => some (holding d)
  | .error _ => none

theorem quiet_extend {es : List Event} (h : ∀ e ∈ es, e.Idle) : Quiet m (m.extend es) :=
  ⟨rfl, rfl, es, rfl, h⟩

theorem quiet_log (r : LogRecord) (m : Machine) : Quiet m (m.extend [.logged r]) := by
  refine quiet_extend fun e he => ?_
  rw [List.mem_singleton.mp he]
  trivial

theorem Answers.quiet {α : Type} {x : StateM Machine α} {P : Event → Prop} {a : α}
    (h : Answers x m P a) (hP : ∀ e, P e → e.Idle) : Quiet m (x.run m).2 := by
  obtain ⟨es, hes, hrun⟩ := h
  rw [hrun]
  exact quiet_extend fun e he => hP e (hes e he)

theorem Quiet.progress (h : Quiet m m') : Progress m none m' where
  journal_eq := by
    obtain ⟨es, hjournal, hidle⟩ := h.journal_eq
    refine ⟨es, hjournal, .of_idle hidle, fun handle hclosed => ?_⟩
    cases hidle _ hclosed
  handles_eq := by rw [h.handles_eq, Option.toList_none, List.append_nil]
  nextHandle_le := Nat.le_of_eq h.nextHandle_eq.symm
  kept_last := fun p hp => by cases hp

namespace Progress

theorem fresh (h : Progress m kept m') (hm : m.Fresh) : m'.Fresh := by
  intro p hp
  rw [h.handles_eq] at hp
  rcases List.mem_append.mp hp with hp | hp
  · exact Nat.lt_of_lt_of_le (hm p hp) h.nextHandle_le
  · rw [(h.kept_last p (Option.mem_toList.mp hp)).2]
    exact Nat.lt_succ_self _

theorem trans (h : Progress m none m') (h' : Progress m' kept m'') : Progress m kept m'' where
  journal_eq := by
    obtain ⟨es, hjournal, hbalanced, hclosed⟩ := h.journal_eq
    obtain ⟨es', hjournal', hbalanced', hclosed'⟩ := h'.journal_eq
    refine ⟨es ++ es', ?_, hbalanced.append hbalanced', fun handle hmem => ?_⟩
    · rw [hjournal', hjournal, List.append_assoc]
    · rcases List.mem_append.mp hmem with hmem | hmem
      · exact hclosed handle hmem
      · exact Nat.le_trans h.nextHandle_le (hclosed' handle hmem)
  handles_eq := by
    rw [h'.handles_eq, h.handles_eq, Option.toList_none, List.append_nil]
  nextHandle_le := Nat.le_trans h.nextHandle_le h'.nextHandle_le
  kept_last := fun p hp =>
    ⟨Nat.le_trans h.nextHandle_le (h'.kept_last p hp).1, (h'.kept_last p hp).2⟩

/-- Working with what was kept. -/
theorem quiet (h : Progress m kept m') (h' : Quiet m' m'') : Progress m kept m'' where
  journal_eq := by
    obtain ⟨es, hjournal, hbalanced, hclosed⟩ := h.journal_eq
    obtain ⟨es', hjournal', hidle⟩ := h'.journal_eq
    refine ⟨es ++ es', ?_, hbalanced.append_idle hidle, fun handle hmem => ?_⟩
    · rw [hjournal', hjournal, List.append_assoc]
    · rcases List.mem_append.mp hmem with hmem | hmem
      · exact hclosed handle hmem
      · cases hidle _ hmem
  handles_eq := by rw [h'.handles_eq, h.handles_eq]
  nextHandle_le := by rw [h'.nextHandle_eq]; exact h.nextHandle_le
  kept_last := by rw [h'.nextHandle_eq]; exact h.kept_last

/-- Giving back what was kept. -/
theorem shut {p : Nat × Path} (h : Progress m (some p) m') (hm : m.Fresh) :
    Progress m none (m'.shut p.1) where
  journal_eq := by
    obtain ⟨es, hjournal, hbalanced, hclosed⟩ := h.journal_eq
    refine ⟨es ++ [.closed p.1], ?_, hbalanced.append_close, fun handle hmem => ?_⟩
    · change m'.journal ++ [.closed p.1] = m.journal ++ (es ++ [.closed p.1])
      rw [hjournal, List.append_assoc]
    · rcases List.mem_append.mp hmem with hmem | hmem
      · exact hclosed handle hmem
      · cases List.mem_singleton.mp hmem
        exact (h.kept_last p rfl).1
  handles_eq := by
    have hold : ∀ q ∈ m.handles, q.1 < p.1 :=
      fun q hq => Nat.lt_of_lt_of_le (hm q hq) (h.kept_last p rfl).1
    change m'.handles.filter (·.1 != p.1) = _
    rw [h.handles_eq, List.filter_append, Machine.filter_handles hold]
    simp
  nextHandle_le := h.nextHandle_le
  kept_last := fun q hq => by cases hq

theorem disciplined (h : Progress m kept m') (hm : m.Fresh) : Disciplined m kept m' where
  journal_eq := by
    obtain ⟨es, hjournal, hbalanced, hclosed⟩ := h.journal_eq
    refine ⟨es, hjournal, hbalanced, fun _ _ => hbalanced.length_stillOpen_le, ?_⟩
    intro p hp hmem
    exact absurd (hm p hp) (Nat.not_lt.mpr (hclosed p.1 hmem))
  handles_eq := h.handles_eq

end Progress

/-! ## The calls -/

theorem Opening.progress {α : Type} {b : Backend} {kind : NodeKind α D} {path : Path}
    {r : Except PairingError D × Machine} (h : Opening b kind m path r) :
    Progress m (handed kind.holding r.1) r.2 := by
  have hopen : (kind.openCall path).attempt?.isSome := by rw [kind.attempt?_openCall]; rfl
  have hask : ∀ outcome, ∀ e ∈ [Event.called (kind.askCall m.nextHandle) outcome], e.Idle := by
    intro outcome e he
    rw [List.mem_singleton.mp he]
    exact (Event.About.call (kind.handle?_askCall _) outcome).idle
  cases h with
  | @refused e hreach =>
    refine ⟨⟨_, rfl, ?_, fun handle hmem => ?_⟩, (List.append_nil _).symm, Nat.le_refl _,
      fun p hp => by cases hp⟩
    · split
      · exact .refused hopen .nil
      · exact .nil
    · split at hmem
      · simp at hmem
      · cases hmem
  | silent hreach hreply =>
    refine ⟨⟨_, rfl, ?_, fun handle hmem => ?_⟩, (List.append_nil _).symm, Nat.le_succ _,
      fun p hp => by cases hp⟩
    · exact .closed hopen (hask _) .nil
    · simp at hmem
      exact Nat.le_of_eq hmem.symm
  | @answered n a hreach hreply =>
    have hholding := kind.holding_device path m.nextHandle a
    refine ⟨⟨_, rfl, ?_, fun handle hmem => ?_⟩, ?_, Nat.le_succ _, ?_⟩
    · simp only [handed, hholding]
      exact .kept hopen (hask _)
    · simp at hmem
    · simp only [handed, hholding]
      rfl
    · simp only [handed, hholding]
      rintro p ⟨⟩
      exact ⟨Nat.le_refl _, rfl⟩

/-! ## What a search preserves -/

/-- A property of the handle that a search holds, if any, and of the machine, which every step of
a search carries over: opening and asking a candidate, working with the device, and giving it
back. -/
structure SearchInvariant (b : Backend) (I : Option (Nat × Path) → Machine → Prop) : Prop where
  fresh : ∀ {kept m}, I kept m → m.Fresh
  logged : ∀ {kept m} (r : LogRecord), I kept m → I kept (m.extend [.logged r])
  asked : ∀ {p m es}, I (some p) m → (∀ e ∈ es, Event.About p.1 e) → I (some p) (m.extend es)
  opening : ∀ {α D : Type} {kind : NodeKind α D} {m path r}, I none m →
    Opening b kind m path r → I (handed kind.holding r.1) r.2
  shut : ∀ {p m}, I (some p) m → I none (m.shut p.1)

section

variable {b : Backend} {I : Option (Nat × Path) → Machine → Prop}

theorem probePaths_preserves (hI : SearchInvariant b I)
    {accept : VideoDevice Nat → StateT τ (StateM Machine) Bool}
    (haccept : ∀ device s m, I (some device.holding) m →
      I (some device.holding) (((accept device).run s).run m).2)
    (dir : Path) (paths : List Path) (s : τ) (hm : I none m) :
    I (handed VideoDevice.holding (((probePaths b.access dir accept paths).run s).run m).1.1)
      (((probePaths b.access dir accept paths).run s).run m).2 := by
  induction paths generalizing s m with
  | nil =>
    rw [probePaths_nil]
    exact hI.logged _ hm
  | cons path rest ih =>
    have hprobing := hI.logged (.probing path) hm
    have hopening := hI.opening hprobing
      (openVideoDevice_opening b (hI.fresh hprobing) path)
    generalize hopened : (openVideoDevice b.access path).run (m.extend [.logged (.probing path)]) =
      opened at hopening
    obtain ⟨answer, m₁⟩ := opened
    cases answer with
    | error e =>
      rw [probePaths_skip hopened]
      exact ih s (hI.logged (.skipped e) hopening)
    | ok device =>
      have hafter := haccept device s m₁ hopening
      generalize hasked : ((accept device).run s).run m₁ = asked at hafter
      obtain ⟨⟨accepted, s₁⟩, m₂⟩ := asked
      rw [probePaths_offer hopened hasked]
      cases accepted with
      | true => exact hI.logged _ hafter
      | false =>
        -- a rejected device is given back before the next candidate is tried
        exact ih s₁ (hI.shut (hI.logged (.rejected device.path device.capability.card) hafter))

theorem resolvePaths_preserves (hI : SearchInvariant b I) (dir : Path) (devnum : DeviceNumber)
    (paths : List Path) (hm : I none m) :
    I (handed MediaDevice.holding ((resolvePaths b.access dir devnum paths).run m).1)
      ((resolvePaths b.access dir devnum paths).run m).2 := by
  induction paths generalizing m with
  | nil =>
    rw [resolvePaths_nil]
    exact hI.logged _ hm
  | cons path rest ih =>
    have hprobing := hI.logged (.probing path) hm
    have hopening := hI.opening hprobing
      (openMediaDevice_opening b (hI.fresh hprobing) path)
    generalize hopened : (openMediaDevice b.access path).run (m.extend [.logged (.probing path)]) =
      opened at hopening
    obtain ⟨answer, m₁⟩ := opened
    cases answer with
    | error e =>
      rw [resolvePaths_skip hopened]
      exact ih (hI.logged (.skipped e) hopening)
    | ok media =>
      obtain ⟨es, hes, hasked⟩ := publishes_answers b media devnum m₁
      have hafter := hI.asked hopening hes
      rw [resolvePaths_ask hopened hasked]
      generalize m₁.extend es = m₂ at hafter
      -- every answer but a match gives the controller back
      have hclosed := fun r => hI.shut (hI.logged r hafter)
      cases (b.interfaces media.path (m₁.node media.fd)).map fun is =>
          (is.filter Interface.isVideo).any (·.devnode = devnum) with
      | ok matched =>
        cases matched with
        | true => exact hI.logged _ hafter
        | false => exact ih (hclosed _)
      | error e =>
        cases e with
        | allocationFailed count => exact hI.shut hafter
        | _ => exact ih (hclosed _)

/-- A whole call carries it over if listing the directory does. -/
theorem probe_preserves (hI : SearchInvariant b I)
    {accept : VideoDevice Nat → StateT τ (StateM Machine) Bool}
    (haccept : ∀ device s m, I (some device.holding) m →
      I (some device.holding) (((accept device).run s).run m).2)
    (dir : Path) (s : τ)
    (hlisted : ∀ es, (∀ e ∈ es, e.listing? = some dir) → I none (m.extend es)) :
    I (handed VideoDevice.holding (((probe b.access dir accept).run s).run m).1.1)
      (((probe b.access dir accept).run s).run m).2 := by
  obtain ⟨es, hes, hrun⟩ := b.entries_answers dir m
  have hlisted := hlisted es hes
  unfold probe
  rw [runs_bind_of_eq (runs_lift_of_eq s hrun)]
  cases b.names m.world dir with
  | error e => exact hlisted
  | ok names => exact probePaths_preserves hI haccept dir _ s hlisted

/-- A whole call carries it over if asking the video node and listing the directory do. -/
theorem resolve_preserves (hI : SearchInvariant b I) (dir : Path) {video : VideoDevice Nat}
    (hasked : ∀ es, (∀ e ∈ es, Event.About video.fd e) → I none (m.extend es))
    (hlisted : ∀ {m es}, I none m → (∀ e ∈ es, e.listing? = some dir) → I none (m.extend es)) :
    I (handed MediaDevice.holding ((resolve b.access dir video).run m).1)
      ((resolve b.access dir video).run m).2 := by
  obtain ⟨es, hes, hrun⟩ := deviceNumberOf_answers b video m
  have hnumber := hasked es hes
  unfold resolve
  rw [run_bind_of_eq hrun]
  cases b.identity video m with
  | error e => exact hnumber
  | ok devnum =>
    dsimp only
    rw [Backend.access_log, run_bind_of_eq (Machine.log_run _ _)]
    have hlogged := hI.logged (.videoNumber devnum) hnumber
    obtain ⟨es', hes', hrun'⟩ :=
      b.entries_answers dir ((m.extend es).extend [.logged (.videoNumber devnum)])
    have hlisted := hlisted hlogged hes'
    rw [run_bind_of_eq hrun']
    cases b.names _ dir with
    | error e => exact hlisted
    | ok names => exact resolvePaths_preserves hI dir devnum _ hlisted

end

theorem progress_invariant (b : Backend) (hm : m.Fresh) : SearchInvariant b (Progress m) where
  fresh h := h.fresh hm
  logged r h := h.quiet (quiet_log r _)
  asked h hes := h.quiet (quiet_extend fun e he => (hes e he).idle)
  opening h hopening := h.trans hopening.progress
  shut h := h.shut hm

section

variable (b : Backend)

theorem probe_progress {accept : VideoDevice Nat → StateT τ (StateM Machine) Bool}
    (hinert : Inert accept) (dir : Path) (s : τ) (hm : m.Fresh) :
    Progress m (handed VideoDevice.holding (((probe b.access dir accept).run s).run m).1.1)
      (((probe b.access dir accept).run s).run m).2 := by
  apply probe_preserves (progress_invariant b hm)
  · intro device s m' h
    exact h.quiet (hinert device s m')
  · intro es hes
    exact (quiet_extend fun e he => Event.idle_of_listing (hes e he)).progress

theorem resolve_progress (dir : Path) (video : VideoDevice Nat) (hm : m.Fresh) :
    Progress m (handed MediaDevice.holding ((resolve b.access dir video).run m).1)
      ((resolve b.access dir video).run m).2 := by
  apply resolve_preserves (progress_invariant b hm)
  · intro es hes
    exact (quiet_extend fun e he => (hes e he).idle).progress
  · intro m' es h hes
    exact h.quiet (quiet_extend fun e he => Event.idle_of_listing (hes e he))

end

/-- Every call keeps the discipline, whatever it comes to: what it hands over is the one
handle that has become open. -/
theorem calls_disciplined (b : Backend) (hm : m.Fresh)
    {accept : VideoDevice Nat → StateT τ (StateM Machine) Bool} (hinert : Inert accept) (s : τ)
    (dir path : Path) (video : VideoDevice Nat) (media : MediaDevice Nat) :
    Disciplined m (handed VideoDevice.holding (((probe b.access dir accept).run s).run m).1.1)
      (((probe b.access dir accept).run s).run m).2 ∧
    Disciplined m (handed VideoDevice.holding ((openVideoDevice b.access path).run m).1)
      ((openVideoDevice b.access path).run m).2 ∧
    Disciplined m (handed MediaDevice.holding ((resolve b.access dir video).run m).1)
      ((resolve b.access dir video).run m).2 ∧
    Disciplined m (handed MediaDevice.holding ((openMediaDevice b.access path).run m).1)
      ((openMediaDevice b.access path).run m).2 ∧
    Disciplined m none ((videoInterfaces b.access media).run m).2 := by
  refine ⟨?_, ?_, ?_, ?_, ?_⟩
  · exact (probe_progress b hinert dir s hm).disciplined hm
  · exact (openVideoDevice_opening b hm path).progress.disciplined hm
  · exact (resolve_progress b dir video hm).disciplined hm
  · exact (openMediaDevice_opening b hm path).progress.disciplined hm
  · have hquiet := (videoInterfaces_answers b media m).quiet fun _ => Event.About.idle
    exact hquiet.progress.disciplined hm

/-- Accepts the second device that it is asked about, and counts how often it was asked. -/
def acceptSecond (_ : VideoDevice Nat) : StateT Nat (StateM Machine) Bool :=
  fun asked => pure (asked == 1, asked + 1)

theorem inert_acceptSecond : Inert acceptSecond := by
  intro device s m
  exact (answers_pure (s == 1, s + 1) m fun _ => False).quiet fun _ h => h.elim

theorem calls_disciplined_sample :
    Machine.sample.Fresh ∧ Inert acceptSecond ∧
      Disciplined .sample (some (6, .ofString "/dev/video1"))
        (((probe Machine.kernel (.ofString "/dev") acceptSecond).run 0).run .sample).2 := by
  have hcalls := calls_disciplined .kernel Machine.fresh_sample inert_acceptSecond 0
    (.ofString "/dev") (.ofString "/dev/video1") ⟨.ofString "/dev/video0", 4, {}⟩
    ⟨.ofString "/dev/media1", 6, {}⟩
  exact ⟨Machine.fresh_sample, inert_acceptSecond, hcalls.1⟩

end MediaPairing
