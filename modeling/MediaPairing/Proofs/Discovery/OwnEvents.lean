import MediaPairing.Proofs.Discovery.Steps
import MediaPairing.Proofs.Discovery.Opening

/-!
# The events of a search itself

While a search for a video node runs, both the search and the caller's predicate note events,
and the journal does not say whose an event is. To tell them apart, the search is run with a
list of its own events beside the machine: every operation of the system adds to the list what
it notes, and the predicate, which works on the machine alone, leaves the list as it is.

* `Access.owned`, `unowned`: the system and the predicate beside such a list.
* `Owns y x`: beside a list, `y` does what `x` does, and adds all that `x` notes.
* `probePaths_owned_nil`, `probePaths_owned_skip`, `probePaths_owned_offer`: the steps of the
  search beside the list, which are those of the search without it.
-/

namespace MediaPairing

variable {α β τ : Type}

/-- A computation beside a list of events, to which it adds what it notes. -/
def owning (x : StateM Machine α) : StateM (Machine × List Event) α :=
  fun (m, own) =>
    let (a, m') := x.run m
    (a, (m', own ++ m'.journal.drop m.journal.length))

/-- The system with a list of what its operations note. -/
def Access.owned (sys : Access Machine Nat) : Access (Machine × List Event) Nat where
  entries dir := owning (sys.entries dir)
  openVideo path := owning (sys.openVideo path)
  openMedia path := owning (sys.openMedia path)
  capability fd := owning (sys.capability fd)
  mediaInfo fd := owning (sys.mediaInfo fd)
  deviceNumber fd := owning (sys.deviceNumber fd)
  interfaceCount fd := owning (sys.interfaceCount fd)
  fillInterfaces fd buffer := owning (sys.fillInterfaces fd buffer)
  close fd := owning (sys.close fd)
  log r := owning (sys.log r)
  allocationLimit := sys.allocationLimit

/-- A predicate beside a list of events, to which it adds nothing. -/
def unowned (accept : VideoDevice Nat → StateT τ (StateM Machine) Bool)
    (device : VideoDevice Nat) : StateT τ (StateM (Machine × List Event)) Bool :=
  fun s => fun (m, own) =>
    let (a, m') := ((accept device).run s).run m
    (a, (m', own))

theorem unowned_run {accept : VideoDevice Nat → StateT τ (StateM Machine) Bool}
    {device : VideoDevice Nat} {s s' : τ} {accepted : Bool} {m m' : Machine}
    (h : ((accept device).run s).run m = ((accepted, s'), m')) (own : List Event) :
    ((unowned accept device).run s).run (m, own) = ((accepted, s'), (m', own)) := by
  change (match ((accept device).run s).run m with | (a, m') => (a, (m', own))) = _
  rw [h]

/-! ## Beside a list -/

/-- Beside a list of events, `y` answers what `x` does and leaves the same machine. It adds to the
list what `x` notes. -/
def Owns (y : StateM (Machine × List Event) α) (x : StateM Machine α) : Prop :=
  ∀ m own, ∃ es, (x.run m).2.journal = m.journal ++ es ∧
    y.run (m, own) = ((x.run m).1, ((x.run m).2, own ++ es))

section

variable {x : StateM Machine α} {y : StateM (Machine × List Event) α}

theorem owns_owning (h : ∀ m, ∃ es, (x.run m).2.journal = m.journal ++ es) :
    Owns (owning x) x := by
  intro m own
  obtain ⟨es, hes⟩ := h m
  refine ⟨es, hes, ?_⟩
  change ((x.run m).1, ((x.run m).2, own ++ (x.run m).2.journal.drop m.journal.length)) = _
  rw [hes, List.drop_left]

theorem owns_pure (a : α) : Owns (pure a) (pure a) := by
  intro m own
  refine ⟨[], (List.append_nil _).symm, ?_⟩
  rw [List.append_nil]
  rfl

theorem Owns.run (h : Owns y x) {m m' : Machine} {a : α} {es : List Event}
    (hrun : x.run m = (a, m')) (hjournal : m'.journal = m.journal ++ es) (own : List Event) :
    y.run (m, own) = (a, (m', own ++ es)) := by
  obtain ⟨es', hes', hrun'⟩ := h m own
  rw [hrun] at hes' hrun'
  rw [hrun', List.append_cancel_left (hes'.symm.trans hjournal)]

theorem Owns.bind {f : α → StateM Machine β} {g : α → StateM (Machine × List Event) β}
    (h : Owns y x) (hf : ∀ a, Owns (g a) (f a)) : Owns (y >>= g) (x >>= f) := by
  intro m own
  obtain ⟨es, hes, hrun⟩ := h m own
  obtain ⟨es', hes', hrun'⟩ := hf (x.run m).1 (x.run m).2 (own ++ es)
  refine ⟨es ++ es', ?_, ?_⟩
  · rw [run_bind_of_eq (show x.run m = ((x.run m).1, (x.run m).2) from rfl), hes', hes,
      List.append_assoc]
  · rw [run_bind_of_eq hrun, hrun', List.append_assoc]
    rfl

end

/-! ## The operations -/

theorem owns_of_answers {x : StateM Machine α} {P : Event → Prop}
    (h : ∀ m, ∃ a, Answers x m P a) : Owns (owning x) x := by
  apply owns_owning
  intro m
  obtain ⟨a, es, -, hrun⟩ := h m
  rw [hrun]
  exact ⟨es, rfl⟩

theorem owns_log (b : Backend) (r : LogRecord) : Owns (b.access.owned.log r) (Machine.log r) := by
  show Owns (owning (b.access.log r)) (Machine.log r)
  rw [b.access_log]
  exact owns_owning fun m => ⟨_, rfl⟩

theorem owns_close (b : Backend) (handle : Nat) :
    Owns (b.access.owned.close handle) (Machine.close handle) := by
  show Owns (owning (b.access.close handle)) (Machine.close handle)
  rw [b.access_close]
  exact owns_owning fun m => ⟨_, rfl⟩

theorem owns_entries (b : Backend) (dir : Path) :
    Owns (b.access.owned.entries dir) (b.access.entries dir) :=
  owns_of_answers fun m => ⟨_, b.entries_answers dir m⟩

theorem owns_openVideo (b : Backend) (path : Path) :
    Owns (b.access.owned.openVideo path) (b.access.openVideo path) := by
  apply owns_owning
  intro m
  rw [b.opens_video path m]
  cases b.reach m.world path with
  | error e => exact ⟨_, rfl⟩
  | ok n => exact ⟨_, rfl⟩

theorem owns_capability (b : Backend) (handle : Nat) :
    Owns (b.access.owned.capability handle) (b.access.capability handle) :=
  owns_of_answers fun m => ⟨_, b.asks_capability.answers (fun _ => rfl) handle m⟩

theorem owns_openVideoDevice (b : Backend) (path : Path) :
    Owns (openVideoDevice b.access.owned path) (openVideoDevice b.access path) := by
  apply (owns_openVideo b path).bind
  intro opened
  cases opened with
  | error e => exact owns_pure _
  | ok fd =>
    apply (owns_capability b fd).bind
    intro answer
    cases answer with
    | error e =>
      simp only [b.access_close]
      exact (owns_close b fd).bind fun _ => owns_pure _
    | ok capability => exact owns_pure _

/-! ## The steps of the search -/

section

variable {b : Backend} {dir path : Path} {rest : List Path} {m m₁ m₂ : Machine}
  {accept : VideoDevice Nat → StateT τ (StateM Machine) Bool} {s s₁ : τ} {es : List Event}

theorem log_owned (b : Backend) (r : LogRecord) (m : Machine) (own : List Event) :
    (b.access.owned.log r).run (m, own) = ((), (m.extend [.logged r], own ++ [.logged r])) :=
  (owns_log b r).run (Machine.log_run r m) rfl own

theorem close_owned (b : Backend) (handle : Nat) (m : Machine) (own : List Event) :
    (b.access.owned.close handle).run (m, own) = ((), (m.shut handle, own ++ [.closed handle])) :=
  (owns_close b handle).run (Machine.close_run handle m) rfl own

theorem probePaths_owned_nil (b : Backend) (dir : Path)
    (accept : VideoDevice Nat → StateT τ (StateM Machine) Bool) (s : τ) (m : Machine)
    (own : List Event) :
    ((probePaths b.access.owned dir (unowned accept) []).run s).run (m, own) =
      ((.error (.noSuitableDevice dir), s),
        (m.extend [.logged .noVideoDevice], own ++ [.logged .noVideoDevice])) := by
  unfold probePaths
  rw [runs_bind_of_eq (runs_lift_of_eq s (log_owned b _ m own))]
  rfl

theorem probePaths_owned_skip {e : PairingError}
    (hopened : (openVideoDevice b.access path).run (m.extend [.logged (.probing path)]) =
      (.error e, m₁))
    (hjournal : m₁.journal = m.journal ++ [.logged (.probing path)] ++ es) (own : List Event) :
    ((probePaths b.access.owned dir (unowned accept) (path :: rest)).run s).run (m, own) =
      ((probePaths b.access.owned dir (unowned accept) rest).run s).run
        (m₁.extend [.logged (.skipped e)],
          own ++ ([.logged (.probing path)] ++ es ++ [.logged (.skipped e)])) := by
  have hopenedOwned := (owns_openVideoDevice b path).run hopened hjournal
  rw [probePaths, runs_bind_of_eq (runs_lift_of_eq s (log_owned b _ m own)),
    runs_bind_of_eq (runs_lift_of_eq s (hopenedOwned _))]
  dsimp only
  rw [runs_bind_of_eq (runs_lift_of_eq s (log_owned b _ m₁ _))]
  simp only [List.append_assoc]

theorem probePaths_owned_offer {device : VideoDevice Nat} {accepted : Bool}
    (hopened : (openVideoDevice b.access path).run (m.extend [.logged (.probing path)]) =
      (.ok device, m₁))
    (hjournal : m₁.journal = m.journal ++ [.logged (.probing path)] ++ es)
    (hasked : ((accept device).run s).run m₁ = ((accepted, s₁), m₂)) (own : List Event) :
    ((probePaths b.access.owned dir (unowned accept) (path :: rest)).run s).run (m, own) =
      if accepted then
        ((.ok device, s₁), (m₂.extend [.logged (.usingVideo device.path)],
          own ++ ([.logged (.probing path)] ++ es ++ [.logged (.usingVideo device.path)])))
      else
        ((probePaths b.access.owned dir (unowned accept) rest).run s₁).run
          ((m₂.extend [.logged (.rejected device.path device.capability.card)]).shut device.fd,
            own ++ ([.logged (.probing path)] ++ es ++
              [.logged (.rejected device.path device.capability.card), .closed device.fd])) := by
  have hopenedOwned := (owns_openVideoDevice b path).run hopened hjournal
  rw [probePaths, runs_bind_of_eq (runs_lift_of_eq s (log_owned b _ m own)),
    runs_bind_of_eq (runs_lift_of_eq s (hopenedOwned _))]
  dsimp only
  rw [runs_bind_of_eq (unowned_run hasked _)]
  cases accepted with
  | true =>
    rw [if_pos rfl, if_pos rfl, runs_bind_of_eq (runs_lift_of_eq s₁ (log_owned b _ m₂ _))]
    simp only [List.append_assoc]
    rfl
  | false =>
    rw [if_neg (by decide), if_neg (by decide),
      runs_bind_of_eq (runs_lift_of_eq s₁ (log_owned b _ m₂ _)),
      runs_bind_of_eq (runs_lift_of_eq s₁ (close_owned b device.fd _ _))]
    simp only [List.append_assoc, List.cons_append, List.nil_append]

end

end MediaPairing
