import MediaPairing.Machine.Access
import MediaPairing.Machine.Trace

/-!
# Runs on a machine

A computation on a machine can be followed step by step: each step has an equation that gives
its answer and the machine that it leaves, and `run_bind_of_eq` puts two steps together. The
machine that a step leaves is written in one of four forms.

* `Machine.extend`: some events were noted, and nothing else happened.
* `Machine.spend`: a node was opened and closed again, so a handle is used up.
* `Machine.keep`: a node was opened and is still open.
* `Machine.shut`: a handle was closed, whichever it was.

`Answers x m P a` is the common case of a computation that only asks: it gives `a`, and what
it notes has the property `P`; `Notes P x` says that of every machine, and leaves the answer
open. `Machine.Fresh` is the invariant that makes handles unique.
`Machine.sample` is a small machine for examples.
-/

namespace MediaPairing

variable {α β τ : Type}

/-! ## One step after the other -/

theorem run_bind_of_eq {σ : Type} {x : StateM σ α} {f : α → StateM σ β} {s s' : σ} {a : α}
    (h : x.run s = (a, s')) : (x >>= f).run s = (f a).run s' := by
  rw [StateT.run_bind, h]
  rfl

theorem run_get_bind {σ : Type} (f : σ → StateM σ β) (s : σ) :
    (get >>= f).run s = (f s).run s := rfl

/-- `run_bind_of_eq` for a computation that keeps a state of its own beside the machine. -/
theorem runs_bind_of_eq {σ : Type} {x : StateT τ (StateM σ) α} {f : α → StateT τ (StateM σ) β}
    {m m' : σ} {a : α} {s s' : τ} (h : (x.run s).run m = ((a, s'), m')) :
    ((x >>= f).run s).run m = ((f a).run s').run m' := by
  rw [StateT.run_bind, run_bind_of_eq h]

/-- A computation without a state of its own leaves that state as it is. -/
theorem runs_lift_of_eq {σ : Type} {x : StateM σ α} {m m' : σ} {a : α} (s : τ)
    (h : x.run m = (a, m')) :
    ((liftM x : StateT τ (StateM σ) α).run s).run m = ((a, s), m') := by
  change (do let a ← x; pure (a, s) : StateM σ (α × τ)).run m = _
  rw [run_bind_of_eq h]
  rfl

/-- The node that an open handle for `path` stands for. -/
def World.node (w : World) (path : Path) : Except Errno Node :=
  match w.nodes.get? path with
  | none => .error .noDevice
  | some n => .ok n

namespace Machine

/-! ## What a step leaves -/

/-- The machine after more events. -/
def extend (m : Machine) (es : List Event) : Machine := { m with journal := m.journal ++ es }

/-- The machine after a node was opened and closed again, with the events of that. -/
def spend (m : Machine) (es : List Event) : Machine :=
  { m with nextHandle := m.nextHandle + 1, journal := m.journal ++ es }

/-- The machine after the node at `path` was opened, with the events of that. -/
def keep (m : Machine) (path : Path) (es : List Event) : Machine :=
  { m with
    nextHandle := m.nextHandle + 1
    handles := m.handles ++ [(m.nextHandle, path)]
    journal := m.journal ++ es }

/-- The machine after a handle was closed. -/
def shut (m : Machine) (handle : Nat) : Machine :=
  { m with
    handles := m.handles.filter (·.1 != handle)
    journal := m.journal ++ [.closed handle] }

section

variable (m : Machine) (path : Path) (es es' : List Event)

@[simp]
theorem extend_world : (m.extend es).world = m.world := rfl

@[simp]
theorem extend_journal : (m.extend es).journal = m.journal ++ es := rfl

@[simp]
theorem keep_world : (m.keep path es).world = m.world := rfl

@[simp]
theorem keep_handles :
    (m.keep path es).handles = m.handles ++ [(m.nextHandle, path)] := rfl

@[simp]
theorem shut_journal (handle : Nat) :
    (m.shut handle).journal = m.journal ++ [.closed handle] := rfl

@[simp]
theorem extend_extend : (m.extend es).extend es' = m.extend (es ++ es') := by
  simp [extend]

@[simp]
theorem extend_spend : (m.extend es).spend es' = m.spend (es ++ es') := by
  simp [extend, spend]

@[simp]
theorem spend_extend : (m.spend es).extend es' = m.spend (es ++ es') := by
  simp [extend, spend]

@[simp]
theorem extend_keep : (m.extend es).keep path es' = m.keep path (es ++ es') := by
  simp [extend, keep]

@[simp]
theorem keep_extend : (m.keep path es).extend es' = m.keep path (es ++ es') := by
  simp [extend, keep]

end

/-! ## Handles -/

/-- No open handle has a number that a later open may give. A machine without open handles is
like this, and it stays so, as handles come from opening alone. -/
def Fresh (m : Machine) : Prop := ∀ p ∈ m.handles, p.1 < m.nextHandle

theorem Fresh.extend {m : Machine} (h : m.Fresh) (es : List Event) : (m.extend es).Fresh := h

theorem Fresh.spend {m : Machine} (h : m.Fresh) (es : List Event) : (m.spend es).Fresh :=
  fun p hp => Nat.lt_succ_of_lt (h p hp)

theorem Fresh.keep {m : Machine} (h : m.Fresh) (path : Path) (es : List Event) :
    (m.keep path es).Fresh := by
  intro p hp
  show p.1 < m.nextHandle + 1
  rcases List.mem_append.mp hp with hp | hp
  · exact Nat.lt_succ_of_lt (h p hp)
  · rw [List.mem_singleton.mp hp]
    exact Nat.lt_succ_self _

theorem Fresh.shut {m : Machine} (h : m.Fresh) (handle : Nat) : (m.shut handle).Fresh :=
  fun p hp => h p (List.mem_filter.mp hp).1

/-- A handle above all others is found where it was put. -/
theorem lookup_append_last {handles : List (Nat × Path)} {handle : Nat}
    (h : ∀ p ∈ handles, p.1 < handle) (path : Path) :
    (handles ++ [(handle, path)]).lookup handle = some path := by
  have hnone : handles.lookup handle = none := by
    rw [List.lookup_eq_none_iff]
    intro p hp
    have hlt := h p hp
    simp only [bne_iff_ne]
    omega
  rw [List.lookup_append, hnone, Option.none_or]
  exact List.lookup_cons_self

/-- The node behind an open handle is the one at its path. -/
theorem node_of_lookup {m : Machine} {handle : Nat} {path : Path}
    (h : m.handles.lookup handle = some path) : m.node handle = m.world.node path := by
  unfold node
  rw [h]
  rfl

/-- What is behind a handle depends on the open handles and on the nodes. -/
theorem node_congr {m m' : Machine} (hnodes : m'.world.nodes = m.world.nodes)
    (hhandles : m'.handles = m.handles) (handle : Nat) : m'.node handle = m.node handle := by
  unfold node
  rw [hnodes, hhandles]

@[simp]
theorem node_extend (m : Machine) (es : List Event) (handle : Nat) :
    (m.extend es).node handle = m.node handle := rfl

/-- The node behind the handle that was opened last. -/
theorem node_keep {m : Machine} (h : m.Fresh) {path : Path} {n : Node}
    (hn : m.world.nodes.get? path = some n) (es : List Event) :
    (m.keep path es).node m.nextHandle = .ok n := by
  unfold node
  rw [keep_handles, lookup_append_last h, keep_world]
  dsimp only
  rw [hn]

theorem filter_handles {m : Machine} {handle : Nat} (h : ∀ p ∈ m.handles, p.1 < handle) :
    m.handles.filter (·.1 != handle) = m.handles := by
  rw [List.filter_eq_self]
  intro p hp
  have := h p hp
  simp only [bne_iff_ne]
  omega

/-- Closing the handle that was opened last. -/
theorem shut_keep {m : Machine} (h : m.Fresh) (path : Path) (es : List Event) :
    (m.keep path es).shut m.nextHandle = m.spend (es ++ [.closed m.nextHandle]) := by
  simp [shut, keep, spend, List.filter_append, filter_handles h]

theorem close_run (handle : Nat) (m : Machine) : (close handle).run m = ((), m.shut handle) :=
  rfl

/-! ## Steps without an open or a close -/

theorem log_run (r : LogRecord) (m : Machine) :
    (log r).run m = ((), m.extend [.logged r]) := rfl

theorem print_run (line : ReportLine) (m : Machine) :
    (print line).run m = ((), m.extend [.printed line]) := rfl

/-- How a call ends that answers `answer`. -/
def outcomeOf (answer : Except Errno α) : Outcome :=
  match answer with
  | .ok _ => .done
  | .error e => .failed e

theorem answerCall_run (call : Call) (answer : Except Errno α) (m : Machine) :
    (answerCall call answer).run m = (answer, m.extend [.called call (outcomeOf answer)]) := by
  cases answer <;> rfl

theorem query_run (call : Call) (handle : Nat) (ask : Node → Except Errno α) (m : Machine) :
    (query call handle ask).run m =
      ((m.node handle).bind ask,
        m.extend [.called call (outcomeOf ((m.node handle).bind ask))]) :=
  answerCall_run call ((m.node handle).bind ask) m

/-! ## An example -/

/-- A machine with two video nodes and two controllers, the first of which has no interfaces.
The first video node is open. -/
def sample : Machine where
  world :=
    { dirs := [(.ofString "/dev", .ok [.ok (Utf8.encode "video0"), .ok (Utf8.encode "media0"),
        .ok (Utf8.encode "video1"), .ok (Utf8.encode "media1")])]
      nodes := [(.ofString "/dev/video0", { number := .ok (.pair ⟨81, 0⟩), capability := .ok {} }),
        (.ofString "/dev/video1", { number := .ok (.pair ⟨81, 1⟩), capability := .ok {} }),
        (.ofString "/dev/media0", { mediaInfo := .ok {}, topology := .ok {} }),
        (.ofString "/dev/media1",
          { mediaInfo := .ok {}
            topology := .ok { interfaces := [.ofType 7 .v4lVideo ⟨81, 0⟩] } })] }
  nextHandle := 5
  handles := [(4, .ofString "/dev/video0")]

theorem fresh_sample : sample.Fresh := by
  intro p hp
  rw [List.mem_singleton.mp hp]
  decide

end Machine

/-! ## Computations that only ask -/

/-- On `m` the computation gives `a`; it notes events with the property `P`, and does nothing
else to the machine. -/
def Answers (x : StateM Machine α) (m : Machine) (P : Event → Prop) (a : α) : Prop :=
  ∃ es, (∀ e ∈ es, P e) ∧ x.run m = (a, m.extend es)

theorem answers_pure (a : α) (m : Machine) (P : Event → Prop) : Answers (pure a) m P a := by
  refine ⟨[], by simp, ?_⟩
  simp [Machine.extend]
  rfl

theorem Answers.bind {x : StateM Machine α} {f : α → StateM Machine β} {m : Machine}
    {P : Event → Prop} {a : α} {b : β} (hx : Answers x m P a)
    (hf : ∀ es, Answers (f a) (m.extend es) P b) : Answers (x >>= f) m P b := by
  obtain ⟨es, hes, hrun⟩ := hx
  obtain ⟨es', hes', hrun'⟩ := hf es
  refine ⟨es ++ es', ?_, ?_⟩
  · intro e he
    rcases List.mem_append.mp he with he | he
    · exact hes e he
    · exact hes' e he
  · rw [run_bind_of_eq hrun, hrun', Machine.extend_extend]

theorem Answers.mono {x : StateM Machine α} {m : Machine} {P Q : Event → Prop} {a : α}
    (h : Answers x m P a) (hPQ : ∀ e, P e → Q e) : Answers x m Q a := by
  obtain ⟨es, hes, hrun⟩ := h
  exact ⟨es, fun e he => hPQ e (hes e he), hrun⟩

theorem Answers.get_bind {f : Machine → StateM Machine β} {m : Machine} {P : Event → Prop}
    {b : β} (h : Answers (f m) m P b) : Answers (get >>= f) m P b := h

/-- A computation beside a state that it does not look at. -/
theorem Answers.lift {x : StateM Machine α} {m : Machine} {P : Event → Prop} {a : α}
    (h : Answers x m P a) (s : τ) :
    Answers ((StateT.lift x : StateT τ (StateM Machine) α).run s) m P (a, s) :=
  h.bind (f := fun a => pure (a, s)) fun _ => answers_pure _ _ _

theorem Answers.fst_run {x : StateM Machine α} {m : Machine} {P : Event → Prop} {a : α}
    (h : Answers x m P a) : (x.run m).1 = a := by
  obtain ⟨es, -, hrun⟩ := h
  rw [hrun]

/-! ## Computations that only note -/

section

variable {P : Event → Prop} {x : StateM Machine α} {f : α → StateM Machine β}

/-- On every machine the computation notes events with the property `P`, and does nothing else
to the machine. -/
def Notes (P : Event → Prop) (x : StateM Machine α) : Prop := ∀ m, ∃ a, Answers x m P a

theorem notes_pure (a : α) : Notes P (pure a) := fun m => ⟨a, answers_pure a m P⟩

theorem Notes.bind (hx : Notes P x) (hf : ∀ a, Notes P (f a)) : Notes P (x >>= f) := by
  intro m
  obtain ⟨a, es, hes, hrun⟩ := hx m
  obtain ⟨b, hb⟩ := hf a (m.extend es)
  refine ⟨b, ?_⟩
  obtain ⟨es', hes', hrun'⟩ := hb
  refine ⟨es ++ es', fun e he => ?_, ?_⟩
  · rcases List.mem_append.mp he with he | he
    · exact hes e he
    · exact hes' e he
  · rw [run_bind_of_eq hrun, hrun', Machine.extend_extend]

theorem Notes.get_bind {f : Machine → StateM Machine β} (hf : ∀ m, Notes P (f m)) :
    Notes P (get >>= f) := fun m => hf m m

theorem notes_note {e : Event} (h : P e) : Notes P (Machine.note e) := by
  intro m
  refine ⟨(), [e], fun e' he' => ?_, rfl⟩
  rw [List.mem_singleton.mp he']
  exact h

theorem notes_answerCall {call : Call} (h : ∀ outcome, P (.called call outcome))
    (answer : Except Errno α) : Notes P (Machine.answerCall call answer) := by
  unfold Machine.answerCall
  cases answer <;> exact (notes_note (h _)).bind fun _ => notes_pure _

theorem notes_query {call : Call} (h : ∀ outcome, P (.called call outcome)) (handle : Nat)
    (ask : Node → Except Errno α) : Notes P (Machine.query call handle ask) :=
  Notes.get_bind fun _ => notes_answerCall h _

end

end MediaPairing
