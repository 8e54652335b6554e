import Mathlib.Data.List.Nodup
import MediaPairing.Machine.System
import MediaPairing.Proofs.Discovery.Keeping
import MediaPairing.Proofs.Machine.Backend

/-!
# Handles in custody

A caller that works with what the searches hand over holds handles of its own: it asks them
between the searches and closes them in the end. The handles that are held form a stack. An
open puts one on top and a close takes the top one away; only handles on the stack are asked.

* `given`, `closes`: the handles that the events have opened and closed.
* `Custody held es held'`: the events lead from one stack to another.
* `Custody.count_eq`: what was opened was closed as often, or is still held.
* `Custody.asked`, `Custody.closed_once`: what this means for a query, and for an open, in the
  middle of the events.
* `Tidy m₀ own m`: since `m₀` the handles `own` have come into custody, and no other handle
  has changed.
* `Account`, `keeps_changing`: a machine keeps account of that, even if its world is another one at
  each call.
-/

namespace MediaPairing

/-! ## Events and handles -/

theorem Call.handle?_of_attempt {call : Call} (h : call.attempt?.isSome) : call.handle? = none := by
  cases call with
  | openVideo path => rfl
  | openMedia path => rfl
  | _ => exact absurd h Bool.false_ne_true

namespace Event

/-- The handle that an event gives. -/
def gives? : Event → Option Nat
  | called call (.opened handle) => if call.attempt?.isSome then some handle else none
  | _ => none

def closes? : Event → Option Nat
  | closed handle => some handle
  | _ => none

/-- The handle that an event asks. -/
def asks? : Event → Option Nat
  | called call _ => call.handle?
  | _ => none

/-- The event opens and closes nothing, and asks no handle but those that are held. -/
structure Within (held : List Nat) (e : Event) : Prop where
  gives_eq : e.gives? = none
  closes_eq : e.closes? = none
  asks_mem : ∀ handle, e.asks? = some handle → handle ∈ held

section

variable {held : List Nat} {e : Event} {call : Call}

theorem Idle.gives?_eq_none (h : e.Idle) : e.gives? = none := by
  cases e with
  | called call outcome =>
    have hnone : call.attempt? = none := h
    cases outcome <;> simp [gives?, hnone]
  | _ => rfl

theorem Idle.closes?_eq_none (h : e.Idle) : e.closes? = none := by
  cases e with
  | closed handle => cases h
  | _ => rfl

theorem within_of_listing {dir : Path} (h : e.listing? = some dir) : e.Within held where
  gives_eq := (idle_of_listing h).gives?_eq_none
  closes_eq := (idle_of_listing h).closes?_eq_none
  asks_mem := by
    intro handle hasks
    cases e with
    | called call outcome =>
      cases call with
      | list dir' => cases hasks
      | _ => cases h
    | _ => cases h

theorem within_logged (r : LogRecord) (held : List Nat) : (logged r).Within held :=
  ⟨rfl, rfl, fun _ h => by cases h⟩

theorem within_refused (hcall : call.attempt?.isSome) (e : Errno) (held : List Nat) :
    (called call (.failed e)).Within held where
  gives_eq := rfl
  closes_eq := rfl
  asks_mem := by
    intro handle hasks
    have hnone := Call.handle?_of_attempt hcall
    rw [show call.handle? = some handle from hasks] at hnone
    cases hnone

end

/-- How an event changes the stack of the handles that are held. -/
inductive Moves : List Nat → Event → List Nat → Prop
  | within {held : List Nat} {e : Event} (h : e.Within held) : Moves held e held
  | opened {held : List Nat} {call : Call} {handle : Nat} (hcall : call.attempt?.isSome) :
    Moves held (called call (.opened handle)) (handle :: held)
  | closed {held : List Nat} {handle : Nat} : Moves (handle :: held) (closed handle) held

end Event

/-- The handles that were given, in order. -/
def given (es : List Event) : List Nat := es.filterMap Event.gives?

/-- The handles that were closed, in order. -/
def closes (es : List Event) : List Nat := es.filterMap Event.closes?

theorem given_append (es es' : List Event) : given (es ++ es') = given es ++ given es' :=
  List.filterMap_append

theorem closes_append (es es' : List Event) : closes (es ++ es') = closes es ++ closes es' :=
  List.filterMap_append

/-! ## The stack along a list of events -/

/-- The events lead from the handles `held` to the handles `held'`. -/
inductive Custody : List Nat → List Event → List Nat → Prop
  | nil {held : List Nat} : Custody held [] held
  | cons {held held' held'' : List Nat} {e : Event} {es : List Event}
    (he : e.Moves held held') (hes : Custody held' es held'') : Custody held (e :: es) held''

namespace Custody

variable {held held' held'' : List Nat} {es es' : List Event} {e : Event}

theorem of_within (h : ∀ e ∈ es, e.Within held) : Custody held es held := by
  induction es with
  | nil => exact .nil
  | cons e rest ih =>
    exact .cons (.within (h e List.mem_cons_self))
      (ih fun e' he' => h e' (List.mem_cons_of_mem e he'))

theorem append (h : Custody held es held') (h' : Custody held' es' held'') :
    Custody held (es ++ es') held'' := by
  induction h with
  | nil => exact h'
  | cons he _ ih => exact .cons he (ih h')

theorem split (h : Custody held (es ++ es') held'') :
    ∃ held', Custody held es held' ∧ Custody held' es' held'' := by
  induction es generalizing held with
  | nil => exact ⟨held, .nil, h⟩
  | cons e rest ih =>
    cases h with
    | cons he hrest =>
      obtain ⟨held', hbefore, hafter⟩ := ih hrest
      exact ⟨held', .cons he hbefore, hafter⟩

/-- A handle is closed as often as it was given, but for being held. -/
theorem count_eq (h : Custody held es held') (handle : Nat) :
    (closes es).count handle + held'.count handle =
      (given es).count handle + held.count handle := by
  induction h with
  | nil => rfl
  | @cons held₁ held₂ held₃ e es he _ ih =>
    unfold closes given at ih ⊢
    cases he with
    | within hwithin =>
      rw [List.filterMap_cons_none hwithin.closes_eq, List.filterMap_cons_none hwithin.gives_eq]
      exact ih
    | @opened held call handle' hcall =>
      have hgives : Event.gives? (.called call (.opened handle')) = some handle' := if_pos hcall
      rw [List.filterMap_cons_none rfl, List.filterMap_cons_some hgives, List.count_cons]
      rw [List.count_cons] at ih
      omega
    | @closed held handle' =>
      have hcloses : Event.closes? (.closed handle') = some handle' := rfl
      rw [List.filterMap_cons_some hcloses, List.filterMap_cons_none rfl, List.count_cons,
        List.count_cons]
      omega

/-- What is held at last was given on the way, if it was not held before. -/
theorem mem_given (h : Custody [] es held') {handle : Nat} (hmem : handle ∈ held') :
    handle ∈ given es := by
  have hcount := h.count_eq handle
  have hpos := List.count_pos_iff.mpr hmem
  rw [List.count_nil] at hcount
  exact List.count_pos_iff.mp (by omega)

/-- A handle that is asked was given before, and not closed since. -/
theorem asked {before after : List Event} (h : Custody [] (before ++ e :: after) held')
    (hnodup : (given (before ++ e :: after)).Nodup) {handle : Nat}
    (hasks : e.asks? = some handle) : handle ∈ given before ∧ handle ∉ closes before := by
  obtain ⟨held, hbefore, hafter⟩ := h.split
  cases hafter with
  | cons he _ =>
    have hmem : handle ∈ held := by
      cases he with
      | within hwithin => exact hwithin.asks_mem handle hasks
      | @opened _ call _ hcall =>
        have hnone := Call.handle?_of_attempt hcall
        rw [show call.handle? = some handle from hasks] at hnone
        cases hnone
      | closed => cases hasks
    have hgiven := hbefore.mem_given hmem
    refine ⟨hgiven, fun hclosed => ?_⟩
    rw [given_append] at hnodup
    -- a handle that is held again would have been given twice
    have honce := List.nodup_iff_count_le_one.mp (List.nodup_append.mp hnodup).1 handle
    have hcount := hbefore.count_eq handle
    have hheld := List.count_pos_iff.mpr hmem
    have hcloses := List.count_pos_iff.mpr hclosed
    rw [List.count_nil] at hcount
    omega

/-- Where nothing is held at last, a handle is closed once after it was given, and not
before. -/
theorem closed_once {before after : List Event} (h : Custody [] (before ++ e :: after) [])
    (hnodup : (given (before ++ e :: after)).Nodup) {handle : Nat}
    (hgives : e.gives? = some handle) :
    (closes before).count handle = 0 ∧ (closes after).count handle = 1 := by
  have hgiven : given (e :: after) = handle :: given after := List.filterMap_cons_some hgives
  have hcloses : closes (e :: after) = closes after := by
    refine List.filterMap_cons_none ?_
    cases e with
    | closed handle' => cases hgives
    | _ => rfl
  have honce := List.nodup_iff_count_le_one.mp hnodup handle
  obtain ⟨held, hbefore, -⟩ := h.split
  have hcount := h.count_eq handle
  have hcount' := hbefore.count_eq handle
  simp only [given_append, closes_append, hgiven, hcloses, List.count_append, List.count_cons,
    beq_self_eq_true, if_true, List.count_nil] at honce hcount hcount'
  omega

end Custody

/-! ## From machine to machine -/

/-- Since `m₀` the handles `own` have come into custody, the last one first, and no other handle
has become open or was closed. -/
structure Tidy (m₀ : Machine) (own : List (Nat × Path)) (m : Machine) : Prop where
  journal_eq : ∃ es, m.journal = m₀.journal ++ es ∧ Custody [] es (own.map Prod.fst) ∧
    (given es).Nodup ∧ ∀ handle ∈ given es, m₀.nextHandle ≤ handle ∧ handle < m.nextHandle
  handles_eq : m.handles = m₀.handles ++ own.reverse
  nextHandle_le : m₀.nextHandle ≤ m.nextHandle

theorem tidy_refl (m : Machine) : Tidy m [] m where
  journal_eq := ⟨[], (List.append_nil _).symm, .nil, List.nodup_nil, fun _ h => by cases h⟩
  handles_eq := (List.append_nil _).symm
  nextHandle_le := Nat.le_refl _

namespace Tidy

variable {m₀ m : Machine} {own : List (Nat × Path)} {es : List Event}

/-- The numbers of the handles that are held. -/
theorem own_bounds (h : Tidy m₀ own m) {p : Nat × Path} (hp : p ∈ own) :
    m₀.nextHandle ≤ p.1 ∧ p.1 < m.nextHandle := by
  obtain ⟨es, -, hcustody, -, hbounds⟩ := h.journal_eq
  exact hbounds p.1 (hcustody.mem_given (List.mem_map_of_mem hp))

theorem extend (h : Tidy m₀ own m) (hes : ∀ e ∈ es, e.Within (own.map Prod.fst)) :
    Tidy m₀ own (m.extend es) where
  journal_eq := by
    obtain ⟨es₀, hjournal, hcustody, hnodup, hbounds⟩ := h.journal_eq
    have hgiven : given es = [] := List.filterMap_eq_nil_iff.mpr fun e he => (hes e he).gives_eq
    refine ⟨es₀ ++ es, ?_, hcustody.append (.of_within hes), ?_, ?_⟩
    · rw [Machine.extend_journal, hjournal, List.append_assoc]
    · rw [given_append, hgiven, List.append_nil]
      exact hnodup
    · rw [given_append, hgiven, List.append_nil]
      exact hbounds
  handles_eq := h.handles_eq
  nextHandle_le := h.nextHandle_le

/-- A node is opened. -/
theorem keep (h : Tidy m₀ own m) {call : Call} (hcall : call.attempt?.isSome) (path : Path) :
    Tidy m₀ ((m.nextHandle, path) :: own)
      (m.keep path [.called call (.opened m.nextHandle)]) where
  journal_eq := by
    obtain ⟨es, hjournal, hcustody, hnodup, hbounds⟩ := h.journal_eq
    have hgives : Event.gives? (.called call (.opened m.nextHandle)) = some m.nextHandle :=
      if_pos hcall
    have hgiven : given [.called call (.opened m.nextHandle)] = [m.nextHandle] :=
      List.filterMap_cons_some hgives
    refine ⟨es ++ [.called call (.opened m.nextHandle)], ?_,
      hcustody.append (.cons (.opened hcall) .nil), ?_, ?_⟩
    · change m.journal ++ _ = _
      rw [hjournal, List.append_assoc]
    · rw [given_append, hgiven, ← List.concat_eq_append, List.nodup_concat]
      exact ⟨fun hmem => Nat.lt_irrefl _ (hbounds _ hmem).2, hnodup⟩
    · intro handle hmem
      rw [given_append, hgiven] at hmem
      rcases List.mem_append.mp hmem with hmem | hmem
      · exact ⟨(hbounds handle hmem).1, Nat.lt_succ_of_lt (hbounds handle hmem).2⟩
      · rw [List.mem_singleton.mp hmem]
        exact ⟨h.nextHandle_le, Nat.lt_succ_self _⟩
  handles_eq := by
    rw [Machine.keep_handles, h.handles_eq, List.reverse_cons, List.append_assoc]
  nextHandle_le := Nat.le_succ_of_le h.nextHandle_le

/-- The handle that was opened last is closed. -/
theorem shut {p : Nat × Path} (hm : m₀.Fresh) (h : Tidy m₀ (p :: own) m) :
    Tidy m₀ own (m.shut p.1) where
  journal_eq := by
    obtain ⟨es, hjournal, hcustody, hnodup, hbounds⟩ := h.journal_eq
    have hgiven : given (es ++ [.closed p.1]) = given es := by
      rw [given_append]
      exact List.append_nil _
    rw [List.map_cons] at hcustody
    refine ⟨es ++ [.closed p.1], ?_, hcustody.append (.cons .closed .nil), ?_, ?_⟩
    · rw [Machine.shut_journal, hjournal, List.append_assoc]
    · rw [hgiven]
      exact hnodup
    · rw [hgiven]
      exact hbounds
  handles_eq := by
    obtain ⟨es, -, hcustody, hnodup, -⟩ := h.journal_eq
    have hother : ∀ q ∈ m₀.handles ++ own.reverse, (q.1 != p.1) = true := by
      intro q hq
      rw [bne_iff_ne]
      rcases List.mem_append.mp hq with hq | hq
      · have hlt := hm q hq
        have hle := (h.own_bounds List.mem_cons_self).1
        omega
      · -- the same handle cannot be on the stack twice
        intro heq
        have hcount := hcustody.count_eq p.1
        have honce := List.nodup_iff_count_le_one.mp hnodup p.1
        have hmem : p.1 ∈ own.map Prod.fst := by
          rw [← heq]
          exact List.mem_map_of_mem (List.mem_reverse.mp hq)
        have hpos := List.count_pos_iff.mpr hmem
        rw [List.map_cons, List.count_cons_self, List.count_nil] at hcount
        omega
    change m.handles.filter (·.1 != p.1) = _
    rw [h.handles_eq, List.reverse_cons, ← List.append_assoc, List.filter_append,
      List.filter_eq_self.mpr hother]
    simp
  nextHandle_le := h.nextHandle_le

end Tidy

/-! ## Machines that change -/

/-- The event opens, closes and prints nothing, and asks no handle but those that are held. -/
def Event.Silent (held : List Nat) (e : Event) : Prop := e.Within held ∧ e.reportLine? = none

/-- Since `m₀` the handles `held` have come into custody, and the lines that were printed have the
property `P`. -/
structure Account (m₀ : Machine) (P : List ReportLine → Prop) (held : List Nat) (m : Machine) :
    Prop where
  tidy : ∃ own, own.map Prod.fst = held ∧ Tidy m₀ own m
  lines : P m.reportLines

theorem reportLines_extend (m : Machine) (es : List Event) :
    (m.extend es).reportLines = m.reportLines ++ printed es := printed_append m.journal es

namespace Event

variable {held : List Nat}

theorem silent_logged (r : LogRecord) : (logged r).Silent held := ⟨within_logged r held, rfl⟩

/-- A call that opens nothing, and asks no handle but those that are held. -/
theorem silent_called {call : Call} (hopen : call.attempt? = none)
    (hasks : ∀ handle, call.handle? = some handle → handle ∈ held) (outcome : Outcome) :
    (called call outcome).Silent held where
  left :=
    { gives_eq := by cases outcome <;> simp [gives?, hopen]
      closes_eq := rfl
      asks_mem := hasks }
  right := rfl

end Event

section

variable {α : Type} {m₀ : Machine} {P : List ReportLine → Prop} {held : List Nat}

theorem Account.extend {m : Machine} (h : Account m₀ P held m) {es : List Event}
    (hes : ∀ e ∈ es, e.Silent held) : Account m₀ P held (m.extend es) where
  tidy := by
    obtain ⟨own, rfl, htidy⟩ := h.tidy
    exact ⟨own, rfl, htidy.extend fun e he => (hes e he).1⟩
  lines := by
    have hnone : printed es = [] := List.filterMap_eq_nil_iff.mpr fun e he => (hes e he).2
    rw [reportLines_extend, hnone, List.append_nil]
    exact h.lines

theorem leads_of_notes {x : StateM Machine α} (hx : Notes (Event.Silent held) x) :
    Leads (Account m₀ P held) x fun _ => Account m₀ P held := by
  intro m h
  obtain ⟨a, es, hes, hrun⟩ := hx m
  rw [hrun]
  exact h.extend hes

theorem leads_open {opening : Path → StateM Machine (Except Errno Nat)}
    {call : Path → Call} (hopens : Backend.kernel.Opens opening call)
    (hcall : ∀ path, (call path).attempt?.isSome) (path : Path) :
    Leads (Account m₀ P held) (opening path) (Gained (Account m₀ P) held id) := by
  rintro m ⟨⟨own, rfl, htidy⟩, hlines⟩
  rw [hopens path m]
  cases Backend.kernel.reach m.world path with
  | error e =>
    refine Account.extend ⟨⟨own, rfl, htidy⟩, hlines⟩ fun e' he' => ?_
    split at he'
    · rw [List.mem_singleton.mp he']
      exact ⟨Event.within_refused (hcall path) e _, rfl⟩
    · cases he'
  | ok n =>
    refine ⟨⟨(m.nextHandle, path) :: own, rfl, htidy.keep (hcall path) path⟩, ?_⟩
    have hsame : (m.keep path [.called (call path) (.opened m.nextHandle)]).reportLines =
        m.reportLines := by
      rw [← List.append_nil m.reportLines]
      exact printed_append m.journal _
    dsimp only
    rw [hsame]
    exact hlines

theorem leads_close (hm : m₀.Fresh) (fd : Nat) :
    Leads (Account m₀ P (fd :: held)) (Machine.close fd) fun _ => Account m₀ P held := by
  rintro m ⟨⟨own, hown, htidy⟩, hlines⟩
  obtain ⟨p, rest, rfl, rfl, rfl⟩ := List.map_eq_cons_iff.mp hown
  refine ⟨⟨rest, rfl, htidy.shut hm⟩, ?_⟩
  have hsame : (m.shut p.1).reportLines = m.reportLines := by
    rw [← List.append_nil m.reportLines]
    exact printed_append m.journal _
  rw [Machine.close_run, hsame]
  exact hlines

/-- Handles and lines have nothing to do with the world. -/
theorem leads_amid {Q : α → Machine → Prop} {x : StateM Machine α}
    (hx : Leads (Account m₀ P held) x Q) (change : Machine.Change) :
    Leads (Account m₀ P held) (Machine.amid change x) Q := by
  rintro m ⟨⟨own, hown, htidy⟩, hlines⟩
  exact hx _ ⟨⟨own, hown, htidy.journal_eq, htidy.handles_eq, htidy.nextHandle_le⟩, hlines⟩

theorem notes_listKernel (dir : Path) : Notes (Event.Silent held) (Machine.listKernel dir) := by
  intro m
  refine ⟨_, (Backend.entries_answers .kernel dir m).mono fun e he => ?_⟩
  exact ⟨Event.within_of_listing he, Event.reportLine?_of_listing he⟩

/-- A question to a handle that is held. -/
theorem notes_asking {call : Call} {fd : Nat} (hcall : call.handle? = some fd)
    (hopen : call.attempt? = none) (hfd : fd ∈ held) (ask : Node → Except Errno α) :
    Notes (Event.Silent held) (Machine.query call fd ask) := by
  refine notes_query (Event.silent_called hopen ?_) fd ask
  intro handle hasks
  rw [hcall] at hasks
  exact Option.some.inj hasks ▸ hfd

theorem notes_fillKernel {fd : Nat} (hfd : fd ∈ held) (buffer : List Interface) :
    Notes (Event.Silent held) (Machine.fillKernel fd buffer) := by
  unfold Machine.fillKernel
  cases Machine.capacityWord? buffer with
  | none => exact notes_pure _
  | some capacity =>
    refine (notes_asking rfl rfl hfd _).bind fun filled => ?_
    cases filled <;> exact notes_pure _

theorem notes_readText (path : Path) : Notes (Event.Silent held) (Machine.readText path) := by
  unfold Machine.readText
  split
  · exact notes_pure _
  · have hread : ∀ outcome, (Event.called (.read path) outcome).Silent held :=
      Event.silent_called rfl fun _ hasks => by cases hasks
    refine Notes.get_bind fun m => (notes_answerCall hread _).bind fun read => ?_
    cases read with
    | error e => exact notes_pure _
    | ok bytes =>
      dsimp only
      cases Utf8.decode? bytes <;> exact notes_pure _

theorem leads_changed {x : StateM Machine α} (hx : Notes (Event.Silent held) x)
    (change : Machine.Change) :
    Leads (Account m₀ P held) (Machine.amid change x) fun _ => Account m₀ P held :=
  leads_amid (leads_of_notes hx) change

/-- A machine keeps account of its handles, whatever becomes of its world. -/
theorem keeps_changing (hm : m₀.Fresh) (P : List ReportLine → Prop) (change : Machine.Change) :
    (Machine.changing change).Keeps (Account m₀ P) where
  entries _ dir := leads_changed (notes_listKernel dir) change
  openVideo _ path :=
    leads_amid (leads_open (Backend.opens_video .kernel) (fun _ => rfl) path) change
  openMedia _ path :=
    leads_amid (leads_open (Backend.opens_media .kernel) (fun _ => rfl) path) change
  capability _ _ hfd :=
    leads_changed ((notes_asking rfl rfl hfd _).bind fun _ => notes_pure _) change
  mediaInfo _ _ hfd :=
    leads_changed ((notes_asking rfl rfl hfd _).bind fun _ => notes_pure _) change
  deviceNumber _ _ hfd :=
    leads_changed ((notes_asking rfl rfl hfd _).bind fun _ => notes_pure _) change
  interfaceCount _ _ hfd := leads_changed (notes_asking rfl rfl hfd _) change
  fillInterfaces _ _ hfd buffer := leads_changed (notes_fillKernel hfd buffer) change
  format _ _ hfd _ _ := leads_changed (notes_asking rfl rfl hfd _) change
  readText _ path := leads_changed (notes_readText path) change
  close _ fd := leads_close hm fd
  log _ r := leads_of_notes (notes_note (Event.silent_logged r))

/-- Where it does not matter what is printed, a line changes nothing either. -/
theorem leads_print (line : ReportLine) :
    Leads (Account m₀ (fun _ => True) held) (Machine.print line)
      fun _ => Account m₀ (fun _ => True) held := by
  rintro m ⟨⟨own, rfl, htidy⟩, -⟩
  have hwithin : ∀ e ∈ [Event.printed line], e.Within (own.map Prod.fst) := by
    intro e he
    rw [List.mem_singleton.mp he]
    exact ⟨rfl, rfl, fun _ hasks => by cases hasks⟩
  exact ⟨⟨own, rfl, htidy.extend hwithin⟩, trivial⟩

end

end MediaPairing
