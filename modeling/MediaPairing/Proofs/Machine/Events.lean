import MediaPairing.Machine.Trace

/-!
# Events by what they touch

An event may concern an open node (`Event.About`), and be a call on it (`Event.Asking`); it may
try to open one, list a directory, print a line, or close a handle.

* `attempts`, `listings` and `printed` pick the tried paths, the listed directories and the
  printed lines from a list of events.
* `Tries es paths`: the events are those of trying the nodes at `paths`, in this order, and
  print nothing.
-/

namespace MediaPairing

namespace Call

/-- The handle that a call asks. -/
def handle? : Call → Option Nat
  | capability h | mediaInfo h | deviceNumber h | interfaceCount h | fillInterfaces _ h
  | format _ _ h => some h
  | list _ | openVideo _ | openMedia _ | read _ => none

/-- The path that a call tries to open. -/
def attempt? : Call → Option Path
  | openVideo path | openMedia path => some path
  | _ => none

/-- The directory that a call lists. -/
def listing? : Call → Option Path
  | list dir => some dir
  | _ => none

end Call

namespace Event

/-- The event of working with the open node at `handle`: a call on it, or a log record. -/
def About (handle : Nat) : Event → Prop
  | called call _ => call.handle? = some handle
  | logged _ => True
  | closed _ | printed _ => False

/-- The event of asking the open node at `handle`. -/
def Asking (handle : Nat) : Event → Prop
  | called call _ => call.handle? = some handle
  | _ => False

/-- The event of reading a file. -/
def Reads : Event → Prop
  | called call _ => ∃ path, call = .read path
  | _ => False

/-- The event neither tries to open a node nor closes a handle. -/
def Idle : Event → Prop
  | called call _ => call.attempt? = none
  | logged _ | printed _ => True
  | closed _ => False

def attempt? : Event → Option Path
  | called call _ => call.attempt?
  | _ => none

def listing? : Event → Option Path
  | called call _ => call.listing?
  | _ => none

theorem About.call {handle : Nat} {call : Call} (h : call.handle? = some handle)
    (outcome : Outcome) : About handle (called call outcome) := h

theorem Asking.about {handle : Nat} {e : Event} (h : e.Asking handle) : e.About handle := by
  cases e with
  | called call outcome => exact h
  | _ => cases h

theorem Asking.logRecord?_eq_none {handle : Nat} {e : Event} (h : e.Asking handle) :
    e.logRecord? = none := by
  cases e with
  | logged r => cases h
  | _ => rfl

theorem About.idle {handle : Nat} {e : Event} (h : e.About handle) : e.Idle := by
  cases e with
  | called call outcome =>
    cases call with
    | openVideo path => cases h
    | openMedia path => cases h
    | _ => rfl
  | closed handle' => cases h
  | logged r => trivial
  | printed line => cases h

theorem idle_of_listing {e : Event} {dir : Path} (h : e.listing? = some dir) : e.Idle := by
  cases e with
  | called call outcome =>
    cases call with
    | list dir' => rfl
    | _ => cases h
  | _ => cases h

theorem Idle.attempt?_eq_none {e : Event} (h : e.Idle) : e.attempt? = none := by
  cases e with
  | called call outcome => exact h
  | _ => rfl

theorem About.listing?_eq_none {handle : Nat} {e : Event} (h : e.About handle) :
    e.listing? = none := by
  cases e with
  | called call outcome =>
    cases call with
    | list dir => cases h
    | _ => rfl
  | _ => rfl

theorem About.reportLine?_eq_none {handle : Nat} {e : Event} (h : e.About handle) :
    e.reportLine? = none := by
  cases e with
  | printed line => cases h
  | _ => rfl

theorem Reads.reportLine?_eq_none {e : Event} (h : e.Reads) : e.reportLine? = none := by
  cases e with
  | printed line => cases h
  | _ => rfl

theorem reportLine?_of_listing {e : Event} {dir : Path} (h : e.listing? = some dir) :
    e.reportLine? = none := by
  cases e with
  | printed line => cases h
  | _ => rfl

end Event

/-- The paths that were tried to be opened, in order. -/
def attempts (es : List Event) : List Path := es.filterMap Event.attempt?

/-- The directories that were listed, in order. -/
def listings (es : List Event) : List Path := es.filterMap Event.listing?

/-- The lines that were printed, in order. -/
def printed (es : List Event) : List ReportLine := es.filterMap Event.reportLine?

/-- The events of trying the nodes at `paths` in turn. -/
structure Tries (es : List Event) (paths : List Path) : Prop where
  attempts_eq : attempts es = paths
  printed_eq : printed es = []

theorem attempts_append (es es' : List Event) :
    attempts (es ++ es') = attempts es ++ attempts es' := List.filterMap_append

theorem printed_append (es es' : List Event) :
    printed (es ++ es') = printed es ++ printed es' := List.filterMap_append

theorem Tries.append {es es' : List Event} {paths paths' : List Path} (h : Tries es paths)
    (h' : Tries es' paths') : Tries (es ++ es') (paths ++ paths') where
  attempts_eq := by rw [attempts_append, h.attempts_eq, h'.attempts_eq]
  printed_eq := by rw [printed_append, h.printed_eq, h'.printed_eq, List.append_nil]

theorem tries_of_about {es : List Event} {handle : Nat} (h : ∀ e ∈ es, e.About handle) :
    Tries es [] where
  attempts_eq := List.filterMap_eq_nil_iff.mpr fun e he => (h e he).idle.attempt?_eq_none
  printed_eq := List.filterMap_eq_nil_iff.mpr fun e he => (h e he).reportLine?_eq_none

theorem listings_of_about {es : List Event} {handle : Nat} (h : ∀ e ∈ es, e.About handle) :
    listings es = [] :=
  List.filterMap_eq_nil_iff.mpr fun e he => (h e he).listing?_eq_none

theorem tries_of_listing {es : List Event} {dir : Path} (h : ∀ e ∈ es, e.listing? = some dir) :
    Tries es [] where
  attempts_eq := List.filterMap_eq_nil_iff.mpr fun e he =>
    (Event.idle_of_listing (h e he)).attempt?_eq_none
  printed_eq := List.filterMap_eq_nil_iff.mpr fun e he => Event.reportLine?_of_listing (h e he)

theorem tries_open {call : Call} {path : Path} (h : call.attempt? = some path)
    (outcome : Outcome) : Tries [.called call outcome] [path] where
  attempts_eq := by simp [attempts, Event.attempt?, h]
  printed_eq := rfl

theorem tries_ask {call : Call} {handle : Nat} (h : call.handle? = some handle)
    (outcome : Outcome) : Tries [.called call outcome] [] := by
  have habout : ∀ e ∈ [Event.called call outcome], e.About handle := by
    intro e he
    rw [List.mem_singleton.mp he]
    exact Event.About.call h outcome
  exact tries_of_about habout

theorem tries_close (handle : Nat) : Tries [.closed handle] [] := ⟨rfl, rfl⟩

theorem tries_log (r : LogRecord) : Tries [.logged r] [] := ⟨rfl, rfl⟩

end MediaPairing
