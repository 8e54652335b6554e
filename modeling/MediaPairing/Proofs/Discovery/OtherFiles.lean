import MediaPairing.Proofs.Machine.Backend
import MediaPairing.Machine.System
import MediaPairing.Probe
import MediaPairing.Resolve

/-!
# Computations that need no files

The nodes of a machine are found, opened and asked without its files. On a machine with other
files such a computation gives the same, and leaves the same machine but for the files; and the
events that lie before it do not matter either.

* `Machine.withFiles`, `Machine.withPast`: the machine with other files, and with more events
  before its own.
* `FileFree`: a computation that needs neither, and prints no line of an interface.
* `Access.WithoutFiles`, `withoutFiles_kernel`, `withoutFiles_direct`: both ways to use a machine
  are like this.
* `fileFree_probe`, `fileFree_resolve`, `fileFree_supportsFormat`, `fileFree_videoInterfaces`: so
  are the searches, and the questions to open devices.
-/

namespace MediaPairing

/-- The machine with other files. -/
def Machine.withFiles (m : Machine) (files : Table (Except Errno Bytes)) : Machine :=
  { m with world := { m.world with files } }

/-- The machine with other files, where the events of `past` lie before its own. -/
def Machine.withPast (m : Machine) (files : Table (Except Errno Bytes)) (past : List Event) :
    Machine :=
  { m with world := { m.world with files }, journal := past ++ m.journal }

/-- The event prints no line of an interface, which may name a device node. -/
def Event.Nameless : Event → Prop
  | printed (.interface ..) => False
  | _ => True

/-- The computation needs neither the files nor what has happened before, and it prints no line
of an interface. -/
structure FileFree {α : Type} (x : StateM Machine α) : Prop where
  run_eq : ∀ files past m,
    x.run (m.withPast files past) = ((x.run m).1, (x.run m).2.withPast files past)
  nameless : ∀ m, (∀ e ∈ m.journal, e.Nameless) → ∀ e ∈ (x.run m).2.journal, e.Nameless

variable {α β τ : Type}

/-! ## Rules -/

section

variable {x : StateM Machine α} {f : α → StateM Machine β} {m m' : Machine} {a : α}

theorem fileFree_pure (a : α) : FileFree (pure a) := ⟨fun _ _ _ => rfl, fun _ h => h⟩

theorem FileFree.withPast_run (hx : FileFree x) (hrun : x.run m = (a, m'))
    (files : Table (Except Errno Bytes)) (past : List Event) :
    x.run (m.withPast files past) = (a, m'.withPast files past) := by
  rw [hx.run_eq, hrun]

theorem FileFree.withFiles_run (hx : FileFree x) (hrun : x.run m = (a, m'))
    (files : Table (Except Errno Bytes)) : x.run (m.withFiles files) = (a, m'.withFiles files) :=
  hx.withPast_run hrun files []

/-- The files are left as they are: with the files that it has, a machine is itself. -/
theorem FileFree.files_eq (hx : FileFree x) (hrun : x.run m = (a, m')) :
    m'.world.files = m.world.files := by
  have hself := hx.withFiles_run hrun m.world.files
  have hsame : m.withFiles m.world.files = m := rfl
  rw [hsame, hrun] at hself
  have hleft : m' = m'.withFiles m.world.files := (Prod.mk.inj hself).2
  rw [hleft]
  rfl

theorem FileFree.bind (hx : FileFree x) (hf : ∀ a, FileFree (f a)) : FileFree (x >>= f) where
  run_eq := by
    intro files past m
    generalize hrun : x.run m = r
    obtain ⟨a, m₁⟩ := r
    rw [run_bind_of_eq hrun, run_bind_of_eq (hx.withPast_run hrun files past), (hf a).run_eq]
  nameless := by
    intro m hm
    have hfirst := hx.nameless m hm
    generalize hrun : x.run m = r at hfirst
    obtain ⟨a, m₁⟩ := r
    rw [run_bind_of_eq hrun]
    exact (hf a).nameless m₁ hfirst

theorem fileFree_forM {l : List β} {f : β → StateM Machine Unit} (h : ∀ b, FileFree (f b)) :
    FileFree (l.forM f) := by
  induction l with
  | nil => exact fileFree_pure ()
  | cons b rest ih => exact (h b).bind fun _ => ih

/-- A computation that looks at the machine first, but neither at its files nor at its journal. -/
theorem fileFree_get_bind {f : Machine → StateM Machine β}
    (hsame : ∀ files past m, f (m.withPast files past) = f m) (hf : ∀ m, FileFree (f m)) :
    FileFree (get >>= f) where
  run_eq := by
    intro files past m
    rw [run_get_bind, run_get_bind, hsame, (hf m).run_eq]
  nameless := fun m => (hf m).nameless m

/-- A computation beside a state that it does not look at. -/
theorem FileFree.lift (hx : FileFree x) (s : τ) :
    FileFree ((liftM x : StateT τ (StateM Machine) α).run s) := by
  change FileFree (do let a ← x; pure (a, s))
  exact hx.bind fun a => fileFree_pure _

theorem fileFree_run_bind {x : StateT τ (StateM Machine) α} {f : α → StateT τ (StateM Machine) β}
    {s : τ} (hx : FileFree (x.run s)) (hf : ∀ a s, FileFree ((f a).run s)) :
    FileFree ((x >>= f).run s) := by
  rw [StateT.run_bind]
  exact hx.bind fun p => hf p.1 p.2

end

/-! ## What a machine does -/

theorem extend_withPast (m : Machine) (files : Table (Except Errno Bytes)) (past es : List Event) :
    (m.withPast files past).extend es = (m.extend es).withPast files past := by
  simp [Machine.extend, Machine.withPast, List.append_assoc]

/-- Events without a name leave the journal without one. -/
theorem nameless_append {es es' : List Event} (hes : ∀ e ∈ es, e.Nameless)
    (hes' : ∀ e ∈ es', e.Nameless) : ∀ e ∈ es ++ es', e.Nameless := by
  intro e he
  rcases List.mem_append.mp he with he | he
  · exact hes e he
  · exact hes' e he

theorem nameless_singleton {e : Event} (he : e.Nameless) : ∀ e' ∈ [e], e'.Nameless := by
  intro e' he'
  rw [List.mem_singleton.mp he']
  exact he

theorem nameless_called (call : Call) (outcome : Outcome) :
    (Event.called call outcome).Nameless := trivial

theorem fileFree_note {e : Event} (he : e.Nameless) : FileFree (Machine.note e) where
  run_eq := by
    intro files past m
    have hrun : ∀ m, (Machine.note e).run m = ((), m.extend [e]) := fun _ => rfl
    rw [hrun, hrun, extend_withPast]
  nameless := fun m hm => nameless_append hm (nameless_singleton he)

theorem fileFree_log (r : LogRecord) : FileFree (Machine.log r) := fileFree_note trivial

theorem fileFree_close (handle : Nat) : FileFree (Machine.close handle) where
  run_eq := by
    intro files past m
    have hshut : (m.withPast files past).shut handle = (m.shut handle).withPast files past := by
      simp [Machine.shut, Machine.withPast, List.append_assoc]
    rw [Machine.close_run, Machine.close_run, hshut]
  nameless := fun m hm => nameless_append hm (nameless_singleton trivial)

theorem fileFree_answerCall (call : Call) (answer : Except Errno α) :
    FileFree (Machine.answerCall call answer) := by
  unfold Machine.answerCall
  cases answer with
  | ok a => exact (fileFree_note (nameless_called call .done)).bind fun _ => fileFree_pure _
  | error e =>
    exact (fileFree_note (nameless_called call (.failed e))).bind fun _ => fileFree_pure _

theorem fileFree_query (call : Call) (handle : Nat) (ask : Node → Except Errno α) :
    FileFree (Machine.query call handle ask) :=
  fileFree_get_bind (fun _ _ _ => rfl) fun _ => fileFree_answerCall _ _

theorem fileFree_list (dir : Path) : FileFree (Machine.list dir) := by
  refine fileFree_get_bind (fun _ _ _ => rfl) fun m => ?_
  refine (fileFree_answerCall _ _).bind fun listed => ?_
  cases listed with
  | error e => exact fileFree_pure _
  | ok entries =>
    dsimp only
    cases readNames entries <;> exact fileFree_pure _

theorem fileFree_of_opens {b : Backend} {opening : Path → StateM Machine (Except Errno Nat)}
    {call : Path → Call} (h : b.Opens opening call) (path : Path) : FileFree (opening path) where
  run_eq := by
    intro files past m
    have hreach : b.reach (m.withPast files past).world path = b.reach m.world path := rfl
    rw [h path m, h path (m.withPast files past), hreach]
    cases b.reach m.world path with
    | error e => simp only [extend_withPast]
    | ok n => simp [Machine.keep, Machine.withPast, List.append_assoc]
  nameless := by
    intro m hm
    rw [h path m]
    cases b.reach m.world path with
    | error e =>
      refine nameless_append hm ?_
      split
      · exact nameless_singleton trivial
      · exact List.forall_mem_nil _
    | ok n => exact nameless_append hm (nameless_singleton trivial)

/-! ## Access -/

/-- What the system does needs no files. -/
structure Access.WithoutFiles (sys : Access Machine Nat) : Prop where
  entries : ∀ dir, FileFree (sys.entries dir)
  openVideo : ∀ path, FileFree (sys.openVideo path)
  openMedia : ∀ path, FileFree (sys.openMedia path)
  capability : ∀ fd, FileFree (sys.capability fd)
  mediaInfo : ∀ fd, FileFree (sys.mediaInfo fd)
  deviceNumber : ∀ fd, FileFree (sys.deviceNumber fd)
  interfaceCount : ∀ fd, FileFree (sys.interfaceCount fd)
  fillInterfaces : ∀ fd buffer, FileFree (sys.fillInterfaces fd buffer)
  close : ∀ fd, FileFree (sys.close fd)
  log : ∀ r, FileFree (sys.log r)

theorem fileFree_listKernel (dir : Path) : FileFree (Machine.listKernel dir) := by
  unfold Machine.listKernel
  split
  · exact fileFree_pure _
  · refine (fileFree_list dir).bind fun listed => ?_
    cases listed <;> exact fileFree_pure _

theorem fileFree_fillKernel (handle : Nat) (buffer : List Interface) :
    FileFree (Machine.fillKernel handle buffer) := by
  unfold Machine.fillKernel
  cases Machine.capacityWord? buffer with
  | none => exact fileFree_pure _
  | some capacity =>
    refine (fileFree_query _ _ _).bind fun filled => ?_
    cases filled <;> exact fileFree_pure _

theorem fileFree_fillDirect (handle : Nat) (buffer : List Interface) :
    FileFree (Machine.fillDirect handle buffer) := by
  unfold Machine.fillDirect
  refine (fileFree_query _ _ _).bind fun filled => ?_
  cases filled <;> exact fileFree_pure _

theorem withoutFiles_kernel : Machine.kernel.WithoutFiles where
  entries := fileFree_listKernel
  openVideo := fileFree_of_opens (Backend.opens_video .kernel)
  openMedia := fileFree_of_opens (Backend.opens_media .kernel)
  capability _ := (fileFree_query _ _ _).bind fun _ => fileFree_pure _
  mediaInfo _ := (fileFree_query _ _ _).bind fun _ => fileFree_pure _
  deviceNumber _ := (fileFree_query _ _ _).bind fun _ => fileFree_pure _
  interfaceCount _ := fileFree_query _ _ _
  fillInterfaces := fileFree_fillKernel
  close := fileFree_close
  log := fileFree_log

theorem withoutFiles_direct : Machine.direct.WithoutFiles where
  entries := fileFree_list
  openVideo := fileFree_of_opens (Backend.opens_video .direct)
  openMedia := fileFree_of_opens (Backend.opens_media .direct)
  capability _ := (fileFree_query _ _ _).bind fun _ => fileFree_pure _
  mediaInfo _ := (fileFree_query _ _ _).bind fun _ => fileFree_pure _
  deviceNumber _ := (fileFree_query _ _ _).bind fun _ => fileFree_pure _
  interfaceCount _ := fileFree_query _ _ _
  fillInterfaces := fileFree_fillDirect
  close := fileFree_close
  log := fileFree_log

/-! ## Open devices -/

section

variable {sys : Access Machine Nat} (hsys : sys.WithoutFiles)

include hsys

theorem fileFree_readInterfaces (path : Path) (fd : Nat) :
    FileFree (readInterfaces sys path fd) := by
  unfold readInterfaces
  refine (hsys.interfaceCount fd).bind fun counted => ?_
  cases counted with
  | error e => exact fileFree_pure _
  | ok count =>
    dsimp only
    split
    · exact fileFree_pure _
    · split
      · exact fileFree_pure _
      · refine (hsys.fillInterfaces fd _).bind fun filled => ?_
        obtain ⟨answer, buffer⟩ := filled
        cases answer <;> exact fileFree_pure _

theorem fileFree_videoInterfaces (media : MediaDevice Nat) :
    FileFree (videoInterfaces sys media) := by
  unfold videoInterfaces
  refine (fileFree_readInterfaces hsys media.path media.fd).bind fun read => ?_
  cases read <;> exact fileFree_pure _

theorem fileFree_anyNumbered (devnum : DeviceNumber) (is : List Interface) :
    FileFree (anyNumbered sys devnum is) := by
  induction is with
  | nil => exact fileFree_pure _
  | cons i rest ih =>
    unfold anyNumbered
    refine (hsys.log _).bind fun _ => ?_
    split
    · exact fileFree_pure _
    · exact ih

theorem fileFree_publishes (media : MediaDevice Nat) (devnum : DeviceNumber) :
    FileFree (publishes sys media devnum) := by
  unfold publishes
  refine (fileFree_readInterfaces hsys media.path media.fd).bind fun read => ?_
  cases read with
  | error e => exact fileFree_pure _
  | ok is => exact (fileFree_anyNumbered hsys devnum _).bind fun _ => fileFree_pure _

theorem fileFree_deviceNumberOf (video : VideoDevice Nat) :
    FileFree (deviceNumberOf sys video) := by
  unfold deviceNumberOf
  refine (hsys.deviceNumber video.fd).bind fun number => ?_
  cases number <;> exact fileFree_pure _

/-! ## Searches -/

theorem fileFree_openVideoDevice (path : Path) : FileFree (openVideoDevice sys path) := by
  unfold openVideoDevice
  refine (hsys.openVideo path).bind fun opened => ?_
  cases opened with
  | error e => exact fileFree_pure _
  | ok fd =>
    refine (hsys.capability fd).bind fun asked => ?_
    cases asked with
    | error e => exact (hsys.close fd).bind fun _ => fileFree_pure _
    | ok capability => exact fileFree_pure _

theorem fileFree_openMediaDevice (path : Path) : FileFree (openMediaDevice sys path) := by
  unfold openMediaDevice
  refine (hsys.openMedia path).bind fun opened => ?_
  cases opened with
  | error e => exact fileFree_pure _
  | ok fd =>
    refine (hsys.mediaInfo fd).bind fun asked => ?_
    cases asked with
    | error e => exact (hsys.close fd).bind fun _ => fileFree_pure _
    | ok info => exact fileFree_pure _

theorem fileFree_probePaths {accept : VideoDevice Nat → StateT τ (StateM Machine) Bool}
    (haccept : ∀ device s, FileFree ((accept device).run s)) (dir : Path) (paths : List Path)
    (s : τ) : FileFree ((probePaths sys dir accept paths).run s) := by
  induction paths generalizing s with
  | nil => exact fileFree_run_bind ((hsys.log _).lift s) fun _ s => fileFree_pure _
  | cons path rest ih =>
    unfold probePaths
    refine fileFree_run_bind ((hsys.log _).lift s) fun _ s => ?_
    refine fileFree_run_bind ((fileFree_openVideoDevice hsys path).lift s) fun opened s => ?_
    cases opened with
    | error e => exact fileFree_run_bind ((hsys.log _).lift s) fun _ s => ih s
    | ok device =>
      refine fileFree_run_bind (haccept device s) fun accepted s => ?_
      cases accepted with
      | true => exact fileFree_run_bind ((hsys.log _).lift s) fun _ s => fileFree_pure _
      | false =>
        refine fileFree_run_bind ((hsys.log _).lift s) fun _ s => ?_
        exact fileFree_run_bind ((hsys.close device.fd).lift s) fun _ s => ih s

theorem fileFree_probe {accept : VideoDevice Nat → StateT τ (StateM Machine) Bool}
    (haccept : ∀ device s, FileFree ((accept device).run s)) (dir : Path) (s : τ) :
    FileFree ((probe sys dir accept).run s) := by
  unfold probe
  refine fileFree_run_bind ((hsys.entries dir).lift s) fun listed s => ?_
  cases listed with
  | error e => exact fileFree_pure _
  | ok names => exact fileFree_probePaths hsys haccept dir _ s

theorem fileFree_resolvePaths (dir : Path) (devnum : DeviceNumber) (paths : List Path) :
    FileFree (resolvePaths sys dir devnum paths) := by
  induction paths with
  | nil => exact (hsys.log _).bind fun _ => fileFree_pure _
  | cons path rest ih =>
    unfold resolvePaths
    refine (hsys.log _).bind fun _ => ?_
    refine (fileFree_openMediaDevice hsys path).bind fun opened => ?_
    cases opened with
    | error e => exact (hsys.log _).bind fun _ => ih
    | ok media =>
      refine (fileFree_publishes hsys media devnum).bind fun published => ?_
      have hskip : ∀ e, FileFree (do
          sys.log (.skipped e); sys.close media.fd; resolvePaths sys dir devnum rest) :=
        fun e => (hsys.log _).bind fun _ => (hsys.close media.fd).bind fun _ => ih
      cases published with
      | ok found =>
        cases found with
        | true => exact (hsys.log _).bind fun _ => fileFree_pure _
        | false => exact (hsys.log _).bind fun _ => (hsys.close media.fd).bind fun _ => ih
      | error e =>
        cases e with
        | allocationFailed count => exact (hsys.close media.fd).bind fun _ => fileFree_pure _
        | _ => exact hskip _

theorem fileFree_resolve (dir : Path) (video : VideoDevice Nat) :
    FileFree (resolve sys dir video) := by
  unfold resolve
  refine (fileFree_deviceNumberOf hsys video).bind fun number => ?_
  cases number with
  | error e => exact fileFree_pure _
  | ok devnum =>
    refine (hsys.log _).bind fun _ => (hsys.entries dir).bind fun listed => ?_
    cases listed with
    | error e => exact fileFree_pure _
    | ok names => exact fileFree_resolvePaths hsys dir devnum _

end

/-! ## Formats -/

theorem fileFree_formatsFrom (handle : Nat) (queue : BufferQueue) (index : Nat) :
    FileFree (Machine.system.formatsFrom handle queue index) := by
  induction index using System.formatsFrom.induct with
  | case1 index hindex ih =>
    rw [System.formatsFrom, if_pos hindex]
    refine (fileFree_query _ _ _).bind fun reply => ?_
    cases reply with
    | error e => exact fileFree_pure _
    | ok record =>
      refine ih.bind fun rest => ?_
      cases rest <;> exact fileFree_pure _
  | case2 index hindex =>
    rw [System.formatsFrom, if_neg hindex]
    exact fileFree_pure _

theorem fileFree_formats (video : VideoDevice Nat) (queue : BufferQueue) :
    FileFree (formats video queue) := by
  unfold formats System.formats
  refine (fileFree_formatsFrom video.fd queue 0).bind fun listed => ?_
  cases listed <;> exact fileFree_pure _

theorem fileFree_anyOffers (video : VideoDevice Nat) (fourcc : FourCc)
    (queues : List BufferQueue) : FileFree (Machine.system.anyOffers video fourcc queues) := by
  induction queues with
  | nil => exact fileFree_pure _
  | cons queue rest ih =>
    unfold System.anyOffers
    refine (fileFree_formats video queue).bind fun listed => ?_
    cases listed with
    | error e => exact fileFree_pure _
    | ok fs =>
      dsimp only
      split
      · exact fileFree_pure _
      · exact ih

theorem fileFree_supportsFormat (video : VideoDevice Nat) (fourcc : FourCc) :
    FileFree (supportsFormat video fourcc) :=
  fileFree_anyOffers video fourcc BufferQueue.all

end MediaPairing
