import MediaPairing.Proofs.Command.ReportText
import MediaPairing.Proofs.Devnode.Lookup
import MediaPairing.Proofs.Discovery.FormatReadout
import MediaPairing.Proofs.Discovery.Pairing

/-!
# The report of a run

A run reports the pair that probing and resolving come to. The report asks both devices
again; as the pair was found, this cannot fail for the number and the interfaces, and the
interface that was matched is among those that are printed. Formats that are asked for are a
matter of their own: a queue that cannot be enumerated ends the report.

* `Prints x m a lines`: the computation gives `a` and prints `lines`, and nothing else that
  matters happens to the machine.
* `printReport_prints`: the report on a pair, line by line; `text_linesWith_ok`,
  `text_linesWith_error`: what it reads.
* `System.pair`: the pair that probing and resolving come to.
* `run_reports`, `run_unpaired`: a run with a pair and a run without one.
* `invoke_prints`: the output of a run with a pair.
* `invoke_reports_pair`: what the command makes of a machine.
-/

namespace MediaPairing

/-! ## Printing -/

section

variable {α β : Type} {x : StateM Machine α} {f : α → StateM Machine β} {m : Machine} {a : α}
  {b : β} {lines lines' : List ReportLine}

/-- On `m` the computation gives `a` and prints `lines`; it notes other events beside that,
and does nothing else to the machine. -/
def Prints (x : StateM Machine α) (m : Machine) (a : α) (lines : List ReportLine) : Prop :=
  ∃ es, printed es = lines ∧ x.run m = (a, m.extend es)

theorem prints_print (line : ReportLine) (m : Machine) :
    Prints (Machine.print line) m () [line] :=
  ⟨[.printed line], rfl, Machine.print_run line m⟩

theorem Answers.prints {P : Event → Prop} (h : Answers x m P a)
    (hP : ∀ e, P e → e.reportLine? = none) : Prints x m a [] := by
  obtain ⟨es, hes, hrun⟩ := h
  exact ⟨es, List.filterMap_eq_nil_iff.mpr fun e he => hP e (hes e he), hrun⟩

theorem prints_pure (a : α) (m : Machine) : Prints (pure a) m a [] :=
  (answers_pure a m fun _ => False).prints fun _ h => h.elim

theorem Prints.bind (hx : Prints x m a lines) (hf : ∀ es, Prints (f a) (m.extend es) b lines') :
    Prints (x >>= f) m b (lines ++ lines') := by
  obtain ⟨es, hlines, hrun⟩ := hx
  obtain ⟨es', hlines', hrun'⟩ := hf es
  refine ⟨es ++ es', ?_, ?_⟩
  · rw [printed_append, hlines, hlines']
  · rw [run_bind_of_eq hrun, hrun', Machine.extend_extend]

/-- A line comes before the lines that are printed after it. -/
theorem prints_print_bind {y : StateM Machine β} (line : ReportLine)
    (hy : ∀ es, Prints y (m.extend es) b lines) :
    Prints (do Machine.print line; y) m b (line :: lines) :=
  (prints_print line m).bind hy

end

/-! ## The lines of a report -/

/-- The line of an interface. -/
def interfaceLine (w : World) (sysDir devDir : Path) (i : Interface) : ReportLine :=
  .interface i.id i.devnode (w.devnode i.devnode sysDir devDir).toOption

theorem printInterfaces_prints (sysDir devDir : Path) (is : List Interface) (m : Machine) :
    Prints (Machine.system.printInterfaces sysDir devDir is) m ()
      (is.map (interfaceLine m.world sysDir devDir)) := by
  induction is generalizing m with
  | nil => exact prints_pure () m
  | cons i rest ih =>
    have hdevnode : Prints (Machine.system.devnodePath i.devnode sysDir devDir) m _ [] :=
      (devnodePath_answers i.devnode sysDir devDir m).prints fun _ =>
        Event.Reads.reportLine?_eq_none
    unfold System.printInterfaces
    refine hdevnode.bind fun es => ?_
    dsimp only [List.map_cons, interfaceLine]
    cases m.world.devnode i.devnode sysDir devDir with
    | error e =>
      have hlog : Prints (Machine.log (.unnamedNode e)) (m.extend es) () [] :=
        ⟨[.logged (.unnamedNode e)], rfl, Machine.log_run _ _⟩
      exact hlog.bind fun es' => prints_print_bind _ fun es'' => ih _
    | ok node => exact prints_print_bind _ fun es' => ih _

/-- The lines of the formats with the code `fourcc` among those of a queue. -/
def formatLines (fourcc : FourCc) (queue : BufferQueue) (fs : List PixelFormat) :
    List ReportLine :=
  (fs.filter (·.fourcc == fourcc)).map (.format queue)

/-- What the report on the formats with the code `fourcc` comes to, with its lines. The first
queue that cannot be enumerated ends it. -/
def formatReport (offered : BufferQueue → Except PairingError (List PixelFormat))
    (fourcc : FourCc) : List BufferQueue → Except PairingError Unit × List ReportLine
  | [] => (.ok (), [])
  | queue :: rest =>
    match offered queue with
    | .error e => (.error e, [])
    | .ok fs =>
      ((formatReport offered fourcc rest).1,
        formatLines fourcc queue fs ++ (formatReport offered fourcc rest).2)

/-- The report on the formats that were asked for, if any were. -/
def formatsAsked (format : Option FourCc)
    (offered : BufferQueue → Except PairingError (List PixelFormat)) :
    Except PairingError Unit × List ReportLine :=
  match format with
  | none => (.ok (), [])
  | some fourcc => formatReport offered fourcc BufferQueue.all

theorem printAll_prints (line : PixelFormat → ReportLine) (fs : List PixelFormat) (m : Machine) :
    Prints (fs.forM fun f => Machine.print (line f)) m () (fs.map line) := by
  induction fs generalizing m with
  | nil => exact prints_pure () m
  | cons f rest ih => exact prints_print_bind _ fun es => ih _

theorem printFormats_prints (video : VideoDevice Nat) (fourcc : FourCc)
    (queues : List BufferQueue) (m : Machine) :
    Prints (Machine.system.printFormats video fourcc queues) m
      (formatReport (video.offered (m.node video.fd)) fourcc queues).1
      (formatReport (video.offered (m.node video.fd)) fourcc queues).2 := by
  induction queues generalizing m with
  | nil => exact prints_pure _ m
  | cons queue rest ih =>
    have hformats : Prints (Machine.system.formats video queue) m _ [] :=
      (formats_answers video queue m).prints fun _ => Event.About.reportLine?_eq_none
    unfold System.printFormats formatReport
    refine hformats.bind fun es => ?_
    cases video.offered (m.node video.fd) queue with
    | error e => exact prints_pure _ _
    | ok fs => exact (printAll_prints _ _ _).bind fun es' => ih _

/-- The report lines on a video node with the number `devnum`. -/
def videoLines (video : VideoDevice Nat) (devnum : DeviceNumber) : List ReportLine :=
  [.video video.path, .videoDriver video.capability.driver, .card video.capability.card,
    .videoBus video.capability.busInfo, .deviceNumber devnum]

/-- The lines on a controller with the interfaces `is`. -/
def Options.mediaLines (o : Options) (w : World) (media : MediaDevice Nat)
    (is : List Interface) : List ReportLine :=
  [.media media.path, .mediaDriver media.info.driver, .model media.info.model,
    .mediaBus media.info.busInfo, .mediaVersion (.ofWord media.info.mediaVersion)] ++
    (is.filter (·.rawType = 0x200)).map (interfaceLine w o.sysDir o.devDir)

/-! What the lines read. -/

theorem text_videoLines (video : VideoDevice Nat) (devnum : DeviceNumber) :
    (videoLines video devnum).map ReportLine.text = videoTexts video devnum := rfl

theorem text_formatLines (fourcc : FourCc) (queue : BufferQueue) (fs : List PixelFormat) :
    (formatLines fourcc queue fs).map ReportLine.text =
      (fs.filter (·.fourcc == fourcc)).map (formatText queue) := by
  rw [formatLines, List.map_map]
  exact List.map_congr_left fun f _ => text_format queue f

theorem text_interfaceLine (o : Options) (m : Machine) (i : Interface) :
    (interfaceLine m.world o.sysDir o.devDir i).text = o.interfaceText m i := by
  unfold Options.interfaceText interfaceLine
  rw [(devnodePath_answers i.devnode o.sysDir o.devDir m).fst_run]
  cases m.world.devnode i.devnode o.sysDir o.devDir <;> rfl

theorem text_mediaLines (o : Options) (m : Machine) (media : MediaDevice Nat)
    (is : List Interface) :
    (o.mediaLines m.world media is).map ReportLine.text = mediaTexts media ++
      (is.filter (·.rawType = 0x200)).map (o.interfaceText m) := by
  have hinterfaces : (interfaceLine m.world o.sysDir o.devDir · |>.text) = o.interfaceText m :=
    funext (text_interfaceLine o m)
  rw [Options.mediaLines, List.map_append, List.map_map, ← hinterfaces]
  unfold mediaTexts
  rw [← text_mediaVersion]
  rfl

section

variable {m : Machine} {video : VideoDevice Nat} {media : MediaDevice Nat}
  {devnum : DeviceNumber} {is : List Interface}

theorem printVideo_prints (format : Option FourCc)
    (hnumber : (m.node video.fd).bind Backend.kernel.number = .ok devnum) :
    Prints (Machine.system.printVideo format video) m
      (formatsAsked format (video.offered (m.node video.fd))).1
      (videoLines video devnum ++ (formatsAsked format (video.offered (m.node video.fd))).2) := by
  have hasked : ∀ m', m'.node video.fd = m.node video.fd →
      Prints (deviceNumberOf Machine.kernel video) m' (.ok devnum) [] := by
    intro m' hnode
    have hanswers := deviceNumberOf_answers .kernel video m'
    rw [Backend.identity, hnode, hnumber] at hanswers
    exact hanswers.prints fun _ => Event.About.reportLine?_eq_none
  unfold System.printVideo
  refine prints_print_bind _ fun es => ?_
  refine prints_print_bind _ fun es => ?_
  refine prints_print_bind _ fun es => ?_
  refine prints_print_bind _ fun es => ?_
  change Prints _ _ _ (.deviceNumber devnum :: (formatsAsked format _).2)
  refine Prints.bind (hasked _ ?_) fun es => ?_
  · rfl
  refine prints_print_bind _ fun es => ?_
  cases format with
  | none => exact prints_pure _ _
  | some fourcc => exact printFormats_prints video fourcc BufferQueue.all _

theorem printMedia_prints (o : Options)
    (hinterfaces : Backend.kernel.interfaces media.path (m.node media.fd) = .ok is) :
    Prints (Machine.system.printMedia o.sysDir o.devDir media) m (.ok ())
      (o.mediaLines m.world media is) := by
  have hasked : ∀ m', m'.node media.fd = m.node media.fd →
      Prints (videoInterfaces Machine.kernel media) m' (.ok (is.filter Interface.isVideo)) [] := by
    intro m' hnode
    have hanswers := videoInterfaces_answers .kernel media m'
    rw [hnode, hinterfaces] at hanswers
    exact hanswers.prints fun _ => Event.About.reportLine?_eq_none
  unfold System.printMedia Options.mediaLines
  rw [← Interface.filter_isVideo]
  refine prints_print_bind _ fun es => ?_
  refine prints_print_bind _ fun es => ?_
  refine prints_print_bind _ fun es => ?_
  refine prints_print_bind _ fun es => ?_
  refine prints_print_bind _ fun es => ?_
  refine Prints.bind (hasked _ ?_) fun es => ?_
  · rfl
  rw [← List.append_nil (List.map _ _)]
  exact (printInterfaces_prints o.sysDir o.devDir _ _).bind fun es => prints_pure _ _

/-- The lines of the report where the report on the formats comes to `formats`: if that fails,
there is nothing on the controller. -/
def Options.linesWith (o : Options) (w : World) (video : VideoDevice Nat)
    (media : MediaDevice Nat) (devnum : DeviceNumber) (is : List Interface)
    (formats : Except PairingError Unit × List ReportLine) : List ReportLine :=
  videoLines video devnum ++ formats.2 ++
    match formats.1 with
    | .ok () => o.mediaLines w media is
    | .error _ => []

/-- A report that goes through reads what there is on the two devices, and on the formats
between. -/
theorem text_linesWith_ok (o : Options) (lines : List ReportLine) :
    (o.linesWith m.world video media devnum is (.ok (), lines)).map ReportLine.text =
      videoTexts video devnum ++ lines.map ReportLine.text ++ mediaTexts media ++
        (is.filter (·.rawType = 0x200)).map (o.interfaceText m) := by
  rw [Options.linesWith, List.map_append, List.map_append, text_videoLines, text_mediaLines,
    List.append_assoc _ (mediaTexts media)]

theorem text_linesWith_error (o : Options) (w : World) (e : PairingError)
    (lines : List ReportLine) :
    (o.linesWith w video media devnum is (.error e, lines)).map ReportLine.text =
      videoTexts video devnum ++ lines.map ReportLine.text := by
  rw [Options.linesWith, List.append_nil, List.map_append, text_videoLines]

theorem printReport_prints (o : Options)
    (hpaired : Backend.kernel.Paired m video media devnum is) :
    Prints (Machine.system.printReport o video media) m
      (formatsAsked o.filters.format (video.offered (m.node video.fd))).1
      (o.linesWith m.world video media devnum is
        (formatsAsked o.filters.format (video.offered (m.node video.fd)))) := by
  unfold System.printReport Options.linesWith
  refine (printVideo_prints o.filters.format hpaired.number_eq).bind fun es => ?_
  cases (formatsAsked o.filters.format (video.offered (m.node video.fd))).1 with
  | error e => exact prints_pure _ _
  | ok done => exact printMedia_prints o hpaired.interfaces_eq

end

/-! ## The run -/

/-- The pair that probing with the filters and then resolving come to, with the state that they
leave. -/
def System.pair {σ Fd : Type} (sys : System σ Fd) (o : Options) (s : σ) :
    Option (VideoDevice Fd × MediaDevice Fd × σ) :=
  match (probeWith sys.toAccess o.devDir (sys.accepts o.filters)).run s with
  | (.error _, _) => none
  | (.ok video, s₁) =>
    match (resolve sys.toAccess o.devDir video).run s₁ with
    | (.error _, _) => none
    | (.ok media, s₂) => some (video, media, s₂)

/-- Whether a device with these formats and capabilities passes the filters. -/
def Filters.passes (f : Filters)
    (offered : BufferQueue → Except PairingError (List PixelFormat)) (c : Capability) : Bool :=
  f.acceptsCapability c &&
    match f.format with
    | none => true
    | some fourcc =>
      match offersOn offered fourcc BufferQueue.all with
      | .ok answer => answer
      | .error _ => false

theorem accepts_answers (f : Filters) (device : VideoDevice Nat) (m : Machine) :
    Answers (Machine.system.accepts f device) m (Event.About device.fd)
      (f.passes (device.offered (m.node device.fd)) device.capability) := by
  unfold System.accepts Filters.passes
  cases f.acceptsCapability device.capability with
  | false => exact answers_pure _ _ _
  | true =>
    rw [Bool.true_and, if_pos rfl]
    cases f.format with
    | none => exact answers_pure _ _ _
    | some fourcc =>
      refine (supportsFormat_answers device fourcc m).bind fun es => ?_
      dsimp only
      cases offersOn (device.offered (m.node device.fd)) fourcc BufferQueue.all with
      | ok answer => exact answers_pure _ _ _
      | error e => exact (answers_log _ _ _).bind fun es' => answers_pure _ _ _

theorem inert_accepts (f : Filters) :
    Inert fun device =>
      (StateT.lift (Machine.system.accepts f device) : StateT Unit (StateM Machine) Bool) :=
  fun device s m => ((accepts_answers f device m).lift s).quiet fun _ => Event.About.idle

/-- On one world the filters decide: they look at the capabilities and at the node's formats. -/
theorem decides_accepts (f : Filters) (w : World) :
    DecidesIn w
      (fun device =>
        (StateT.lift (Machine.system.accepts f device) : StateT Unit (StateM Machine) Bool))
      fun s device => (f.passes (device.offered (w.node device.path)) device.capability, s) := by
  intro device s m hw hopen
  have haccepts := (accepts_answers f device m).lift s
  rw [Machine.node_of_lookup hopen, hw] at haccepts
  exact haccepts

/-- A predicate without a state of its own has only one state. -/
theorem probeWith_run_iff {dir : Path} {accept : VideoDevice Nat → StateM Machine Bool}
    {m m' : Machine} {answer : Except PairingError (VideoDevice Nat)} :
    (probeWith Machine.kernel dir accept).run m = (answer, m') ↔
      ((probe Backend.kernel.access dir fun device => StateT.lift (accept device)).run ()).run m =
        ((answer, ()), m') := by
  constructor
  · intro h
    obtain ⟨hanswer, hleft⟩ := Prod.mk.inj h
    exact Prod.ext (Prod.ext hanswer rfl) hleft
  · intro h
    have h : ((probe Machine.kernel dir fun device => StateT.lift (accept device)).run ()).run m =
        ((answer, ()), m') := h
    unfold probeWith
    rw [run_bind_of_eq h]
    rfl

section

variable {σ Fd : Type} {sys : System σ Fd} {o : Options} {s s₀ s₁ s₂ s₃ s₄ : σ}
  {video : VideoDevice Fd} {media : MediaDevice Fd} {e : PairingError}

theorem pair_of_found
    (hprobe : (probeWith sys.toAccess o.devDir (sys.accepts o.filters)).run s = (.ok video, s₁))
    (hresolve : (resolve sys.toAccess o.devDir video).run s₁ = (.ok media, s₂)) :
    sys.pair o s = some (video, media, s₂) := by
  unfold System.pair
  rw [hprobe]
  dsimp only
  rw [hresolve]

theorem pair_eq_some (h : sys.pair o s = some (video, media, s₂)) :
    ∃ s₁, (probeWith sys.toAccess o.devDir (sys.accepts o.filters)).run s = (.ok video, s₁) ∧
      (resolve sys.toAccess o.devDir video).run s₁ = (.ok media, s₂) := by
  unfold System.pair at h
  split at h
  · cases h
  · rename_i video' s₁ hprobe
    split at h
    · cases h
    · rename_i media' s₂' hresolve
      cases h
      exact ⟨s₁, hprobe, hresolve⟩

theorem pair_eq_none (h : sys.pair o s = none) :
    (∃ e s₁, (probeWith sys.toAccess o.devDir (sys.accepts o.filters)).run s = (.error e, s₁)) ∨
      ∃ video s₁ e s₂,
        (probeWith sys.toAccess o.devDir (sys.accepts o.filters)).run s = (.ok video, s₁) ∧
          (resolve sys.toAccess o.devDir video).run s₁ = (.error e, s₂) := by
  unfold System.pair at h
  split at h
  · rename_i e s₁ hprobe
    exact .inl ⟨e, s₁, hprobe⟩
  · rename_i video s₁ hprobe
    split at h
    · rename_i e s₂ hresolve
      exact .inr ⟨video, s₁, e, s₂, hprobe, hresolve⟩
    · cases h

/-- A run where probing fails. -/
theorem run_unprobed (hready : (sys.log .ready).run s = ((), s₀))
    (hprobe : (probeWith sys.toAccess o.devDir (sys.accepts o.filters)).run s₀ =
      (.error e, s₁)) :
    (sys.run o).run s = (.error (.noVideo e), s₁) := by
  unfold System.run
  rw [run_bind_of_eq hready, run_bind_of_eq hprobe]
  rfl

/-- A run where resolving fails. -/
theorem run_unresolved (hready : (sys.log .ready).run s = ((), s₀))
    (hprobe : (probeWith sys.toAccess o.devDir (sys.accepts o.filters)).run s₀ = (.ok video, s₁))
    (hresolve : (resolve sys.toAccess o.devDir video).run s₁ = (.error e, s₂))
    (hclose : (sys.close video.fd).run s₂ = ((), s₃)) :
    (sys.run o).run s = (.error (.noController video.path e), s₃) := by
  unfold System.run
  rw [run_bind_of_eq hready, run_bind_of_eq hprobe]
  dsimp only
  rw [run_bind_of_eq hresolve]
  dsimp only
  rw [run_bind_of_eq hclose]
  rfl

/-- A run where both devices are found. -/
theorem run_reported {s₅ : σ} {reported : Except PairingError Unit}
    (hready : (sys.log .ready).run s = ((), s₀))
    (hprobe : (probeWith sys.toAccess o.devDir (sys.accepts o.filters)).run s₀ = (.ok video, s₁))
    (hresolve : (resolve sys.toAccess o.devDir video).run s₁ = (.ok media, s₂))
    (hreport : (sys.printReport o video media).run s₂ = (reported, s₃))
    (hmedia : (sys.close media.fd).run s₃ = ((), s₄))
    (hvideo : (sys.close video.fd).run s₄ = ((), s₅)) :
    (sys.run o).run s = (reported.mapError Failure.report, s₅) := by
  unfold System.run
  rw [run_bind_of_eq hready, run_bind_of_eq hprobe]
  dsimp only
  rw [run_bind_of_eq hresolve]
  dsimp only
  rw [run_bind_of_eq hreport, run_bind_of_eq hmedia, run_bind_of_eq hvideo]
  rfl

end

/-! ## A run on a machine that nobody else works with -/

section

variable {o : Options} {m m' m₁ m₂ : Machine} {video : VideoDevice Nat} {media : MediaDevice Nat}

/-- Probing on a machine with another journal, where nothing is printed. -/
theorem probeWith_of_alike (hm : m.Fresh) (h : m.Alike m')
    {answer : Except PairingError (VideoDevice Nat)}
    (hrun : (probeWith Machine.kernel o.devDir (Machine.system.accepts o.filters)).run m =
      (answer, m₁)) :
    ∃ m₁' es,
      (probeWith Machine.kernel o.devDir (Machine.system.accepts o.filters)).run m' =
        (answer, m₁') ∧
      m₁'.journal = m'.journal ++ es ∧ printed es = [] ∧
      ∀ video, answer = .ok video → m₁.Fresh ∧ m₁.Alike m₁' := by
  have hinert := inert_accepts o.filters
  have hrun := probeWith_run_iff.mp hrun
  have hfresh := (probe_progress .kernel hinert o.devDir () hm).fresh hm
  obtain ⟨hanswer, hleft⟩ :=
    probe_alike .kernel (decides_accepts o.filters m.world) hinert hm h o.devDir ()
  obtain ⟨_, hsearched⟩ :=
    probe_searches (decides_accepts o.filters m'.world) (h.fresh hm) o.devDir ()
  obtain ⟨es, hjournal, htries⟩ := hsearched.journal_eq
  rw [hrun] at hanswer hleft hfresh
  refine ⟨_, es, probeWith_run_iff.mpr ?_, hjournal, htries.printed_eq,
    fun video hvideo => ⟨hfresh, hleft video hvideo⟩⟩
  exact Prod.ext hanswer rfl

/-- Resolving on a machine with another journal, where nothing is printed. -/
theorem resolve_of_alike (hm : m.Fresh) (h : m.Alike m') {dir : Path}
    {answer : Except PairingError (MediaDevice Nat)}
    (hrun : (resolve Machine.kernel dir video).run m = (answer, m₁)) :
    ∃ m₁' es, (resolve Machine.kernel dir video).run m' = (answer, m₁') ∧
      m₁'.journal = m'.journal ++ es ∧ printed es = [] ∧
      ∀ media, answer = .ok media → m₁.Alike m₁' := by
  have hrun : (resolve Backend.kernel.access dir video).run m = (answer, m₁) := hrun
  obtain ⟨hanswer, hleft⟩ := resolve_alike .kernel hm h dir video
  obtain ⟨_, hsearched⟩ := (resolve_resolution .kernel (h.fresh hm) dir video).searches
  obtain ⟨es, hjournal, htries⟩ := hsearched.journal_eq
  rw [hrun] at hanswer hleft
  refine ⟨_, es, ?_, hjournal, htries.printed_eq, hleft⟩
  exact Prod.ext hanswer rfl

/-- A run without a pair prints nothing. -/
theorem run_unpaired (hm : m.Fresh) (h : m.Alike m') (hnone : Machine.system.pair o m = none) :
    ∃ f es m'', (Machine.system.run o).run m' = (.error f, m'') ∧ m''.journal = m'.journal ++ es ∧
      printed es = [] := by
  have hready : m.Alike (m'.extend [.logged .ready]) := h.extend _
  rcases pair_eq_none hnone with ⟨e, m₁, hprobe⟩ | ⟨video, m₁, e, m₂, hprobe, hresolve⟩
  · obtain ⟨m₁', es₁, hprobe', hjournal₁, hprinted₁, -⟩ := probeWith_of_alike hm hready hprobe
    refine ⟨_, [.logged .ready] ++ es₁, m₁', run_unprobed (Machine.log_run _ _) hprobe', ?_,
      hprinted₁⟩
    rw [hjournal₁, Machine.extend_journal, List.append_assoc]
  · obtain ⟨m₁', es₁, hprobe', hjournal₁, hprinted₁, hleft⟩ :=
      probeWith_of_alike hm hready hprobe
    obtain ⟨hfresh, halike⟩ := hleft video rfl
    obtain ⟨m₂', es₂, hresolve', hjournal₂, hprinted₂, -⟩ :=
      resolve_of_alike hfresh halike hresolve
    refine ⟨_, [.logged .ready] ++ es₁ ++ es₂ ++ [.closed video.fd], m₂'.shut video.fd,
      run_unresolved (Machine.log_run _ _) hprobe' hresolve' (Machine.close_run _ _), ?_, ?_⟩
    · simp only [Machine.shut_journal, Machine.extend_journal, hjournal₂, hjournal₁,
        List.append_assoc]
    · simp only [printed_append, hprinted₁, hprinted₂, (tries_log _).printed_eq,
        (tries_close _).printed_eq, List.nil_append]

/-- A run with a pair comes to what the report on the formats comes to, if one was asked for. -/
theorem run_reports (hm : m.Fresh) (h : m.Alike m')
    (hsome : Machine.system.pair o m = some (video, media, m₂)) :
    ∃ devnum is, Backend.kernel.Paired m₂ video media devnum is ∧
      ∃ es m'', (Machine.system.run o).run m' =
          ((formatsAsked o.filters.format (video.offered (m₂.node video.fd))).1.mapError
            Failure.report, m'') ∧
        m''.journal = m'.journal ++ es ∧
        printed es = o.linesWith m₂.world video media devnum is
          (formatsAsked o.filters.format (video.offered (m₂.node video.fd))) := by
  have hready : m.Alike (m'.extend [.logged .ready]) := h.extend _
  obtain ⟨m₁, hprobe, hresolve⟩ := pair_eq_some hsome
  obtain ⟨m₁', es₁, hprobe', hjournal₁, hprinted₁, hleft⟩ :=
    probeWith_of_alike hm hready hprobe
  obtain ⟨hfresh, halike₁⟩ := hleft video rfl
  obtain ⟨m₂', es₂, hresolve', hjournal₂, hprinted₂, hleft⟩ :=
    resolve_of_alike hfresh halike₁ hresolve
  have halike₂ := hleft media rfl
  -- the pair that was found on `m` is open on the machine of the run as well
  obtain ⟨devnum, is, hpaired⟩ := resolve_paired .kernel hfresh hresolve
  have hpaired' := hpaired.of_alike halike₂
  obtain ⟨es₃, hprinted₃, hreport⟩ := printReport_prints o hpaired'
  rw [halike₂.world_eq, halike₂.node_eq] at hprinted₃
  rw [halike₂.node_eq] at hreport
  have hrun : (Machine.system.run o).run m' = _ :=
    run_reported (Machine.log_run _ _) hprobe' hresolve' hreport (Machine.close_run _ _)
      (Machine.close_run _ _)
  have hjournal : (((m₂'.extend es₃).shut media.fd).shut video.fd).journal =
      m'.journal ++ ([.logged .ready] ++ es₁ ++ es₂ ++ es₃ ++ [.closed media.fd] ++
        [.closed video.fd]) := by
    simp only [Machine.shut_journal, Machine.extend_journal, hjournal₂, hjournal₁,
      List.append_assoc]
  have hprinted : printed ([.logged .ready] ++ es₁ ++ es₂ ++ es₃ ++ [.closed media.fd] ++
      [.closed video.fd]) = printed es₃ := by
    simp only [printed_append, hprinted₁, hprinted₂, (tries_log _).printed_eq,
      (tries_close _).printed_eq, List.nil_append, List.append_nil]
  exact ⟨devnum, is, hpaired, _, _, hrun, hjournal, hprinted.trans hprinted₃⟩

/-- Searching for a pair leaves the world as it is. -/
theorem world_of_pair (hm : m.Fresh) (hsome : Machine.system.pair o m = some (video, media, m₂)) :
    m₂.world = m.world := by
  obtain ⟨m₁, hprobe, hresolve⟩ := pair_eq_some hsome
  have hprobe := probeWith_run_iff.mp hprobe
  have hresolve : (resolve Backend.kernel.access o.devDir video).run m₁ = (.ok media, m₂) :=
    hresolve
  have hfresh := (probe_progress .kernel (inert_accepts o.filters) o.devDir () hm).fresh hm
  obtain ⟨_, hprobed⟩ :=
    probe_searches (b := .kernel) (decides_accepts o.filters m.world) hm o.devDir ()
  rw [hprobe] at hfresh hprobed
  obtain ⟨_, hresolved⟩ := (resolve_resolution .kernel hfresh o.devDir video).searches
  rw [hresolve] at hresolved
  exact hresolved.world_eq.trans hprobed.world_eq

end

/-! ## The command -/

/-- One option with its value in the next argument. -/
theorem ofArgs_value (reader : TestReader) {name value : Bytes} {option : ValueOption} {d : Draft}
    (hnonempty : name ≠ []) (hsplit : splitName name = (name, none))
    (hname : Flag.ofName? name = some (.value option)) (hseparate : isSeparateValue value = true)
    (hassign : option.assign? reader {} value = some d) :
    Command.ofArgs reader [0x2D :: 0x2D :: name, value] = d.finish := by
  have hgiven : option.isGiven {} = false := by cases option <;> rfl
  have hbody : ¬name.isEmpty = true := by rwa [List.isEmpty_iff]
  rw [Command.ofArgs, readArgs, if_neg hbody]
  simp only [hsplit, hname]
  rw [if_pos hseparate]
  simp only [Draft.assign, hassign, hgiven]
  rfl

/-- The output of a run that has got as far as the report. -/
def reportOutput (text log : String) : Except PairingError Unit → ConsoleOutput
  | .ok () => ⟨0, text, log⟩
  | .error e => ⟨1, text, log ++ (Failure.report e).text⟩

theorem stdout_reportOutput (text log : String) (reported : Except PairingError Unit) :
    (reportOutput text log reported).stdout = text := by
  cases reported <;> rfl

theorem runOutput_report (text log : String) (reported : Except PairingError Unit) :
    runOutput text log (reported.mapError Failure.report) = reportOutput text log reported := by
  cases reported <;> rfl

section

variable {kit : Toolkit} {args : List Bytes} {o : Options} {m : Machine}

/-- An invocation whose arguments ask for a run, by what the run comes to. -/
theorem invoke_run (hargs : Command.ofArgs kit.patterns args = .ok (.run o))
    (logWord : Option String) {sys : System Machine Nat} {n : Machine}
    {outcome : Except Failure Unit} (hrun : (sys.run o).run m.forgetJournal = (outcome, n)) :
    kit.invoke sys args logWord m =
      (runOutput (reportText n.reportLines) (kit.logText logWord o.shownRank n.logRecords) outcome,
        n) := by
  unfold Toolkit.invoke
  rw [hargs]
  dsimp only
  rw [hrun]

/-- Without a pair the command fails. -/
theorem status_of_unpaired (hargs : Command.ofArgs kit.patterns args = .ok (.run o))
    (logWord : Option String) (hm : m.Fresh) (hnone : Machine.system.pair o m = none) :
    (kit.invoke Machine.system args logWord m).1.status = 1 := by
  have halike : m.Alike m.forgetJournal := ⟨rfl, rfl, rfl⟩
  obtain ⟨f, es, m', hrun, -⟩ := run_unpaired hm halike hnone
  rw [invoke_run hargs logWord hrun]
  rfl

variable {video : VideoDevice Nat} {media : MediaDevice Nat} {m₂ : Machine}
  {devnum : DeviceNumber} {is : List Interface}

/-! What the devices of a pair answer when they are asked. -/

theorem number_of_paired (hpaired : Backend.kernel.Paired m₂ video media devnum is) :
    ((deviceNumberOf Machine.kernel video).run m₂).1 = .ok devnum := by
  refine (deviceNumberOf_answers .kernel video m₂).fst_run.trans ?_
  rw [Backend.identity, hpaired.number_eq]
  rfl

theorem interfaces_of_paired (hpaired : Backend.kernel.Paired m₂ video media devnum is) :
    ((readInterfaces Machine.kernel media.path media.fd).run m₂).1 = .ok is :=
  (readInterfaces_answers .kernel media.path media.fd m₂).fst_run.trans hpaired.interfaces_eq

/-- A run with a pair prints the report on that pair. -/
theorem invoke_prints (hargs : Command.ofArgs kit.patterns args = .ok (.run o))
    (logWord : Option String) (hm : m.Fresh)
    (hsome : Machine.system.pair o m = some (video, media, m₂)) :
    ∃ devnum is log, Backend.kernel.Paired m₂ video media devnum is ∧
      (kit.invoke Machine.system args logWord m).2.reportLines =
        o.linesWith m.world video media devnum is
          (formatsAsked o.filters.format (video.offered (m₂.node video.fd))) ∧
      (kit.invoke Machine.system args logWord m).1 =
        reportOutput (reportText (kit.invoke Machine.system args logWord m).2.reportLines) log
          (formatsAsked o.filters.format (video.offered (m₂.node video.fd))).1 := by
  have halike : m.Alike m.forgetJournal := ⟨rfl, rfl, rfl⟩
  obtain ⟨devnum, is, hpaired, es, m', hrun, hjournal, hprinted⟩ := run_reports hm halike hsome
  have hlines : m'.reportLines = printed es := by
    rw [Machine.reportLines, hjournal]
    rfl
  rw [world_of_pair hm hsome] at hprinted
  rw [invoke_run hargs logWord hrun, runOutput_report]
  exact ⟨devnum, is, _, hpaired, hlines.trans hprinted, rfl⟩

/-- A run succeeds exactly if probing and resolving come to a pair, and then reports that pair:
the two nodes, the number of the video node, and the video interfaces of the controller, one of
which carries that number. -/
theorem invoke_reports_pair (hargs : Command.ofArgs kit.patterns args = .ok (.run o))
    (hformat : o.filters.format = none) (logWord : Option String) (hm : m.Fresh) :
    match Machine.system.pair o m with
    | none => (kit.invoke Machine.system args logWord m).1.status = 1
    | some (video, media, m₂) =>
      (kit.invoke Machine.system args logWord m).1.status = 0 ∧
        ∃ devnum is,
          ((deviceNumberOf Machine.kernel video).run m₂).1 = .ok devnum ∧
          ((readInterfaces Machine.kernel media.path media.fd).run m₂).1 = .ok is ∧
          (∃ i ∈ is, i.rawType = 0x200 ∧ i.devnode = devnum) ∧
          (kit.invoke Machine.system args logWord m).1.stdout =
            printedText (videoTexts video devnum ++ mediaTexts media ++
              (is.filter (·.rawType = 0x200)).map (o.interfaceText m)) := by
  cases hpair : Machine.system.pair o m with
  | none => exact status_of_unpaired hargs logWord hm hpair
  | some found =>
    obtain ⟨video, media, m₂⟩ := found
    obtain ⟨devnum, is, log, hpaired, hlines, hinvoke⟩ := invoke_prints hargs logWord hm hpair
    rw [hlines, hformat, reportText_eq] at hinvoke
    have htexts : (o.linesWith m.world video media devnum is (formatsAsked none
        (video.offered (m₂.node video.fd)))).map ReportLine.text = videoTexts video devnum ++
          mediaTexts media ++ (is.filter (·.rawType = 0x200)).map (o.interfaceText m) := by
      rw [formatsAsked, text_linesWith_ok, List.map_nil, List.append_nil]
    have hstatus : (kit.invoke Machine.system args logWord m).1.status = 0 := by
      rw [hinvoke]
      rfl
    have hstdout : (kit.invoke Machine.system args logWord m).1.stdout =
        printedText (videoTexts video devnum ++ mediaTexts media ++
          (is.filter (·.rawType = 0x200)).map (o.interfaceText m)) := by
      rw [hinvoke, stdout_reportOutput, htexts]
    exact ⟨hstatus, devnum, is, number_of_paired hpaired, interfaces_of_paired hpaired,
      hpaired.published, hstdout⟩

end

theorem invoke_reports_pair_sample :
    ∃ o, Command.ofArgs Toolkit.standard.patterns [] = .ok (.run o) ∧ o.filters.format = none ∧
      Machine.sample.Fresh ∧ (invoke [] none .sample).1.status = 0 ∧
      (invoke [] none .sample).1.stdout = printedText
        ["video: /dev/video0", "  driver: ", "  card: ", "  bus info: ", "  device number: 81:0",
          "media: /dev/media1", "  driver: ", "  model: ", "  bus info: ",
          "  media version: 0.0.0", "  video interface 7: 81:0 (?)"] := by
  have hargs : Command.ofArgs Toolkit.standard.patterns [] = .ok (.run
      { devDir := .ofString "/dev", sysDir := .ofString "/sys", filters := {}, verbose := false,
        quiet := false }) := rfl
  obtain ⟨hstatus, devnum, is, hnumber, hread, -, hstdout⟩ :=
    invoke_reports_pair hargs rfl none Machine.fresh_sample
  have hdevnum : devnum = ⟨81, 0⟩ := (Except.ok.inj hnumber).symm
  have his : is = [.ofType 7 .v4lVideo ⟨81, 0⟩] := (Except.ok.inj hread).symm
  rw [hdevnum, his] at hstdout
  refine ⟨_, hargs, rfl, Machine.fresh_sample, hstatus, hstdout.trans (congrArg printedText ?_)⟩
  decide +kernel

end MediaPairing
