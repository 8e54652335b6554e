import MediaPairing.Proofs.Command.Report
import MediaPairing.Proofs.Discovery.OtherFiles

/-!
# The names of device nodes

A run reads files for the sake of the names of device nodes, which stand in the lines of
interfaces. With other files, or with the device tree at another place, it finds the same
devices, makes the same calls otherwise and prints the same lines but for these names; a name
that cannot be found never costs a line.

* `traceWithoutReads`: the calls and closes, without the readings of files.
* `Naming`: the events of printing interfaces with the names that the files of a world give.
* `Parted`: two runs that are the same up to the naming of interfaces.
* `printMedia_parted`, `printReport_parted`, `run_parted`: up to that, files do not matter.
* `invoke_ignores_files`: what this means for two runs of the command.
-/

namespace MediaPairing

/-! ## Naming interfaces -/

/-- The event of reading a file. -/
def Event.isRead : Event → Bool
  | called (.read _) _ => true
  | _ => false

/-- The calls and closes among the events, without the readings of files. -/
def traceWithoutReads (w : Wording) (es : List Event) : List String :=
  (es.filter (!·.isRead)).filterMap (·.traceLine? w)

theorem traceWithoutReads_append (w : Wording) (es es' : List Event) :
    traceWithoutReads w (es ++ es') = traceWithoutReads w es ++ traceWithoutReads w es' := by
  unfold traceWithoutReads
  rw [List.filter_append, List.filterMap_append]

/-- The event leaves no trace once the readings of files are left out. -/
def Event.Traceless (e : Event) : Prop := e.isRead = false → ∀ w, e.traceLine? w = none

theorem Event.Reads.traceless {e : Event} (h : e.Reads) : e.Traceless := by
  intro hread
  cases e with
  | called call outcome =>
    obtain ⟨path, rfl⟩ := h
    cases hread
  | _ => cases h

theorem traceWithoutReads_eq_nil {es : List Event} (h : ∀ e ∈ es, e.Traceless) (w : Wording) :
    traceWithoutReads w es = [] := by
  refine List.filterMap_eq_nil_iff.mpr fun e he => ?_
  obtain ⟨hmem, hread⟩ := List.mem_filter.mp he
  rw [Bool.not_eq_true'] at hread
  exact h e hmem hread w

/-- The events of printing `is` with the names that the files of `w` give. -/
structure Naming (w : World) (sysDir devDir : Path) (is : List Interface) (es : List Event) :
    Prop where
  printed_eq : printed es = is.map (interfaceLine w sysDir devDir)
  traceless : ∀ e ∈ es, e.Traceless

theorem naming_nil (w : World) (sysDir devDir : Path) : Naming w sysDir devDir [] [] :=
  ⟨rfl, List.forall_mem_nil _⟩

/-- Names depend on the files alone. -/
theorem interfaceLine_congr {w w' : World} (h : w'.files = w.files) (sysDir devDir : Path)
    (i : Interface) : interfaceLine w' sysDir devDir i = interfaceLine w sysDir devDir i := by
  have hname : w'.devnode i.devnode sysDir devDir = w.devnode i.devnode sysDir devDir :=
    World.devnode_congr (by rw [h]) devDir
  rw [interfaceLine, interfaceLine, hname]

theorem printInterfaces_traceless (sysDir devDir : Path) (is : List Interface) :
    Notes Event.Traceless (Machine.system.printInterfaces sysDir devDir is) := by
  have hlog : ∀ e, Notes Event.Traceless (Machine.log (.unnamedNode e)) :=
    fun e => notes_note fun _ _ => rfl
  have hprint : ∀ line, Notes Event.Traceless (Machine.print line) :=
    fun line => notes_note fun _ _ => rfl
  induction is with
  | nil => exact notes_pure _
  | cons i rest ih =>
    have hdevnode : Notes Event.Traceless (Machine.system.devnodePath i.devnode sysDir devDir) :=
      fun m => ⟨_, (devnodePath_answers i.devnode sysDir devDir m).mono fun _ h => h.traceless⟩
    unfold System.printInterfaces
    refine hdevnode.bind fun found => ?_
    cases found with
    | error e => exact (hlog e).bind fun _ => (hprint _).bind fun _ => ih
    | ok node => exact (hprint _).bind fun _ => ih

theorem printInterfaces_naming {w : World} {m : Machine} (h : m.world.files = w.files)
    (sysDir devDir : Path) (is : List Interface) :
    ∃ es, Naming w sysDir devDir is es ∧
      (Machine.system.printInterfaces sysDir devDir is).run m = ((), m.extend es) := by
  obtain ⟨es, hprinted, hrun⟩ := printInterfaces_prints sysDir devDir is m
  obtain ⟨_, es', htraceless, hrun'⟩ := printInterfaces_traceless sysDir devDir is m
  -- both statements are about the same run
  have hsame : m.extend es = m.extend es' := (Prod.mk.inj (hrun.symm.trans hrun')).2
  have hevents : es = es' := List.append_cancel_left (congrArg Machine.journal hsame)
  refine ⟨es, ⟨?_, ?_⟩, hrun⟩
  · rw [hprinted]
    exact List.map_congr_left fun i _ => interfaceLine_congr h sysDir devDir i
  · rw [hevents]
    exact htraceless

/-! ## The same up to names -/

section

variable {α : Type} {o : Options} {sysDir : Path} {w : World}
  {files : Table (Except Errno Bytes)} {is : List Interface}

/-- Two runs, the second one with other files and another place of the device tree, that give the
same and note the same events, apart from those of naming the interfaces `is`. -/
structure Parted (o : Options) (sysDir : Path) (w : World) (files : Table (Except Errno Bytes))
    (is : List Interface) (r r' : α × Machine) : Prop where
  answer_eq : r'.1 = r.1
  journal_eq : ∃ before es es' after,
    (∀ e ∈ before, e.Nameless) ∧ printed after = [] ∧
      Naming w o.sysDir o.devDir is es ∧ Naming { w with files } sysDir o.devDir is es' ∧
      r.2.journal = before ++ es ++ after ∧ r'.2.journal = before ++ es' ++ after

/-- No interface has been named. -/
theorem parted_withFiles {m : Machine} (a : α) (hm : ∀ e ∈ m.journal, e.Nameless) :
    Parted o sysDir w files [] (a, m) (a, m.withFiles files) where
  answer_eq := rfl
  journal_eq := by
    refine ⟨m.journal, [], [], [], hm, rfl, naming_nil _ _ _, naming_nil _ _ _, ?_, ?_⟩
    · simp
    · simp [Machine.withFiles]

/-- The interfaces are named on two machines that are the same but for their files. -/
theorem parted_extend {m : Machine} {es es' : List Event} (a : α)
    (hm : ∀ e ∈ m.journal, e.Nameless) (hes : Naming w o.sysDir o.devDir is es)
    (hes' : Naming { w with files } sysDir o.devDir is es') :
    Parted o sysDir w files is (a, m.extend es) (a, (m.withFiles files).extend es') where
  answer_eq := rfl
  journal_eq := ⟨m.journal, es, es', [], hm, rfl, hes, hes', (List.append_nil _).symm,
    (List.append_nil _).symm⟩

/-- Both answers are read in another way. -/
theorem Parted.mapError {β ε ε' : Type} {m m' : Machine} {a a' : Except ε β}
    (h : Parted o sysDir w files is (a, m) (a', m')) (f : ε → ε') :
    Parted o sysDir w files is (a.mapError f, m) (a'.mapError f, m') where
  answer_eq := congrArg (Except.mapError f) h.answer_eq
  journal_eq := h.journal_eq

/-- A handle is closed on both machines. -/
theorem Parted.shut {m m' : Machine} {a a' : α} (h : Parted o sysDir w files is (a, m) (a', m'))
    (handle : Nat) : Parted o sysDir w files is (a, m.shut handle) (a', m'.shut handle) where
  answer_eq := h.answer_eq
  journal_eq := by
    obtain ⟨before, es, es', after, hbefore, hafter, hes, hes', hleft, hright⟩ := h.journal_eq
    refine ⟨before, es, es', after ++ [.closed handle], hbefore, ?_, hes, hes', ?_, ?_⟩
    · rw [printed_append, hafter, (tries_close handle).printed_eq, List.append_nil]
    · have hleft : m.journal = _ := hleft
      simp only [Machine.shut_journal, hleft, List.append_assoc]
    · have hright : m'.journal = _ := hright
      simp only [Machine.shut_journal, hright, List.append_assoc]

end

/-! ## The report -/

section

variable {w : World} {m m' : Machine} {video : VideoDevice Nat} {media : MediaDevice Nat}

theorem fileFree_print {line : ReportLine} (h : (Event.printed line).Nameless) :
    FileFree (Machine.print line) := fileFree_note h

theorem fileFree_printFormats (video : VideoDevice Nat) (fourcc : FourCc)
    (queues : List BufferQueue) : FileFree (Machine.system.printFormats video fourcc queues) := by
  induction queues with
  | nil => exact fileFree_pure _
  | cons queue rest ih =>
    unfold System.printFormats
    refine (fileFree_formats video queue).bind fun listed => ?_
    cases listed with
    | error e => exact fileFree_pure _
    | ok fs =>
      have hprint : ∀ f, FileFree (Machine.print (.format queue f)) :=
        fun f => fileFree_print (by trivial)
      exact (fileFree_forM hprint).bind fun _ => ih

theorem fileFree_printVideo (format : Option FourCc) (video : VideoDevice Nat) :
    FileFree (Machine.system.printVideo format video) := by
  unfold System.printVideo
  refine (fileFree_print (by trivial)).bind fun _ => ?_
  refine (fileFree_print (by trivial)).bind fun _ => ?_
  refine (fileFree_print (by trivial)).bind fun _ => ?_
  refine (fileFree_print (by trivial)).bind fun _ => ?_
  refine (fileFree_deviceNumberOf withoutFiles_kernel video).bind fun number => ?_
  cases number with
  | error e => exact fileFree_pure _
  | ok devnum =>
    refine (fileFree_print (by trivial)).bind fun _ => ?_
    cases format with
    | none => exact fileFree_pure _
    | some fourcc => exact fileFree_printFormats video fourcc _

/-- The report on a video node does nothing to the machine but for what it notes. -/
theorem printVideo_notes (format : Option FourCc) (video : VideoDevice Nat) :
    Notes (fun _ => True) (Machine.system.printVideo format video) := by
  have hprint : ∀ line, Notes (fun _ => True) (Machine.print line) := fun _ => notes_note trivial
  have hnumber : Notes (fun _ => True) (deviceNumberOf Machine.kernel video) :=
    fun m => ⟨_, (deviceNumberOf_answers .kernel video m).mono fun _ _ => trivial⟩
  unfold System.printVideo
  refine (hprint _).bind fun _ => (hprint _).bind fun _ => ?_
  refine (hprint _).bind fun _ => (hprint _).bind fun _ => hnumber.bind fun number => ?_
  cases number with
  | error e => exact notes_pure _
  | ok devnum =>
    refine (hprint _).bind fun _ => ?_
    cases format with
    | none => exact notes_pure _
    | some fourcc =>
      intro m
      obtain ⟨es, -, hrun⟩ := printFormats_prints video fourcc BufferQueue.all m
      exact ⟨_, es, fun _ _ => trivial, hrun⟩

/-- The lines on a controller before those of its interfaces. -/
def mediaHeading (media : MediaDevice Nat) : List Event :=
  [.printed (.media media.path), .printed (.mediaDriver media.info.driver),
    .printed (.model media.info.model), .printed (.mediaBus media.info.busInfo),
    .printed (.mediaVersion (.ofWord media.info.mediaVersion))]

theorem mediaHeading_nameless (media : MediaDevice Nat) :
    ∀ e ∈ mediaHeading media, e.Nameless := by
  intro e he
  simp only [mediaHeading, List.mem_cons, List.not_mem_nil, or_false] at he
  rcases he with rfl | rfl | rfl | rfl | rfl <;> trivial

theorem printMedia_run {sysDir devDir : Path} {answer : Except PairingError (List Interface)}
    (hread : (videoInterfaces Machine.system.toAccess media).run (m.extend (mediaHeading media)) =
      (answer, m')) :
    (Machine.system.printMedia sysDir devDir media).run m =
      match answer with
      | .error e => (.error e, m')
      | .ok is => (.ok (), ((Machine.system.printInterfaces sysDir devDir is).run m').2) := by
  unfold System.printMedia
  have hprint : ∀ line m, (Machine.system.print line).run m = ((), m.extend [.printed line]) :=
    Machine.print_run
  rw [run_bind_of_eq (hprint _ _), run_bind_of_eq (hprint _ _), run_bind_of_eq (hprint _ _),
    run_bind_of_eq (hprint _ _), run_bind_of_eq (hprint _ _)]
  simp only [Machine.extend_extend, List.cons_append, List.nil_append]
  rw [mediaHeading] at hread
  rw [run_bind_of_eq hread]
  cases answer <;> rfl

/-- Reading the interfaces later gives the same, if nothing but events came in between. -/
theorem videoInterfaces_extend (media : MediaDevice Nat) (m : Machine) (es : List Event) :
    ((videoInterfaces Machine.kernel media).run (m.extend es)).1 =
      ((videoInterfaces Machine.kernel media).run m).1 := by
  have hlater := (videoInterfaces_answers .kernel media (m.extend es)).fst_run
  have hnow := (videoInterfaces_answers .kernel media m).fst_run
  exact hlater.trans hnow.symm

/-- The report on a controller: no file is read before its interfaces are known, and from there on
nothing but their names is looked for. -/
theorem printMedia_parted (o : Options) (sysDir : Path) (files : Table (Except Errno Bytes))
    (hm : ∀ e ∈ m.journal, e.Nameless) (hfiles : m.world.files = w.files)
    (media : MediaDevice Nat) :
    ∃ is, Parted o sysDir w files is ((Machine.system.printMedia o.sysDir o.devDir media).run m)
        ((Machine.system.printMedia sysDir o.devDir media).run (m.withFiles files)) ∧
      (((Machine.system.printMedia o.sysDir o.devDir media).run m).1 = .ok () →
        ((videoInterfaces Machine.kernel media).run m).1 = .ok is) := by
  have hfree := fileFree_videoInterfaces withoutFiles_kernel media
  have hnameless := hfree.nameless (m.extend (mediaHeading media))
    (nameless_append hm (mediaHeading_nameless media))
  have hsame := videoInterfaces_extend media m (mediaHeading media)
  generalize hread :
    (videoInterfaces Machine.kernel media).run (m.extend (mediaHeading media)) = r
    at hnameless hsame
  obtain ⟨answer, m₁⟩ := r
  have hread' : (videoInterfaces Machine.kernel media).run
      ((m.withFiles files).extend (mediaHeading media)) = (answer, m₁.withFiles files) :=
    hfree.withFiles_run hread files
  rw [printMedia_run hread, printMedia_run hread', ← hsame]
  cases answer with
  | error e => exact ⟨[], parted_withFiles _ hnameless, fun h => by cases h⟩
  | ok is =>
    -- here the machines go apart: each one looks the names up in its own files
    have hleft : m₁.world.files = w.files := (hfree.files_eq hread).trans hfiles
    obtain ⟨es, hes, hprint⟩ := printInterfaces_naming hleft o.sysDir o.devDir is
    have hright : (m₁.withFiles files).world.files = { w with files }.files := rfl
    obtain ⟨es', hes', hprint'⟩ := printInterfaces_naming hright sysDir o.devDir is
    dsimp only
    rw [hprint, hprint']
    exact ⟨is, parted_extend _ hnameless hes hes', fun _ => rfl⟩

theorem printReport_parted (o : Options) (sysDir : Path) (files : Table (Except Errno Bytes))
    (hm : ∀ e ∈ m.journal, e.Nameless) (hfiles : m.world.files = w.files)
    (video : VideoDevice Nat) (media : MediaDevice Nat) :
    ∃ is, Parted o sysDir w files is ((Machine.system.printReport o video media).run m)
        ((Machine.system.printReport { o with sysDir } video media).run (m.withFiles files)) ∧
      (((Machine.system.printReport o video media).run m).1 = .ok () →
        ((videoInterfaces Machine.kernel media).run m).1 = .ok is) := by
  have hfree := fileFree_printVideo o.filters.format video
  obtain ⟨reported, es, -, hrun⟩ := printVideo_notes o.filters.format video m
  have hnameless := hfree.nameless m hm
  rw [hrun] at hnameless
  have hrun' := hfree.withFiles_run hrun files
  unfold System.printReport
  rw [run_bind_of_eq hrun, run_bind_of_eq hrun']
  cases reported with
  | error e => exact ⟨[], parted_withFiles _ hnameless, fun h => by cases h⟩
  | ok done =>
    obtain ⟨is, hparted, hread⟩ := printMedia_parted o sysDir files hnameless hfiles media
    rw [videoInterfaces_extend] at hread
    exact ⟨is, hparted, hread⟩

end

/-! ## The run -/

theorem fileFree_accepts (f : Filters) (video : VideoDevice Nat) :
    FileFree (Machine.system.accepts f video) := by
  unfold System.accepts
  split
  · cases f.format with
    | none => exact fileFree_pure _
    | some fourcc =>
      refine (fileFree_supportsFormat video fourcc).bind fun answer => ?_
      cases answer with
      | ok supported => exact fileFree_pure _
      | error e => exact (fileFree_log _).bind fun _ => fileFree_pure _
  · exact fileFree_pure _

theorem fileFree_probeWith (dir : Path) (f : Filters) :
    FileFree (probeWith Machine.system.toAccess dir (Machine.system.accepts f)) := by
  have hprobe := fileFree_probe withoutFiles_kernel
    (fun device s => (fileFree_accepts f device).lift s) dir ()
  exact hprobe.bind fun _ => fileFree_pure _

/-- Neither the files nor what has happened before play a part in finding a pair. -/
theorem pair_withPast (o : Options) (m : Machine) (files : Table (Except Errno Bytes))
    (past : List Event) :
    Machine.system.pair o (m.withPast files past) =
      (Machine.system.pair o m).map fun found =>
        (found.1, found.2.1, found.2.2.withPast files past) := by
  unfold System.pair
  generalize hprobe :
    (probeWith Machine.system.toAccess o.devDir (Machine.system.accepts o.filters)).run m = r
  obtain ⟨found, m₁⟩ := r
  rw [(fileFree_probeWith o.devDir o.filters).withPast_run hprobe]
  cases found with
  | error e => rfl
  | ok video =>
    have hfree : FileFree (resolve Machine.system.toAccess o.devDir video) :=
      fileFree_resolve withoutFiles_kernel o.devDir video
    dsimp only
    generalize hresolve : (resolve Machine.system.toAccess o.devDir video).run m₁ = r
    obtain ⟨found, m₂⟩ := r
    rw [hfree.withPast_run hresolve]
    cases found <;> rfl

/-- The pair that is found in a run is the one that is found before it, with the same
interfaces. -/
theorem pair_start {o : Options} {m m₂ : Machine} {video : VideoDevice Nat}
    {media : MediaDevice Nat} (hpair : Machine.system.pair o m = some (video, media, m₂)) :
    ∃ n, Machine.system.pair o (Machine.extend { m with journal := [] } [.logged .ready]) =
        some (video, media, n) ∧
      ((videoInterfaces Machine.kernel media).run n).1 =
        ((videoInterfaces Machine.kernel media).run m₂).1 := by
  have hpast : Machine.withPast { m with journal := [] } m.world.files m.journal = m := by
    simp [Machine.withPast]
  have hready : Machine.withPast { m with journal := [] } m.world.files [.logged .ready] =
      Machine.extend { m with journal := [] } [.logged .ready] := rfl
  have hfree := fileFree_videoInterfaces withoutFiles_kernel media
  rw [← hpast, pair_withPast] at hpair
  obtain ⟨⟨_, _, n⟩, hfound, hsame⟩ := Option.map_eq_some_iff.mp hpair
  cases hsame
  refine ⟨n.withPast m.world.files [.logged .ready], ?_, ?_⟩
  · rw [← hready, pair_withPast, hfound]
    rfl
  · rw [hfree.run_eq, hfree.run_eq]

/-- Two runs that have found the same pair. -/
theorem run_parted_of_pair {o : Options} {sysDir : Path} (files : Table (Except Errno Bytes))
    {m m' m₁ m₁' m₂ : Machine} {w : World} {video : VideoDevice Nat} {media : MediaDevice Nat}
    (hnameless : ∀ e ∈ m₂.journal, e.Nameless) (hfiles : m₂.world.files = w.files)
    (hprobe : (probeWith Machine.kernel o.devDir (Machine.system.accepts o.filters)).run
      (m.extend [.logged .ready]) = (.ok video, m₁))
    (hresolve : (resolve Machine.kernel o.devDir video).run m₁ = (.ok media, m₂))
    (hprobe' : (probeWith Machine.kernel o.devDir (Machine.system.accepts o.filters)).run
      (m'.extend [.logged .ready]) = (.ok video, m₁'))
    (hresolve' : (resolve Machine.kernel o.devDir video).run m₁' =
      (.ok media, m₂.withFiles files)) :
    ∃ is, Parted o sysDir w files is ((Machine.system.run o).run m)
        ((Machine.system.run { o with sysDir }).run m') ∧
      (((Machine.system.run o).run m).1 = .ok () →
        ((videoInterfaces Machine.kernel media).run m₂).1 = .ok is) := by
  obtain ⟨is, hparted, hread⟩ := printReport_parted o sysDir files hnameless hfiles video media
  generalize hreport : (Machine.system.printReport o video media).run m₂ = r at hparted hread
  generalize hreport' :
    (Machine.system.printReport { o with sysDir } video media).run (m₂.withFiles files) = r'
    at hparted
  obtain ⟨reported, m₃⟩ := r
  obtain ⟨reported', m₃'⟩ := r'
  have hrun : (Machine.system.run o).run m = _ :=
    run_reported (Machine.log_run _ _) hprobe hresolve hreport (Machine.close_run _ _)
      (Machine.close_run _ _)
  have hrun' : (Machine.system.run { o with sysDir }).run m' = _ :=
    run_reported (Machine.log_run _ _) hprobe' hresolve' hreport' (Machine.close_run _ _)
      (Machine.close_run _ _)
  rw [hrun, hrun']
  refine ⟨is, ((hparted.mapError Failure.report).shut media.fd).shut video.fd, fun hok => ?_⟩
  cases reported with
  | error e => cases hok
  | ok done => exact hread rfl

/-- Two runs with different files, and the interfaces that are named if the runs come that far:
those of the controller that was found. -/
theorem run_parted (o : Options) (sysDir : Path) (files : Table (Except Errno Bytes)) {m : Machine}
    (hm : ∀ e ∈ m.journal, e.Nameless) :
    ∃ is, Parted o sysDir m.world files is ((Machine.system.run o).run m)
        ((Machine.system.run { o with sysDir }).run (m.withFiles files)) ∧
      ∀ video media m₂,
        Machine.system.pair o (m.extend [.logged .ready]) = some (video, media, m₂) →
        ((Machine.system.run o).run m).1 = .ok () →
        ((videoInterfaces Machine.kernel media).run m₂).1 = .ok is := by
  have hprobeFree :
      FileFree (probeWith Machine.kernel o.devDir (Machine.system.accepts o.filters)) :=
    fileFree_probeWith o.devDir o.filters
  have hm₁ := hprobeFree.nameless (m.extend [.logged .ready])
    (nameless_append hm (nameless_singleton trivial))
  generalize hprobe : (probeWith Machine.kernel o.devDir (Machine.system.accepts o.filters)).run
    (m.extend [.logged .ready]) = r at hm₁
  obtain ⟨found, m₁⟩ := r
  have hprobe' : (probeWith Machine.kernel o.devDir (Machine.system.accepts o.filters)).run
      ((m.withFiles files).extend [.logged .ready]) = (found, m₁.withFiles files) :=
    hprobeFree.withFiles_run hprobe files
  have hfiles₁ : m₁.world.files = (m.extend [.logged .ready]).world.files :=
    hprobeFree.files_eq hprobe
  cases found with
  | error e =>
    have hrun : (Machine.system.run o).run m = _ := run_unprobed (Machine.log_run _ _) hprobe
    have hrun' : (Machine.system.run { o with sysDir }).run (m.withFiles files) = _ :=
      run_unprobed (Machine.log_run _ _) hprobe'
    rw [hrun, hrun']
    exact ⟨[], parted_withFiles _ hm₁, fun _ _ _ _ h => by cases h⟩
  | ok video =>
    have hresolveFree := fileFree_resolve withoutFiles_kernel o.devDir video
    have hm₂ := hresolveFree.nameless m₁ hm₁
    generalize hresolve : (resolve Machine.kernel o.devDir video).run m₁ = r at hm₂
    obtain ⟨found, m₂⟩ := r
    have hresolve' := hresolveFree.withFiles_run hresolve files
    have hfiles₂ : m₂.world.files = m.world.files := (hresolveFree.files_eq hresolve).trans hfiles₁
    cases found with
    | error e =>
      have hrun : (Machine.system.run o).run m = _ :=
        run_unresolved (Machine.log_run _ _) hprobe hresolve (Machine.close_run _ _)
      have hrun' : (Machine.system.run { o with sysDir }).run (m.withFiles files) = _ :=
        run_unresolved (Machine.log_run _ _) hprobe' hresolve' (Machine.close_run _ _)
      rw [hrun, hrun']
      exact ⟨[], (parted_withFiles _ hm₂).shut video.fd, fun _ _ _ _ h => by cases h⟩
    | ok media =>
      obtain ⟨is, hparted, hread⟩ :=
        run_parted_of_pair files hm₂ hfiles₂ hprobe hresolve hprobe' hresolve'
      have hpair : Machine.system.pair o (m.extend [.logged .ready]) = some (video, media, m₂) :=
        pair_of_found hprobe hresolve
      refine ⟨is, hparted, fun video' media' m₂' hpair' hok => ?_⟩
      rw [hpair] at hpair'
      cases hpair'
      exact hread hok

/-! ## The command -/

/-- The report consists of the lines in `head` and those of the interfaces `is`, with the names
that the files of `m` give. -/
structure Shows (o : Options) (m : Machine) (head : List ReportLine) (is : List Interface)
    (r : ConsoleOutput × Machine) : Prop where
  items_eq : r.2.reportLines.map ReportLine.text =
    head.map ReportLine.text ++ is.map (o.interfaceText m)
  stdout_eq : r.1.stdout =
    printedText (head.map ReportLine.text ++ is.map (o.interfaceText m))

/-- Two invocations, with the options `o` on `m` and with `o'` on `m'`, that differ in the names
of device nodes and in nothing else but the readings of files and the shown log. -/
structure SameButNames (kit : Toolkit) (logWord : Option String) (o o' : Options) (m m' : Machine)
    (r r' : ConsoleOutput × Machine) : Prop where
  status_eq : r'.1.status = r.1.status
  trace_eq : ∀ w, traceWithoutReads w r'.2.journal = traceWithoutReads w r.2.journal
  error_eq : ∃ text, r.1.stderr = kit.logText logWord o.shownRank r.2.logRecords ++ text ∧
    r'.1.stderr = kit.logText logWord o'.shownRank r'.2.logRecords ++ text
  /-- The interfaces are those of the controller that was found. -/
  items_eq : ∃ head is, (∀ id devnum node, .interface id devnum node ∉ head) ∧
    Shows o m head is r ∧ Shows o' m' head is r' ∧
    ∀ video media m₂, Machine.system.pair o m = some (video, media, m₂) → r.1.status = 0 →
      ((videoInterfaces Machine.kernel media).run m₂).1 = .ok is

section

variable {o : Options} {m : Machine} {is : List Interface} {outcome : Except Failure Unit}

theorem not_mem_printed {es : List Event} (hes : ∀ e ∈ es, e.Nameless) (id : UInt32)
    (devnum : DeviceNumber) (node : Option Path) : .interface id devnum node ∉ printed es := by
  intro hmem
  obtain ⟨e, he, hline⟩ := List.mem_filterMap.mp hmem
  cases e with
  | printed line =>
    cases hline
    exact hes _ he
  | _ => cases hline

/-- What a finished run shows. -/
theorem shows_runOutput (log : String) {n : Machine} {before es after : List Event}
    (hes : Naming m.world o.sysDir o.devDir is es) (hafter : printed after = [])
    (hjournal : n.journal = before ++ es ++ after) :
    Shows o m (printed before) is (runOutput (reportText n.reportLines) log outcome, n) := by
  have hlines : n.reportLines = printed before ++ printed es ++ printed after := by
    rw [← printed_append, ← printed_append, ← hjournal]
    rfl
  have htexts : (printed es).map ReportLine.text = is.map (o.interfaceText m) := by
    rw [hes.printed_eq, List.map_map]
    exact List.map_congr_left fun i _ => text_interfaceLine o m i
  have hitems : n.reportLines.map ReportLine.text =
      (printed before).map ReportLine.text ++ is.map (o.interfaceText m) := by
    rw [hlines, hafter, List.append_nil, List.map_append, htexts]
  refine ⟨hitems, ?_⟩
  rw [← hitems, ← reportText_eq]
  cases outcome <;> rfl

/-- A finished run shows the log and then its failure, if it has failed. -/
theorem stderr_runOutput (outcome : Except Failure Unit) :
    ∃ text, ∀ report log, (runOutput report log outcome).stderr = log ++ text := by
  cases outcome with
  | ok done => exact ⟨"", fun report log => String.append_empty.symm⟩
  | error f => exact ⟨f.text, fun report log => rfl⟩

theorem runOutput_ok {report log : String} (h : (runOutput report log outcome).status = 0) :
    outcome = .ok () := by
  cases outcome with
  | ok done => rfl
  | error f => exact absurd h (by decide : (1 : UInt32) ≠ 0)

end

/-- The options of a command line without arguments. -/
def Options.plain : Options where
  devDir := .ofString "/dev"
  sysDir := .ofString "/sys"
  filters := {}
  verbose := false
  quiet := false

theorem ofArgs_sysDir (reader : TestReader) {value : Bytes}
    (hseparate : isSeparateValue value = true)
    (hnonempty : value.isEmpty = false) :
    Command.ofArgs reader [Utf8.encode "--sys-dir", value] =
      .ok (.run { Options.plain with sysDir := ⟨value⟩ }) := by
  have hargument : Utf8.encode "--sys-dir" =
      [0x2D, 0x2D, 0x73, 0x79, 0x73, 0x2D, 0x64, 0x69, 0x72] := rfl
  have hsplit : splitName [0x73, 0x79, 0x73, 0x2D, 0x64, 0x69, 0x72] =
      ([0x73, 0x79, 0x73, 0x2D, 0x64, 0x69, 0x72], none) := rfl
  have hname : Flag.ofName? [0x73, 0x79, 0x73, 0x2D, 0x64, 0x69, 0x72] = some (.value .sysDir) :=
    rfl
  have hassign : ValueOption.assign? reader {} value .sysDir = some { sysDir := some ⟨value⟩ } := by
    unfold ValueOption.assign? ValueOption.directory?
    rw [hnonempty]
    rfl
  rw [hargument, ofArgs_value reader (List.cons_ne_nil _ _) hsplit hname hseparate hassign]
  rfl

/-- A file that names the node of the interface in the small machine, under `/other`. -/
def uevents : Table (Except Errno Bytes) :=
  [(.ofString "/other/dev/char/81:0/uevent", .ok (Utf8.encode "MAJOR=81\nDEVNAME=video0\n"))]

/-- The files, and the place of the device tree, play a part in nothing but the names of device
nodes: whatever the files are, and whether or not they can be read, the command finds the same
devices, makes the same calls, and prints the same lines, with an own name or `?` in that of each
interface. -/
theorem invoke_ignores_files {kit : Toolkit} {args args' : List Bytes} {o : Options}
    {sysDir : Path} (hargs : Command.ofArgs kit.patterns args = .ok (.run o))
    (hargs' : Command.ofArgs kit.patterns args' = .ok (.run { o with sysDir }))
    (logWord : Option String) (m : Machine) (files : Table (Except Errno Bytes)) :
    SameButNames kit logWord o { o with sysDir } m (m.withFiles files)
      (kit.invoke Machine.system args logWord m)
      (kit.invoke Machine.system args' logWord (m.withFiles files)) := by
  obtain ⟨is, hparted, hread⟩ :=
    run_parted o sysDir files (m := m.forgetJournal) (List.forall_mem_nil _)
  generalize hrun : (Machine.system.run o).run m.forgetJournal = r at hparted hread
  generalize hrun' : (Machine.system.run { o with sysDir }).run (m.forgetJournal.withFiles files) =
    r' at hparted
  obtain ⟨outcome, n⟩ := r
  obtain ⟨outcome', n'⟩ := r'
  obtain rfl : outcome' = outcome := hparted.answer_eq
  obtain ⟨before, es, es', after, hbefore, hafter, hes, hes', hleft, hright⟩ := hparted.journal_eq
  rw [invoke_run hargs logWord hrun, invoke_run hargs' logWord hrun']
  exact {
    status_eq := by cases outcome' <;> rfl
    trace_eq := fun w => by
      have hleft : n.journal = _ := hleft
      have hright : n'.journal = _ := hright
      simp only [hleft, hright, traceWithoutReads_append, traceWithoutReads_eq_nil hes.traceless,
        traceWithoutReads_eq_nil hes'.traceless]
    error_eq := by
      obtain ⟨text, htext⟩ := stderr_runOutput outcome'
      exact ⟨text, htext _ _, htext _ _⟩
    items_eq := by
      refine ⟨printed before, is, not_mem_printed hbefore, shows_runOutput _ hes hafter hleft,
        shows_runOutput _ hes' hafter hright, fun video media m₂ hpair hstatus => ?_⟩
      obtain ⟨n, hfound, hsame⟩ := pair_start hpair
      rw [← hsame]
      exact hread video media n hfound (runOutput_ok hstatus) }

/-- Without files the interface has no name; with a file under `/other` it has one. -/
theorem invoke_ignores_files_renamed :
    ∃ o sysDir, Command.ofArgs Toolkit.standard.patterns [] = .ok (.run o) ∧
      Command.ofArgs Toolkit.standard.patterns [Utf8.encode "--sys-dir", Utf8.encode "/other"] =
        .ok (.run { o with sysDir }) ∧
      SameButNames .standard none o { o with sysDir } .sample (Machine.sample.withFiles uevents)
        (invoke [] none .sample)
        (invoke [Utf8.encode "--sys-dir", Utf8.encode "/other"] none
          (Machine.sample.withFiles uevents)) ∧
      o.interfaceText .sample (.ofType 7 .v4lVideo ⟨81, 0⟩) = "  video interface 7: 81:0 (?)" ∧
      Options.interfaceText { o with sysDir } (Machine.sample.withFiles uevents)
        (.ofType 7 .v4lVideo ⟨81, 0⟩) = "  video interface 7: 81:0 (/dev/video0)" := by
  have hargs : Command.ofArgs Toolkit.standard.patterns [] = .ok (.run .plain) := rfl
  have hargs' := @ofArgs_sysDir Toolkit.standard.patterns (Utf8.encode "/other") rfl rfl
  exact ⟨.plain, ⟨Utf8.encode "/other"⟩, hargs, hargs',
    invoke_ignores_files hargs hargs' none .sample uevents, by decide +kernel, by decide +kernel⟩

end MediaPairing
