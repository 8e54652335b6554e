import MediaPairing.Proofs.Command.Report
import MediaPairing.Proofs.Discovery.Custody

/-!
# What a run leaves behind

A run ends at one of many points: probing or resolving fails, or the report breaks off at the
number, at one of the queues or at the interfaces. What was answered before says nothing about
these points, as the machine may have become another one in between. Wherever a run ends, the
handles that it has opened are closed, and it has asked none but those.

* `accepts_keeps`, `printReport_keeps`: the filters and the report leave the account of the handles
  as it was.
* `run_keeps`: a run leaves nothing in custody.
* `run_keeps_of_unpaired`: what the two searches leave if they do not come to a pair.
* `invoke_leaves_nothing_open`: what that means for a run of the command.
-/

namespace MediaPairing

variable {σ Fd : Type}

section

variable {sys : System σ Fd} {account : List Fd → σ → Prop} (hsys : sys.Keeps account)
  {held : List Fd}

include hsys

/-! ## The filters -/

theorem accepts_keeps (f : Filters) {video : VideoDevice Fd} (hvideo : video.fd ∈ held) :
    Leads (account held) (sys.accepts f video) fun _ => account held := by
  unfold System.accepts
  split
  · cases f.format with
    | none => exact leads_pure fun _ h => h
    | some fourcc =>
      refine (supportsFormat_keeps hsys hvideo fourcc).bind fun answer => ?_
      cases answer with
      | ok supported => exact leads_pure fun _ h => h
      | error e => exact (hsys.log held _).bind fun _ => leads_pure fun _ h => h
  · exact leads_pure fun _ h => h

theorem probe_keeps (o : Options) :
    Leads (account held) (probeWith sys.toAccess o.devDir (sys.accepts o.filters))
      (Gained account held VideoDevice.fd) :=
  probeWith_keeps hsys (fun _ => accepts_keeps hsys o.filters List.mem_cons_self) o.devDir

/-! ## The report -/

section

variable (hprint : ∀ held line, Leads (account held) (sys.print line) fun _ => account held)

include hprint

theorem printFormats_keeps {video : VideoDevice Fd} (hvideo : video.fd ∈ held) (fourcc : FourCc)
    (queues : List BufferQueue) :
    Leads (account held) (sys.printFormats video fourcc queues) fun _ => account held := by
  induction queues with
  | nil => exact leads_pure fun _ h => h
  | cons queue rest ih =>
    unfold System.printFormats
    refine (formats_keeps hsys hvideo queue).bind fun listed => ?_
    cases listed with
    | error e => exact leads_pure fun _ h => h
    | ok fs => exact (leads_forM fun f => hprint held _).bind fun _ => ih

theorem printInterfaces_keeps (sysDir devDir : Path) (is : List Interface) :
    Leads (account held) (sys.printInterfaces sysDir devDir is) fun _ => account held := by
  induction is with
  | nil => exact leads_pure fun _ h => h
  | cons i rest ih =>
    unfold System.printInterfaces
    refine (devnodePath_keeps hsys i.devnode sysDir devDir).bind fun found => ?_
    cases found with
    | error e => exact (hsys.log held _).bind fun _ => (hprint held _).bind fun _ => ih
    | ok node => exact (hprint held _).bind fun _ => ih

theorem printVideo_keeps {video : VideoDevice Fd} (hvideo : video.fd ∈ held)
    (format : Option FourCc) :
    Leads (account held) (sys.printVideo format video) fun _ => account held := by
  unfold System.printVideo
  refine (hprint held _).bind fun _ => (hprint held _).bind fun _ => ?_
  refine (hprint held _).bind fun _ => (hprint held _).bind fun _ => ?_
  refine (deviceNumberOf_keeps hsys hvideo).bind fun number => ?_
  cases number with
  | error e => exact leads_pure fun _ h => h
  | ok devnum =>
    refine (hprint held _).bind fun _ => ?_
    cases format with
    | none => exact leads_pure fun _ h => h
    | some fourcc => exact printFormats_keeps hsys hprint hvideo fourcc _

theorem printMedia_keeps {media : MediaDevice Fd} (hmedia : media.fd ∈ held)
    (sysDir devDir : Path) :
    Leads (account held) (sys.printMedia sysDir devDir media) fun _ => account held := by
  unfold System.printMedia
  refine (hprint held _).bind fun _ => (hprint held _).bind fun _ => ?_
  refine (hprint held _).bind fun _ => (hprint held _).bind fun _ => ?_
  refine (hprint held _).bind fun _ => (videoInterfaces_keeps hsys hmedia).bind fun published => ?_
  cases published with
  | error e => exact leads_pure fun _ h => h
  | ok is =>
    exact (printInterfaces_keeps hsys hprint sysDir devDir is).bind fun _ =>
      leads_pure fun _ h => h

theorem printReport_keeps {video : VideoDevice Fd} {media : MediaDevice Fd}
    (hvideo : video.fd ∈ held) (hmedia : media.fd ∈ held) (o : Options) :
    Leads (account held) (sys.printReport o video media) fun _ => account held := by
  unfold System.printReport
  refine (printVideo_keeps hsys hprint hvideo o.filters.format).bind fun reported => ?_
  cases reported with
  | error e => exact leads_pure fun _ h => h
  | ok done => exact printMedia_keeps hsys hprint hmedia o.sysDir o.devDir

/-! ## The run -/

/-- Wherever a run ends, it holds what it held at the beginning. -/
theorem run_keeps (o : Options) :
    Leads (account held) (sys.run o) fun _ => account held := by
  unfold System.run
  refine (hsys.log held _).bind fun _ => (probe_keeps hsys o).bind fun found => ?_
  cases found with
  | error e => exact leads_pure fun _ h => h
  | ok video =>
    refine (resolve_keeps hsys o.devDir List.mem_cons_self).bind fun found => ?_
    cases found with
    | error e => exact (hsys.close held video.fd).bind fun _ => leads_pure fun _ h => h
    | ok media =>
      refine (printReport_keeps hsys hprint (List.mem_cons_of_mem _ List.mem_cons_self)
        List.mem_cons_self o).bind fun reported => ?_
      -- the controller was opened last, and is closed first
      refine (hsys.close (video.fd :: held) media.fd).bind fun _ => ?_
      exact (hsys.close held video.fd).bind fun _ => leads_pure fun _ h => h

end

/-- A run that does not come to a pair fails, without a line having been printed. -/
theorem run_keeps_of_unpaired {o : Options} {s s₀ : σ} (hready : (sys.log .ready).run s = ((), s₀))
    (h : account held s) (hnone : sys.pair o s₀ = none) :
    ∃ f, ((sys.run o).run s).1 = .error f ∧ account held ((sys.run o).run s).2 := by
  have hlogged := hsys.log held .ready s h
  rw [hready] at hlogged
  have hprobed := probe_keeps hsys o s₀ hlogged
  rcases pair_eq_none hnone with ⟨e, s₁, hprobe⟩ | ⟨video, s₁, e, s₂, hprobe, hresolve⟩
  · rw [hprobe] at hprobed
    rw [run_unprobed hready hprobe]
    exact ⟨_, rfl, hprobed⟩
  · rw [hprobe] at hprobed
    have hresolved := resolve_keeps hsys o.devDir List.mem_cons_self s₁ hprobed
    rw [hresolve] at hresolved
    have hclosed := hsys.close held video.fd s₂ hresolved
    rw [run_unresolved hready hprobe hresolve rfl]
    exact ⟨_, rfl, hclosed⟩

end

/-! ## The command -/

/-- Whatever the outcome of a run, and whatever becomes of the machine while it goes on: each
handle that it opens is closed once after that, each handle that it asks was opened before and not
closed since, and no handle is left that was not open before the run. If its searches do not come
to a pair, it prints nothing and exits with status 1. -/
theorem invoke_leaves_nothing_open {kit : Toolkit} {args : List Bytes} {o : Options}
    (hargs : Command.ofArgs kit.patterns args = .ok (.run o)) (logWord : Option String)
    (change : Machine.Change) {m : Machine} (hm : m.Fresh) :
    (∀ before call handle after,
      (kit.invoke (Machine.changing change) args logWord m).2.journal =
        before ++ .called call (.opened handle) :: after →
      call.attempt?.isSome →
      (closes before).count handle = 0 ∧ (closes after).count handle = 1) ∧
    (∀ before call outcome after handle,
      (kit.invoke (Machine.changing change) args logWord m).2.journal =
        before ++ .called call outcome :: after →
      call.handle? = some handle → handle ∈ given before ∧ handle ∉ closes before) ∧
    (kit.invoke (Machine.changing change) args logWord m).2.handles = m.handles ∧
    ((Machine.changing change).pair o { m with journal := [.logged .ready] } = none →
      (kit.invoke (Machine.changing change) args logWord m).1.stdout = "" ∧
        (kit.invoke (Machine.changing change) args logWord m).1.status = 1) := by
  have hleft : (kit.invoke (Machine.changing change) args logWord m).2 =
      (((Machine.changing change).run o).run m.forgetJournal).2 :=
    congrArg Prod.snd (invoke_run hargs logWord rfl)
  have hfresh : m.forgetJournal.Fresh := hm
  have haccount := run_keeps (keeps_changing hfresh _ change) (fun _ line => leads_print line) o
    m.forgetJournal ⟨⟨[], rfl, tidy_refl _⟩, trivial⟩
  rw [← hleft] at haccount
  obtain ⟨⟨own, hown, htidy⟩, -⟩ := haccount
  obtain rfl := List.map_eq_nil_iff.mp hown
  obtain ⟨es, hjournal, hcustody, hnodup, -⟩ := htidy.journal_eq
  have hjournal : (kit.invoke (Machine.changing change) args logWord m).2.journal = es := hjournal
  rw [hjournal]
  refine ⟨?_, ?_, htidy.handles_eq.trans (List.append_nil _), fun hnone => ?_⟩
  · rintro before call handle after rfl hcall
    exact hcustody.closed_once hnodup (if_pos hcall)
  · rintro before call outcome after handle rfl hasks
    exact hcustody.asked hnodup hasks
  · have hquiet : Account m.forgetJournal (· = []) [] m.forgetJournal :=
      ⟨⟨[], rfl, tidy_refl _⟩, rfl⟩
    obtain ⟨f, hfailed, hlast⟩ :=
      run_keeps_of_unpaired (keeps_changing hfresh (· = []) change) rfl hquiet hnone
    have hrun : ((Machine.changing change).run o).run m.forgetJournal =
        (.error f, (((Machine.changing change).run o).run m.forgetJournal).2) :=
      Prod.ext hfailed rfl
    rw [invoke_run hargs logWord hrun, hlast.lines]
    exact ⟨rfl, rfl⟩

/-- A world that is gone as soon as the interfaces of a controller have been read. -/
def Machine.Change.vanishing : Machine.Change := fun events w =>
  if events.any fun
    | .called (.fillInterfaces _ _) _ => true
    | _ => false
  then {} else w

/-- The pair is found, and then the video node does not answer for its number any more. -/
theorem invoke_leaves_nothing_open_vanishing :
    ∃ o, Command.ofArgs Toolkit.standard.patterns [] = .ok (.run o) ∧ Machine.sample.Fresh ∧
      (Toolkit.standard.invoke (Machine.changing .vanishing) [] none .sample).1.status = 1 ∧
      (Toolkit.standard.invoke (Machine.changing .vanishing) [] none .sample).2.reportLines =
        [.video (.ofString "/dev/video0"), .videoDriver "", .card "", .videoBus ""] ∧
      (∃ before after,
        (Toolkit.standard.invoke (Machine.changing .vanishing) [] none .sample).2.journal =
          before ++ .called (.openVideo (.ofString "/dev/video0")) (.opened 5) :: after ∧
        (closes before).count 5 = 0 ∧ (closes after).count 5 = 1) ∧
      (Toolkit.standard.invoke (Machine.changing .vanishing) [] none .sample).2.handles =
        [(4, .ofString "/dev/video0")] := by
  have hargs : Command.ofArgs Toolkit.standard.patterns [] = .ok (.run
      { devDir := .ofString "/dev", sysDir := .ofString "/sys", filters := {}, verbose := false,
        quiet := false }) := rfl
  obtain ⟨hclosed, -, hhandles, -⟩ :=
    invoke_leaves_nothing_open hargs none .vanishing Machine.fresh_sample
  have hjournal :
      (Toolkit.standard.invoke (Machine.changing .vanishing) [] none .sample).2.journal =
        [.logged .ready, .called (.list (.ofString "/dev")) .done,
          .logged (.probing (.ofString "/dev/video0"))] ++
          .called (.openVideo (.ofString "/dev/video0")) (.opened 5) :: _ := rfl
  exact ⟨_, hargs, Machine.fresh_sample, rfl, rfl,
    ⟨_, _, hjournal, hclosed _ _ _ _ hjournal rfl⟩, hhandles⟩

end MediaPairing
