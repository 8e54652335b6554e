import MediaPairing.Proofs.Command.Report

/-!
# The report of a run with a format

The filter and the report ask for the same formats, but not for the same queues. The filter
stops at the first queue that offers the code, while the report goes through all of them and
gives up at the first one that cannot be enumerated. So a device that has passed the filter is
reported in full exactly if none of its queues fails.

* `formatReport_listed`, `formatReport_broken`: the two ways in which the report on the formats
  can end.
* `alike_of_probed`: what probing with the filters leaves.
* `pair_of_answers`: the pair of a machine from what the two searches answer.
* `passes_of_pair`: a device of a pair still passes the filters.
* `text_offers`: what the lines on the formats read.
* `invoke_reports_formats`: the output of a run with a pair.
-/

namespace MediaPairing

/-! ## The report on the formats -/

section

variable {offered : BufferQueue → Except PairingError (List PixelFormat)} {fourcc : FourCc}
  {fs : BufferQueue → List PixelFormat}

theorem formatReport_listed {queues : List BufferQueue}
    (h : ∀ queue ∈ queues, offered queue = .ok (fs queue)) :
    formatReport offered fourcc queues =
      (.ok (), queues.flatMap fun queue => formatLines fourcc queue (fs queue)) := by
  induction queues with
  | nil => rfl
  | cons queue rest ih =>
    have hrest := ih fun queue' h' => h queue' (List.mem_cons_of_mem queue h')
    rw [formatReport, h queue List.mem_cons_self, hrest, List.flatMap_cons]

theorem formatReport_broken {before after : List BufferQueue} {queue : BufferQueue}
    {e : PairingError} (h : ∀ queue ∈ before, offered queue = .ok (fs queue))
    (hfailed : offered queue = .error e) :
    formatReport offered fourcc (before ++ queue :: after) =
      (.error e, before.flatMap fun queue => formatLines fourcc queue (fs queue)) := by
  induction before with
  | nil =>
    rw [List.nil_append, formatReport, hfailed]
    rfl
  | cons queue' rest ih =>
    have hrest := ih fun queue'' h' => h queue'' (List.mem_cons_of_mem queue' h')
    rw [List.cons_append, formatReport, h queue' List.mem_cons_self, hrest, List.flatMap_cons]

end

/-- What it means for a queue of a device that it cannot be listed. -/
theorem cause_of_failed {video : VideoDevice Nat} {n : Except Errno Node} {queue : BufferQueue}
    {e : PairingError} (hfailed : video.offered n queue = .error e) :
    ∃ cause, e = .formatQueryFailed video.path cause := by
  unfold VideoDevice.offered at hfailed
  cases hqueue : queueFormats n queue with
  | error cause =>
    rw [hqueue] at hfailed
    exact ⟨cause, (Except.error.inj hfailed).symm⟩
  | ok fs =>
    rw [hqueue] at hfailed
    cases hfailed

/-! ## The device of a pair -/

/-- The machine with a video node open that was found on `m`. -/
def Machine.withVideo (m : Machine) (video : VideoDevice Nat) : Machine :=
  { m with nextHandle := video.fd + 1, handles := m.handles ++ [video.holding] }

section

variable {o : Options} {m m₁ m₂ : Machine} {video : VideoDevice Nat} {media : MediaDevice Nat}

/-- What probing with the filters leaves, up to the journal. -/
theorem alike_of_probed (hm : m.Fresh)
    (hprobe : (probeWith Machine.kernel o.devDir (Machine.system.accepts o.filters)).run m =
      (.ok video, m₁)) :
    (m.withVideo video).Alike m₁ ∧ m₁.Fresh ∧ ∀ p ∈ m.handles, p.1 < video.fd := by
  have hrun := probeWith_run_iff.mp hprobe
  have hprogress := probe_progress .kernel (inert_accepts o.filters) o.devDir () hm
  obtain ⟨_, hsearched⟩ :=
    probe_searches (b := .kernel) (decides_accepts o.filters m.world) hm o.devDir ()
  rw [hrun] at hprogress hsearched
  obtain ⟨hle, hnext⟩ := hprogress.kept_last video.holding rfl
  refine ⟨⟨hsearched.world_eq, hnext, hprogress.handles_eq⟩, hprogress.fresh hm, fun p hp => ?_⟩
  exact Nat.lt_of_lt_of_le (hm p hp) hle

/-- The pair of a machine from what probing and resolving answer. -/
theorem pair_of_answers (hm : m.Fresh)
    (hprobed : Backend.kernel.probed m.world m.nextHandle o.devDir
      (fun (s : Unit) device =>
        (o.filters.passes (device.offered (m.world.node device.path)) device.capability, s)) () =
      (.ok video, ()))
    (hresolved : Backend.kernel.resolved (m.withVideo video) o.devDir video = .ok media) :
    ∃ m₂, Machine.system.pair o m = some (video, media, m₂) := by
  have hanswer : (((probe Backend.kernel.access o.devDir fun device =>
      StateT.lift (Machine.system.accepts o.filters device)).run ()).run m).1 =
        (.ok video, ()) := by
    rw [probe_answer (decides_accepts o.filters m.world) hm (), hprobed]
  obtain ⟨m₁, hprobe⟩ : ∃ m₁,
      (probeWith Machine.kernel o.devDir (Machine.system.accepts o.filters)).run m =
        (.ok video, m₁) := ⟨_, probeWith_run_iff.mpr (Prod.ext hanswer rfl)⟩
  obtain ⟨halike, hfresh, -⟩ := alike_of_probed hm hprobe
  have hmedia := (resolve_resolution .kernel hfresh o.devDir video).answer_eq
  rw [resolved_of_alike halike, hresolved] at hmedia
  obtain ⟨m₂, hresolve⟩ : ∃ m₂, (resolve Machine.kernel o.devDir video).run m₁ =
      (.ok media, m₂) := ⟨_, Prod.ext hmedia rfl⟩
  have hpair : Machine.system.pair o m = some (video, media, m₂) := pair_of_found hprobe hresolve
  exact ⟨m₂, hpair⟩

/-- The handles of a pair are open on top of the others, each with a number of its own. -/
theorem handles_of_pair (hm : m.Fresh) (hsome : Machine.system.pair o m = some (video, media, m₂)) :
    m₂.handles = (m.handles ++ [video.holding]) ++ [media.holding] ∧
      (∀ p ∈ m.handles, p.1 < video.fd) ∧ ∀ p ∈ m.handles ++ [video.holding], p.1 < media.fd := by
  obtain ⟨m₁, hprobe, hresolve⟩ := pair_eq_some hsome
  have hresolve : (resolve Backend.kernel.access o.devDir video).run m₁ = (.ok media, m₂) :=
    hresolve
  obtain ⟨halike, hfresh, hlast⟩ := alike_of_probed hm hprobe
  have hresolved := resolve_progress .kernel o.devDir video hfresh
  rw [hresolve] at hresolved
  have hhandles : m₁.handles = m.handles ++ [video.holding] := halike.handles_eq
  refine ⟨?_, hlast, fun p hp => ?_⟩
  · rw [← hhandles]
    exact hresolved.handles_eq
  · rw [← hhandles] at hp
    exact Nat.lt_of_lt_of_le (hfresh p hp) (hresolved.kept_last media.holding rfl).1

/-- The video node's handle still stands for the node at its path when the pair is found. -/
theorem node_of_pair (hm : m.Fresh) (hsome : Machine.system.pair o m = some (video, media, m₂)) :
    m₂.node video.fd = m.world.node video.path := by
  obtain ⟨hhandles, hlast, -⟩ := handles_of_pair hm hsome
  have hlookup : m₂.handles.lookup video.fd = some video.path := by
    have hopen : (m.handles ++ [video.holding]).lookup video.fd = some video.path :=
      Machine.lookup_append_last hlast video.path
    rw [hhandles, List.lookup_append, hopen, Option.some_or]
  rw [Machine.node_of_lookup hlookup, world_of_pair hm hsome]

/-- And so does the controller's. -/
theorem mediaNode_of_pair (hm : m.Fresh)
    (hsome : Machine.system.pair o m = some (video, media, m₂)) :
    m₂.node media.fd = m.world.node media.path := by
  obtain ⟨hhandles, -, hlast⟩ := handles_of_pair hm hsome
  have hlookup : m₂.handles.lookup media.fd = some media.path := by
    rw [hhandles]
    exact Machine.lookup_append_last hlast media.path
  rw [Machine.node_of_lookup hlookup, world_of_pair hm hsome]

theorem passes_of_pair (hm : m.Fresh) (hsome : Machine.system.pair o m = some (video, media, m₂)) :
    o.filters.passes (video.offered (m₂.node video.fd)) video.capability = true := by
  rw [node_of_pair hm hsome]
  obtain ⟨m₁, hprobe, -⟩ := pair_eq_some hsome
  have hanswer : (((probe Backend.kernel.access o.devDir fun device =>
      StateT.lift (Machine.system.accepts o.filters device)).run ()).run m).1 = _ :=
    probe_answer (decides_accepts o.filters m.world) hm ()
  rw [probeWith_run_iff.mp hprobe] at hanswer
  obtain ⟨s₀, haccepted⟩ := accepts_of_probed hanswer.symm
  exact haccepted

/-- A code that was asked for is offered by the device of a pair. -/
theorem offersOn_of_pair {fourcc : FourCc} (hformat : o.filters.format = some fourcc)
    (hm : m.Fresh) (hsome : Machine.system.pair o m = some (video, media, m₂)) :
    offersOn (video.offered (m₂.node video.fd)) fourcc BufferQueue.all = .ok true := by
  have hpasses := passes_of_pair hm hsome
  unfold Filters.passes at hpasses
  rw [hformat, Bool.and_eq_true] at hpasses
  have hoffers := hpasses.2
  dsimp only at hoffers
  split at hoffers
  · rename_i answer hanswer
    rw [hanswer, hoffers]
  · cases hoffers

end

/-! ## A camera -/

/-- The code `NV12`. -/
def FourCc.nv12 : FourCc := ⟨0x4E, 0x56, 0x31, 0x32⟩

/-- A machine with a video node that offers `NV12` on its first queue, and with its
controller. The other queues of the node are free. -/
def Machine.camera (queues : List (UInt32 × FormatReplies)) : Machine where
  world :=
    { dirs := [(.ofString "/dev", .ok [.ok (Utf8.encode "video0"), .ok (Utf8.encode "media0")])]
      nodes := [(.ofString "/dev/video0",
          { number := .ok (.pair ⟨81, 0⟩)
            capability := .ok {}
            formats := .ok ((1, [.ok { code := 0x3231564E }]) :: queues) }),
        (.ofString "/dev/media0",
          { mediaInfo := .ok {}
            topology := .ok { interfaces := [.ofType 7 .v4lVideo ⟨81, 0⟩] } })] }

/-- The options that ask for a code, and for nothing else. -/
def Options.forFormat (fourcc : FourCc) : Options where
  devDir := .ofString "/dev"
  sysDir := .ofString "/sys"
  filters := { format := some fourcc }
  verbose := false
  quiet := false

theorem ofArgs_format (reader : TestReader) {value : Bytes} {fourcc : FourCc}
    (hseparate : isSeparateValue value = true)
    (hvalue : ValueOption.format? value = some fourcc) :
    Command.ofArgs reader [Utf8.encode "--format", value] = .ok (.run (.forFormat fourcc)) := by
  have hargument : Utf8.encode "--format" = [0x2D, 0x2D, 0x66, 0x6F, 0x72, 0x6D, 0x61, 0x74] :=
    rfl
  have hsplit : splitName [0x66, 0x6F, 0x72, 0x6D, 0x61, 0x74] =
      ([0x66, 0x6F, 0x72, 0x6D, 0x61, 0x74], none) := rfl
  have hname : Flag.ofName? [0x66, 0x6F, 0x72, 0x6D, 0x61, 0x74] = some (.value .format) := rfl
  have hassign : ValueOption.assign? reader {} value .format = some { format := some fourcc } :=
    congrArg (Option.map _) hvalue
  rw [hargument, ofArgs_value reader (List.cons_ne_nil _ _) hsplit hname hseparate hassign]
  rfl

theorem fresh_camera (queues : List (UInt32 × FormatReplies)) : (Machine.camera queues).Fresh :=
  fun _ hp => by cases hp

theorem pair_camera (queues : List (UInt32 × FormatReplies)) :
    ∃ m₂, Machine.system.pair (.forFormat .nv12) (.camera queues) =
      some (⟨.ofString "/dev/video0", 0, {}⟩, ⟨.ofString "/dev/media0", 1, {}⟩, m₂) :=
  pair_of_answers (fresh_camera queues) rfl rfl

/-- The pair of the camera. -/
theorem paired_camera {queues : List (UInt32 × FormatReplies)} {m₂ : Machine}
    {video : VideoDevice Nat} {media : MediaDevice Nat}
    (hpair : Machine.system.pair (.forFormat .nv12) (.camera queues) = some (video, media, m₂)) :
    video = ⟨.ofString "/dev/video0", 0, {}⟩ ∧ media = ⟨.ofString "/dev/media0", 1, {}⟩ ∧
      Backend.kernel.Paired m₂ video media ⟨81, 0⟩ [.ofType 7 .v4lVideo ⟨81, 0⟩] := by
  obtain ⟨_, hfound⟩ := pair_camera queues
  obtain ⟨rfl, hmedia⟩ := Prod.mk.inj (Option.some.inj (hpair.symm.trans hfound))
  obtain ⟨rfl, -⟩ := Prod.mk.inj hmedia
  refine ⟨rfl, rfl, ?_, ?_, _, List.mem_singleton_self _, rfl, rfl⟩
  · rw [node_of_pair (fresh_camera queues) hpair]
    rfl
  · rw [mediaNode_of_pair (fresh_camera queues) hpair]
    rfl

/-! ## The report of a run -/

/-- The formats with the code `fourcc`, queue by queue, if the queues offer the formats `fs`. -/
def offersWith (fourcc : FourCc) (fs : BufferQueue → List PixelFormat)
    (queues : List BufferQueue) : List (BufferQueue × PixelFormat) :=
  queues.flatMap fun queue => ((fs queue).filter (·.fourcc == fourcc)).map (queue, ·)

/-- The lines of these formats. -/
def offerTexts (fourcc : FourCc) (fs : BufferQueue → List PixelFormat)
    (queues : List BufferQueue) : List String :=
  (offersWith fourcc fs queues).map fun offer => formatText offer.1 offer.2

theorem text_offers (fourcc : FourCc) (fs : BufferQueue → List PixelFormat)
    (queues : List BufferQueue) :
    (queues.flatMap fun queue => formatLines fourcc queue (fs queue)).map ReportLine.text =
      offerTexts fourcc fs queues := by
  unfold offerTexts offersWith
  rw [List.map_flatMap, List.map_flatMap]
  refine List.flatMap_congr fun queue _ => ?_
  rw [text_formatLines, List.map_map]
  rfl

/-- The text of a report that has broken off at a queue. -/
theorem text_report_formatQueryFailed (path : Path) (errno : Errno) :
    (Failure.report (.formatQueryFailed path (.os errno))).text =
      "Error: format enumeration on " ++ shownPath path ++ " failed: " ++ shownErrno errno ++
        Failure.causeText [shownErrno errno] ++ "\n" := by
  have hhead : "Error: format enumeration on " = "Error: " ++ "format enumeration on " := rfl
  rw [hhead, ← errno.message_eq, ← display_eq]
  change "Error: " ++ ("format enumeration on " ++ path.display ++ " failed: " ++ errno.message) ++
    Failure.causeText [errno.message] ++ "\n" = _
  simp only [String.append_assoc]

/-- The device of a pair offers the code that was asked for. If all of its queues can be
enumerated, the run reports the pair in full. Otherwise a queue before the first one that cannot
is what the device has passed the filter by, and the report ends before that first one. -/
theorem invoke_reports_formats {kit : Toolkit} {args : List Bytes} {o : Options}
    (hargs : Command.ofArgs kit.patterns args = .ok (.run o)) {fourcc : FourCc}
    (hformat : o.filters.format = some fourcc) (logWord : Option String) {m : Machine}
    (hm : m.Fresh) {video : VideoDevice Nat} {media : MediaDevice Nat} {m₂ : Machine}
    (hpair : Machine.system.pair o m = some (video, media, m₂)) :
    ((supportsFormat video fourcc).run m₂).1 = .ok true ∧
      ∃ devnum is log,
        ((deviceNumberOf Machine.kernel video).run m₂).1 = .ok devnum ∧
        ((readInterfaces Machine.kernel media.path media.fd).run m₂).1 = .ok is ∧
        (∀ fs : BufferQueue → List PixelFormat,
          (∀ queue ∈ BufferQueue.all, ((formats video queue).run m₂).1 = .ok (fs queue)) →
          (kit.invoke Machine.system args logWord m).1 =
            ⟨0, printedText (videoTexts video devnum ++ offerTexts fourcc fs BufferQueue.all ++
              mediaTexts media ++ (is.filter (·.rawType = 0x200)).map (o.interfaceText m)), log⟩) ∧
        ∀ (fs : BufferQueue → List PixelFormat) (before : List BufferQueue)
          (queue : BufferQueue) (after : List BufferQueue) (e : PairingError),
          BufferQueue.all = before ++ queue :: after →
          (∀ q ∈ before, ((formats video q).run m₂).1 = .ok (fs q)) →
          ((formats video queue).run m₂).1 = .error e →
          (∃ q ∈ before, ∃ f ∈ fs q, f.fourcc = fourcc) ∧
            (e = .formatQueryFailed video.path .indexOverflow ∨
              ∃ errno, e = .formatQueryFailed video.path (.os errno) ∧
                (kit.invoke Machine.system args logWord m).1 =
                  ⟨1, printedText (videoTexts video devnum ++ offerTexts fourcc fs before),
                    log ++ ("Error: format enumeration on " ++ shownPath video.path ++
                      " failed: " ++ shownErrno errno ++ Failure.causeText [shownErrno errno] ++
                      "\n")⟩) := by
  have hoffers := offersOn_of_pair hformat hm hpair
  have hlisted : ∀ queue, ((formats video queue).run m₂).1 =
      video.offered (m₂.node video.fd) queue :=
    fun queue => (formats_answers video queue m₂).fst_run
  obtain ⟨devnum, is, log, hpaired, hlines, hinvoke⟩ := invoke_prints hargs logWord hm hpair
  rw [hlines, hformat, reportText_eq] at hinvoke
  dsimp only [formatsAsked] at hinvoke
  refine ⟨(supportsFormat_answers video fourcc m₂).fst_run.trans hoffers, devnum, is, log,
    number_of_paired hpaired, interfaces_of_paired hpaired, fun fs hfs => ?_,
    fun fs before queue after e hall hbefore hfailed => ?_⟩
  · simp only [hlisted] at hfs
    have htexts : (o.linesWith m.world video media devnum is
        (formatReport (video.offered (m₂.node video.fd)) fourcc BufferQueue.all)).map
          ReportLine.text = videoTexts video devnum ++ offerTexts fourcc fs BufferQueue.all ++
            mediaTexts media ++ (is.filter (·.rawType = 0x200)).map (o.interfaceText m) := by
      rw [formatReport_listed hfs, text_linesWith_ok, text_offers]
    rw [hinvoke, htexts, formatReport_listed hfs]
    rfl
  · simp only [hlisted] at hbefore hfailed
    have hbroken : formatReport (video.offered (m₂.node video.fd)) fourcc
        (before ++ queue :: after) = _ := formatReport_broken hbefore hfailed
    rw [← hall] at hbroken
    rw [hall] at hoffers
    obtain ⟨q, hq, fs', hfs', f, hf, hcode⟩ := offered_before_failure hoffers hfailed
    have hsame : fs' = fs q := Except.ok.inj (hfs'.symm.trans (hbefore q hq))
    rw [hsame] at hf
    refine ⟨⟨q, hq, f, hf, hcode⟩, ?_⟩
    obtain ⟨cause, rfl⟩ := cause_of_failed hfailed
    cases cause with
    | indexOverflow => exact .inl rfl
    | os errno =>
      refine .inr ⟨errno, rfl, ?_⟩
      have htexts : (o.linesWith m.world video media devnum is
          (formatReport (video.offered (m₂.node video.fd)) fourcc BufferQueue.all)).map
            ReportLine.text = videoTexts video devnum ++ offerTexts fourcc fs before := by
        rw [hbroken, text_linesWith_error, text_offers]
      rw [hinvoke, htexts, hbroken, ← text_report_formatQueryFailed]
      rfl

/-- What the report on the camera begins with. -/
def cameraTexts : List String :=
  ["video: /dev/video0", "  driver: ", "  card: ", "  bus info: ", "  device number: 81:0",
    "  VideoCapture: NV12 ()"]

theorem invoke_reports_formats_sample :
    ∃ o m₂, Command.ofArgs Toolkit.standard.patterns [Utf8.encode "--format", Utf8.encode "NV12"] =
        .ok (.run o) ∧
      o.filters.format = some .nv12 ∧ (Machine.camera []).Fresh ∧
      Machine.system.pair o (.camera []) =
        some (⟨.ofString "/dev/video0", 0, {}⟩, ⟨.ofString "/dev/media0", 1, {}⟩, m₂) ∧
      (∀ queue ∈ BufferQueue.all,
        ((formats ⟨.ofString "/dev/video0", 0, {}⟩ queue).run m₂).1 =
          .ok (if queue = .videoCapture then [⟨.nv12, "", 0⟩] else [])) ∧
      ∃ log, (invoke [Utf8.encode "--format", Utf8.encode "NV12"] none (.camera [])).1 =
        ⟨0, printedText (cameraTexts ++ ["media: /dev/media0", "  driver: ", "  model: ",
          "  bus info: ", "  media version: 0.0.0", "  video interface 7: 81:0 (?)"]), log⟩ := by
  obtain ⟨m₂, hpair⟩ := pair_camera []
  have hargs : Command.ofArgs Toolkit.standard.patterns
      [Utf8.encode "--format", Utf8.encode "NV12"] = .ok (.run (.forFormat .nv12)) :=
    ofArgs_format _ rfl rfl
  have hqueues : ∀ queue ∈ BufferQueue.all,
      ((formats ⟨.ofString "/dev/video0", 0, {}⟩ queue).run m₂).1 =
        .ok (if queue = .videoCapture then [⟨.nv12, "", 0⟩] else []) := by
    intro queue _
    rw [(formats_answers _ queue m₂).fst_run, node_of_pair (fresh_camera []) hpair]
    cases queue <;> rfl
  obtain ⟨-, -, hpaired⟩ := paired_camera hpair
  obtain ⟨-, devnum, is, log, hnumber, hread, hlisted, -⟩ :=
    invoke_reports_formats hargs rfl none (fresh_camera []) hpair
  have hdevnum : devnum = ⟨81, 0⟩ :=
    Except.ok.inj (hnumber.symm.trans (number_of_paired hpaired))
  have his : is = [.ofType 7 .v4lVideo ⟨81, 0⟩] :=
    Except.ok.inj (hread.symm.trans (interfaces_of_paired hpaired))
  have hreport := hlisted _ hqueues
  rw [hdevnum, his] at hreport
  have htexts : videoTexts ⟨.ofString "/dev/video0", 0, {}⟩ ⟨81, 0⟩ ++
      offerTexts .nv12 (fun queue => if queue = .videoCapture then [⟨.nv12, "", 0⟩] else [])
        BufferQueue.all ++ mediaTexts ⟨.ofString "/dev/media0", 1, {}⟩ ++
      ([Interface.ofType 7 .v4lVideo ⟨81, 0⟩].filter (·.rawType = 0x200)).map
        ((Options.forFormat .nv12).interfaceText (.camera [])) =
      cameraTexts ++ ["media: /dev/media0", "  driver: ", "  model: ", "  bus info: ",
        "  media version: 0.0.0", "  video interface 7: 81:0 (?)"] := by
    decide +kernel
  rw [htexts] at hreport
  exact ⟨_, m₂, hargs, rfl, fresh_camera [], hpair, hqueues, log, hreport⟩

/-- A queue that cannot be enumerated ends the report on a device that has passed the filter by
an earlier queue. -/
theorem format_report_breaks_off :
    ∃ o video media m₂,
      Command.ofArgs Toolkit.standard.patterns [Utf8.encode "--format", Utf8.encode "NV12"] =
        .ok (.run o) ∧
      o.filters.format = some .nv12 ∧ (Machine.camera [(9, [.error ⟨5⟩])]).Fresh ∧
      Machine.system.pair o (.camera [(9, [.error ⟨5⟩])]) = some (video, media, m₂) ∧
      (invoke [Utf8.encode "--format", Utf8.encode "NV12"] none
        (.camera [(9, [.error ⟨5⟩])])).1.status = 1 ∧
      (invoke [Utf8.encode "--format", Utf8.encode "NV12"] none
        (.camera [(9, [.error ⟨5⟩])])).1.stdout = printedText cameraTexts := by
  obtain ⟨m₂, hpair⟩ := pair_camera [(9, [.error ⟨5⟩])]
  have hargs : Command.ofArgs Toolkit.standard.patterns
      [Utf8.encode "--format", Utf8.encode "NV12"] = .ok (.run (.forFormat .nv12)) :=
    ofArgs_format _ rfl rfl
  have hfresh := fresh_camera [(9, [.error ⟨5⟩])]
  have hnode := node_of_pair hfresh hpair
  obtain ⟨-, -, hcamera⟩ := paired_camera hpair
  obtain ⟨devnum, is, log, hpaired, hlines, hinvoke⟩ := invoke_prints hargs none hfresh hpair
  have hdevnum : devnum = ⟨81, 0⟩ :=
    Except.ok.inj (hpaired.number_eq.symm.trans hcamera.number_eq)
  have hbroken : formatsAsked (Options.forFormat .nv12).filters.format
      (VideoDevice.offered ⟨.ofString "/dev/video0", 0, {}⟩ (m₂.node 0)) =
        (.error (.formatQueryFailed (.ofString "/dev/video0") (.os ⟨5⟩)),
          [.format .videoCapture ⟨.nv12, "", 0⟩]) := by
    rw [hnode]
    rfl
  rw [hlines, hbroken, hdevnum, reportText_eq] at hinvoke
  have hstatus : (invoke [Utf8.encode "--format", Utf8.encode "NV12"] none
      (.camera [(9, [.error ⟨5⟩])])).1.status = 1 := by
    unfold invoke
    rw [hinvoke]
    rfl
  have hstdout : (invoke [Utf8.encode "--format", Utf8.encode "NV12"] none
      (.camera [(9, [.error ⟨5⟩])])).1.stdout = printedText cameraTexts := by
    unfold invoke
    rw [hinvoke, stdout_reportOutput]
    refine congrArg printedText ?_
    -- nothing is left of the controller
    dsimp only [Options.linesWith]
    decide +kernel
  exact ⟨_, _, _, m₂, hargs, rfl, hfresh, hpair, hstatus, hstdout⟩

end MediaPairing
