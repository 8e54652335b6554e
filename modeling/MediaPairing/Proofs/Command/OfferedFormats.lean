import MediaPairing.Proofs.Command.FormatReport
import MediaPairing.Proofs.Discovery.Enumeration

/-!
# The formats that a run has reported

A run with a format that has come to its end has reported every offer of that format, and there
is one. The filter has looked for the code queue by queue and stopped where it was listed; the
report enumerates all the queues anew, of a node that is the same, and so comes to it again.

* `ReportLine.format?`: the format lines of a report.
* `enumerated_of_formatReport`: where the report on the formats has come to its end, every queue
  has been enumerated.
* `filterMap_formatLines`: of the lines of a report only those on formats are format lines.
* `invoke_reports_offers`: the format lines of a run that has succeeded.
-/

namespace MediaPairing

/-! ## Format lines -/

/-- The format that a line is about, with its queue. -/
def ReportLine.format? : ReportLine → Option (BufferQueue × PixelFormat)
  | .format queue f => some (queue, f)
  | _ => none

section

variable {fourcc : FourCc} {fs : BufferQueue → List PixelFormat}

theorem mem_offersWith {queues : List BufferQueue} {queue : BufferQueue} {f : PixelFormat} :
    (queue, f) ∈ offersWith fourcc fs queues ↔
      queue ∈ queues ∧ f ∈ fs queue ∧ f.fourcc = fourcc := by
  unfold offersWith
  simp only [List.mem_flatMap, List.mem_map, List.mem_filter, beq_iff_eq, Prod.mk.injEq]
  constructor
  · rintro ⟨q, hq, f', hf', rfl, rfl⟩
    exact ⟨hq, hf'⟩
  · rintro ⟨hq, hf⟩
    exact ⟨queue, hq, f, hf, rfl, rfl⟩

theorem filterMap_formatLines (queues : List BufferQueue) :
    (queues.flatMap fun queue => formatLines fourcc queue (fs queue)).filterMap
      ReportLine.format? = offersWith fourcc fs queues := by
  rw [List.filterMap_flatMap]
  refine List.flatMap_congr fun queue _ => ?_
  rw [formatLines, List.filterMap_map]
  exact congrFun List.filterMap_eq_map _

end

theorem filterMap_videoLines (video : VideoDevice Nat) (devnum : DeviceNumber) :
    (videoLines video devnum).filterMap ReportLine.format? = [] := rfl

theorem filterMap_mediaLines (o : Options) (w : World) (media : MediaDevice Nat)
    (is : List Interface) : (o.mediaLines w media is).filterMap ReportLine.format? = [] := by
  rw [Options.mediaLines, List.filterMap_append, List.filterMap_map]
  exact List.filterMap_eq_nil_iff.mpr fun i _ => rfl

/-! ## A report that has come to its end -/

/-- The report on the formats has come to its end only if every queue was enumerated. -/
theorem enumerated_of_formatReport
    {offered : BufferQueue → Except PairingError (List PixelFormat)} {fourcc : FourCc}
    {queues : List BufferQueue} (h : (formatReport offered fourcc queues).1 = .ok ()) :
    ∀ queue ∈ queues, ∃ fs, offered queue = .ok fs := by
  induction queues with
  | nil => exact fun queue hqueue => absurd hqueue List.not_mem_nil
  | cons queue rest ih =>
    rw [formatReport] at h
    cases hoffered : offered queue with
    | error e =>
      rw [hoffered] at h
      cases h
    | ok fs =>
      rw [hoffered] at h
      intro queue' hqueue'
      rcases List.mem_cons.mp hqueue' with rfl | hrest
      · exact ⟨fs, hoffered⟩
      · exact ih h queue' hrest

theorem ok_of_status {text log : String} {reported : Except PairingError Unit}
    (h : (reportOutput text log reported).status = 0) : reported = .ok () := by
  cases reported with
  | ok done => rfl
  | error e => cases h

section

variable {kit : Toolkit} {args : List Bytes} {o : Options} {m m₂ : Machine}
  {video : VideoDevice Nat} {media : MediaDevice Nat}

/-- A command that has succeeded has found a pair. -/
theorem pair_of_status (hargs : Command.ofArgs kit.patterns args = .ok (.run o))
    (logWord : Option String) (hm : m.Fresh)
    (hexit : (kit.invoke Machine.system args logWord m).1.status = 0) :
    ∃ video media m₂, Machine.system.pair o m = some (video, media, m₂) := by
  cases hpair : Machine.system.pair o m with
  | some found => exact ⟨found.1, found.2.1, found.2.2, rfl⟩
  | none =>
    rw [status_of_unpaired hargs logWord hm hpair] at hexit
    cases hexit

/-- What the device of a pair is found to offer is what the node at its path offers. -/
theorem offers_of_pair (hm : m.Fresh) (hsome : Machine.system.pair o m = some (video, media, m₂))
    {queue : BufferQueue} {fs : List PixelFormat}
    (h : video.offered (m₂.node video.fd) queue = .ok fs) :
    QueueOffers (m.world.node video.path) queue fs := by
  rw [← node_of_pair hm hsome]
  exact offers_of_formats ((formats_answers video queue m₂).fst_run.trans h)

end

/-! ## The format lines of a run -/

/-- A camera that offers `NV12` on its second queue as well, after another format. -/
def Machine.planar : Machine :=
  .camera [(9, [.ok { code := 0x56595559 }, .ok { code := 0x3231564E }])]

/-- The formats of that camera. -/
def planarFormats : BufferQueue → List PixelFormat
  | .videoCapture => [⟨.nv12, "", 0⟩]
  | .videoCaptureMplane => [⟨.ofWord 0x56595559, "", 0⟩, ⟨.nv12, "", 0⟩]
  | .videoOutput | .videoOutputMplane => []

theorem offers_planar (queue : BufferQueue) :
    QueueOffers (Machine.planar.world.node (.ofString "/dev/video0")) queue
      (planarFormats queue) := by
  cases queue with
  | videoCapture =>
    exact @QueueOffers.ended _ _ [{ code := 0x3231564E }] (by decide) ⟨fun | 0, _ => rfl, rfl⟩
  | videoCaptureMplane =>
    exact @QueueOffers.ended _ _ [{ code := 0x56595559 }, { code := 0x3231564E }] (by decide)
      ⟨fun | 0, _ => rfl | 1, _ => rfl, rfl⟩
  | videoOutput => exact @QueueOffers.ended _ _ [] (by decide) ⟨nofun, rfl⟩
  | videoOutputMplane => exact @QueueOffers.ended _ _ [] (by decide) ⟨nofun, rfl⟩

/-- A run with a format that has succeeded has found a device all of whose queues can be
enumerated. Between the lines on that device and those on its controller the report has the
formats of the device with the code, queue by queue and in the order of each queue, and there is
at least one. -/
theorem invoke_reports_offers {kit : Toolkit} {args : List Bytes} {o : Options}
    (hargs : Command.ofArgs kit.patterns args = .ok (.run o)) {fourcc : FourCc}
    (hformat : o.filters.format = some fourcc) (logWord : Option String) {m : Machine}
    (hm : m.Fresh) (hexit : (kit.invoke Machine.system args logWord m).1.status = 0) :
    ∃ video media m₂, Machine.system.pair o m = some (video, media, m₂) ∧
      ∃ (fs : BufferQueue → List PixelFormat) (devnum : DeviceNumber) (is : List Interface),
        (∀ queue, QueueOffers (m.world.node video.path) queue (fs queue)) ∧
        ((deviceNumberOf Machine.kernel video).run m₂).1 = .ok devnum ∧
        ((readInterfaces Machine.kernel media.path media.fd).run m₂).1 = .ok is ∧
        (kit.invoke Machine.system args logWord m).1.stdout = printedText
          (videoTexts video devnum ++
            (offersWith fourcc fs
              [.videoCapture, .videoCaptureMplane, .videoOutput, .videoOutputMplane]).map
                (fun offer => formatText offer.1 offer.2) ++
            mediaTexts media ++ (is.filter (·.rawType = 0x200)).map (o.interfaceText m)) ∧
        (kit.invoke Machine.system args logWord m).2.reportLines.filterMap ReportLine.format? =
          offersWith fourcc fs
            [.videoCapture, .videoCaptureMplane, .videoOutput, .videoOutputMplane] ∧
        offersWith fourcc fs
          [.videoCapture, .videoCaptureMplane, .videoOutput, .videoOutputMplane] ≠ [] := by
  obtain ⟨video, media, m₂, hpair⟩ := pair_of_status hargs logWord hm hexit
  obtain ⟨devnum, is, log, hpaired, hlines, hinvoke⟩ := invoke_prints hargs logWord hm hpair
  rw [hformat] at hlines hinvoke
  dsimp only [formatsAsked] at hlines hinvoke
  rw [hinvoke] at hexit
  -- every queue was enumerated, so the report on the formats is known
  choose! fs hfs using enumerated_of_formatReport (ok_of_status hexit)
  rw [formatReport_listed hfs] at hlines hinvoke
  have hreported : (kit.invoke Machine.system args logWord m).2.reportLines.filterMap
      ReportLine.format? = offersWith fourcc fs BufferQueue.all := by
    rw [hlines, Options.linesWith, List.filterMap_append, List.filterMap_append,
      filterMap_videoLines, filterMap_formatLines, filterMap_mediaLines, List.nil_append,
      List.append_nil]
  have hstdout : (kit.invoke Machine.system args logWord m).1.stdout = printedText
      (videoTexts video devnum ++ offerTexts fourcc fs BufferQueue.all ++ mediaTexts media ++
        (is.filter (·.rawType = 0x200)).map (o.interfaceText m)) := by
    rw [hinvoke, stdout_reportOutput, reportText_eq, hlines, text_linesWith_ok, text_offers]
  -- the filter has seen the code on one of them
  obtain ⟨queue, hqueue, fs', hfs', f, hf, hcode⟩ :=
    listed_of_offersOn (offersOn_of_pair hformat hm hpair)
  have hsame : fs' = fs queue := Except.ok.inj (hfs'.symm.trans (hfs queue hqueue))
  have hoffered : (queue, f) ∈ offersWith fourcc fs BufferQueue.all :=
    mem_offersWith.mpr ⟨hqueue, hsame ▸ hf, hcode⟩
  refine ⟨video, media, m₂, hpair, fs, devnum, is, fun q => ?_, number_of_paired hpaired,
    interfaces_of_paired hpaired, hstdout, hreported, List.ne_nil_of_mem hoffered⟩
  exact offers_of_pair hm hpair (hfs q (by cases q <;> decide))

/-- The report goes on after the queue by which the device has passed the filter, and leaves out
the formats with another code. -/
theorem invoke_reports_offers_planar :
    ∃ o, Command.ofArgs Toolkit.standard.patterns [Utf8.encode "--format", Utf8.encode "NV12"] =
        .ok (.run o) ∧
      o.filters.format = some .nv12 ∧ Machine.planar.Fresh ∧
      (invoke [Utf8.encode "--format", Utf8.encode "NV12"] none .planar).1.status = 0 ∧
      (invoke [Utf8.encode "--format", Utf8.encode "NV12"] none .planar).1.stdout = printedText
        ["video: /dev/video0", "  driver: ", "  card: ", "  bus info: ", "  device number: 81:0",
          "  VideoCapture: NV12 ()", "  VideoCaptureMplane: NV12 ()", "media: /dev/media0",
          "  driver: ", "  model: ", "  bus info: ", "  media version: 0.0.0",
          "  video interface 7: 81:0 (?)"] := by
  have hargs : Command.ofArgs Toolkit.standard.patterns
      [Utf8.encode "--format", Utf8.encode "NV12"] = .ok (.run (.forFormat .nv12)) :=
    ofArgs_format _ rfl rfl
  have hfresh : Machine.planar.Fresh := fresh_camera _
  obtain ⟨m₂, hfound⟩ := pair_camera
    [(9, [.ok { code := 0x56595559 }, .ok { code := 0x3231564E }])]
  have hexit : (Toolkit.standard.invoke Machine.system
      [Utf8.encode "--format", Utf8.encode "NV12"] none .planar).1.status = 0 := by
    obtain ⟨devnum, is, log, -, -, hinvoke⟩ := invoke_prints hargs none hfresh hfound
    have hlisted : (formatsAsked (Options.forFormat .nv12).filters.format
        (VideoDevice.offered ⟨.ofString "/dev/video0", 0, {}⟩ (m₂.node 0))).1 = .ok () := by
      rw [node_of_pair hfresh hfound]
      rfl
    rw [hlisted] at hinvoke
    rw [hinvoke]
    rfl
  obtain ⟨video, media, m₂', hpair, fs, devnum, is, hoffers, hnumber, hread, hstdout, -, -⟩ :=
    invoke_reports_offers hargs rfl none hfresh hexit
  obtain ⟨rfl, rfl, hpaired⟩ := paired_camera hpair
  have hfs : fs = planarFormats :=
    funext fun queue => (hoffers queue).unique (offers_planar queue)
  have hdevnum : devnum = ⟨81, 0⟩ :=
    Except.ok.inj (hnumber.symm.trans (number_of_paired hpaired))
  have his : is = [.ofType 7 .v4lVideo ⟨81, 0⟩] :=
    Except.ok.inj (hread.symm.trans (interfaces_of_paired hpaired))
  rw [hfs, hdevnum, his] at hstdout
  have htexts : videoTexts ⟨.ofString "/dev/video0", 0, {}⟩ ⟨81, 0⟩ ++
      (offersWith .nv12 planarFormats
        [.videoCapture, .videoCaptureMplane, .videoOutput, .videoOutputMplane]).map
          (fun offer => formatText offer.1 offer.2) ++
      mediaTexts ⟨.ofString "/dev/media0", 1, {}⟩ ++
      ([Interface.ofType 7 .v4lVideo ⟨81, 0⟩].filter (·.rawType = 0x200)).map
        ((Options.forFormat .nv12).interfaceText .planar) =
      ["video: /dev/video0", "  driver: ", "  card: ", "  bus info: ", "  device number: 81:0",
        "  VideoCapture: NV12 ()", "  VideoCaptureMplane: NV12 ()", "media: /dev/media0",
        "  driver: ", "  model: ", "  bus info: ", "  media version: 0.0.0",
        "  video interface 7: 81:0 (?)"] := by
    decide +kernel
  rw [htexts] at hstdout
  unfold invoke
  exact ⟨_, hargs, rfl, hfresh, hexit, hstdout⟩

end MediaPairing
