import Mathlib.Data.List.Basic
import MediaPairing.Proofs.Discovery.Pairing
import MediaPairing.Proofs.Machine.Record

/-!
# The two ways to use a machine agree

Through the kernel's interface, texts pass fixed-size fields, device numbers their packed form
and names directory records, and the reported number of interfaces is bounded by the buffer.
On a plain world none of this makes a difference: each search gives the same through the
kernel's interface as it gives from the machine's own values, and leaves the same handles open.

* `Node.Plain`, `World.Plain`: what nodes and names are like on a plain world.
* `Node.Plain.capability_eq` and so on: a plain node says the same both ways.
* `names_plain`: a listing differs in the names that stand for directories at most.
* `probed_eq`, `resolved_eq`: the answers of the searches, from these.
-/

namespace MediaPairing

/-! ## Plain worlds -/

/-- The texts of the node fit the fields of the kernel's records, and its interfaces have no
flags. -/
structure Node.Plain (n : Node) : Prop where
  capability : ∀ r, n.capability = .ok r →
    FitsField 16 r.driver ∧ FitsField 32 r.card ∧ FitsField 32 r.busInfo
  mediaInfo : ∀ r, n.mediaInfo = .ok r →
    FitsField 16 r.driver ∧ FitsField 32 r.model ∧ FitsField 40 r.serial ∧ FitsField 32 r.busInfo
  interfaces : ∀ t, n.topology = .ok t → ∀ i ∈ t.interfaces, i.flags = 0

/-- A name that an entry of a directory can have. -/
structure PlainName (name : Bytes) : Prop where
  not_empty : name ≠ []
  length_le : name.length ≤ 255
  nul_not_mem : 0 ∉ name
  slash_not_mem : Path.slash ∉ name

/-- The directory `dir` can be a real one, and all nodes are plain. -/
structure World.Plain (w : World) (dir : Path) : Prop where
  dir_hasNul : dir.hasNul = false
  names : ∀ entries, w.dirs.get? dir = some (.ok entries) →
    ∀ name, .ok name ∈ entries → PlainName name
  nodes : ∀ path n, w.nodes.get? path = some n → n.Plain

/-! ## What a plain node says -/

namespace Node.Plain

variable {n : Node}

theorem capability_eq (h : n.Plain) :
    Backend.kernel.capability n = Backend.direct.capability n := by
  unfold Backend.capability
  cases hreply : n.capability with
  | error e => simp only [Except.map]
  | ok r =>
    obtain ⟨hdriver, hcard, hbus⟩ := h.capability r hreply
    have hread : r.record.capability = r.capability := by
      unfold CapabilityReply.record CapabilityRecord.capability CapabilityReply.capability
      rw [text_ofBytes hdriver, text_ofBytes hcard, text_ofBytes hbus]
    simp only [Except.map, hread]

theorem mediaInfo_eq (h : n.Plain) :
    Backend.kernel.mediaInfo n = Backend.direct.mediaInfo n := by
  unfold Backend.mediaInfo
  cases hreply : n.mediaInfo with
  | error e => simp only [Except.map]
  | ok r =>
    obtain ⟨hdriver, hmodel, hserial, hbus⟩ := h.mediaInfo r hreply
    have hread : r.record.mediaInfo = r.mediaInfo := by
      unfold MediaInfoReply.record MediaInfoRecord.mediaInfo MediaInfoReply.mediaInfo
      rw [text_ofBytes hdriver, text_ofBytes hmodel, text_ofBytes hserial, text_ofBytes hbus]
    simp only [Except.map, hread]

/-- Without flags, nothing is lost of an interface. -/
theorem withoutFlags_eq {i : Interface} (h : i.flags = 0) : Machine.withoutFlags i = i := by
  unfold Machine.withoutFlags Interface.ofType Interface.type
  rw [InterfaceType.raw_ofRaw, ← h]

theorem fill_eq (h : n.Plain) (count : Nat) :
    Backend.kernel.fill n count = Backend.direct.fill n count := by
  unfold Backend.fill
  cases htopology : n.topology with
  | error e => rfl
  | ok t =>
    have hflags : t.interfaces.map Backend.direct.interface =
        t.interfaces.map Backend.kernel.interface :=
      List.map_congr_left fun i hi => withoutFlags_eq (h.interfaces t htopology i hi)
    unfold TopologyReply.answerFill
    simp only [Except.bind]
    cases t.fillFailure with
    | some e => rfl
    | none =>
      dsimp only
      split
      · rfl
      · simp only [Except.map, hflags]

end Node.Plain

/-- A device number is the same both ways, on any node. -/
theorem number_eq (n : Node) : Backend.kernel.number n = Backend.direct.number n := by
  unfold Backend.number
  cases n.number with
  | error e => rfl
  | ok number =>
    cases number with
    | pair devnum => exact congrArg Except.ok devnum.unpack_pack
    | word rdev => rfl

theorem interfaces_eq {node : Except Errno Node} (h : ∀ n, node = .ok n → n.Plain) (path : Path) :
    Backend.kernel.interfaces path node = Backend.direct.interfaces path node := by
  unfold Backend.interfaces
  cases node with
  | error e => rfl
  | ok n =>
    simp only [Except.bind, (h n rfl).fill_eq]
    rfl

theorem verdict_eq {n : Node} (h : n.Plain) (devnum : DeviceNumber) :
    Backend.kernel.verdict devnum n = Backend.direct.verdict devnum n := by
  unfold Backend.verdict
  simp only [h.mediaInfo_eq, h.fill_eq]
  rfl

/-! ## Listings -/

section

variable {w : World} {dir : Path}

theorem mem_of_readNames {entries : List (Except Errno Bytes)} {names : List Bytes}
    (h : readNames entries = .ok names) {name : Bytes} (hname : name ∈ names) :
    .ok name ∈ entries := by
  induction entries generalizing names with
  | nil =>
    cases h
    cases hname
  | cons entry rest ih =>
    cases entry with
    | error e => cases h
    | ok first =>
      rw [readNames] at h
      cases hrest : readNames rest with
      | error e =>
        rw [hrest] at h
        cases h
      | ok names' =>
        rw [hrest] at h
        cases h
        rcases List.mem_cons.mp hname with rfl | hname
        · exact List.mem_cons_self
        · exact List.mem_cons_of_mem _ (ih hrest hname)

theorem PlainName.recordName_eq {name : Bytes} (h : PlainName name) :
    Machine.recordName name = name := by
  have hbefore := beforeNul_append h.nul_not_mem 0
  rw [List.replicate_zero, List.append_nil] at hbefore
  unfold Machine.recordName
  rw [hbefore]
  exact List.take_of_length_le h.length_le

/-- Through the kernel, the names that stand for directories are left out. -/
theorem names_plain (h : w.Plain dir) :
    Backend.kernel.names w dir =
      (Backend.direct.names w dir).map (·.filter (!Machine.isDotName ·)) := by
  have hadmits : Backend.kernel.admits dir = true := by simp [Backend.admits, h.dir_hasNul]
  unfold Backend.names
  rw [if_pos hadmits, if_pos (show Backend.direct.admits dir = true from rfl)]
  cases hentries : w.dirs.get? dir with
  | none => rfl
  | some listing =>
    cases listing with
    | error e => rfl
    | ok entries =>
      simp only [Option.getD, Except.bind]
      cases hnames : readNames entries with
      | error e => rfl
      | ok names =>
        have hrecord : names.map Machine.recordName = names.map fun name => name :=
          List.map_congr_left fun name hname =>
            (h.names entries hentries name (mem_of_readNames hnames hname)).recordName_eq
        rw [List.map_id'] at hrecord
        change Except.ok ((names.map Machine.recordName).filter _) = _
        rw [hrecord]
        rfl

/-- These names are not among the candidates anyway. -/
theorem candidates_filter {stem : String} {byte : UInt8} {rest : Bytes}
    (hstem : Utf8.encode stem = byte :: rest) (hbyte : byte ≠ Path.dot) (dir : Path)
    (names : List Bytes) :
    candidates stem dir (names.filter (!Machine.isDotName ·)) = candidates stem dir names := by
  unfold candidates
  rw [List.filter_filter, hstem]
  congr 1
  refine List.filter_congr fun name _ => ?_
  cases name with
  | nil => rfl
  | cons c name =>
    rw [List.isPrefixOf_cons_cons]
    by_cases hc : byte = c
    · have hdot : Machine.isDotName (c :: name) = false := by
        subst hc
        simp [Machine.isDotName, hbyte]
      rw [hdot, Bool.not_false, Bool.and_true]
    · rw [beq_eq_false_iff_ne.mpr hc, Bool.false_and, Bool.false_and]

/-! ## Searches -/

theorem reached_eq {paths : List Path} (h : ∀ path ∈ paths, Backend.kernel.admits path = true)
    (handle : Nat) :
    Backend.kernel.reached w handle paths = Backend.direct.reached w handle paths := by
  induction paths generalizing handle with
  | nil => rfl
  | cons path rest ih =>
    have hrest := ih fun path' h' => h path' (List.mem_cons_of_mem path h')
    have hreach : Backend.kernel.reach w path = Backend.direct.reach w path :=
      Backend.reach_of_admits .kernel (h path List.mem_cons_self) w
    unfold Backend.reached
    rw [hreach]
    cases Backend.direct.reach w path with
    | error e => exact hrest handle
    | ok n => exact congrArg _ (hrest (handle + 1))

theorem plain_of_reached {b : Backend} (h : w.Plain dir) {handle : Nat} {paths : List Path}
    {r : Reached} (hr : r ∈ b.reached w handle paths) : r.node.Plain :=
  h.nodes r.path r.node (get?_of_reach (reach_of_mem_reached hr))

/-- The nodes that a search opens are the same both ways. -/
theorem reached_candidates (h : w.Plain dir) {names : List Bytes}
    (hnames : Backend.direct.names w dir = .ok names) {stem : String} {byte : UInt8}
    {rest : Bytes} (hstem : Utf8.encode stem = byte :: rest) (hbyte : byte ≠ Path.dot)
    (handle : Nat) :
    Backend.kernel.reached w handle (candidates stem dir names) =
      Backend.direct.reached w handle (candidates stem dir names) := by
  have hkernel := names_plain h
  rw [hnames] at hkernel
  have hadmits := candidates_admitted hkernel stem
  rw [candidates_filter hstem hbyte] at hadmits
  exact reached_eq hadmits handle

theorem offer_eq {r : Reached} (h : r.node.Plain) :
    Backend.kernel.offer r = Backend.direct.offer r := by
  unfold Backend.offer
  rw [h.capability_eq]

theorem probed_eq {τ : Type} (h : w.Plain dir) (handle : Nat)
    (answer : τ → VideoDevice Nat → Bool × τ) (s : τ) :
    Backend.kernel.probed w handle dir answer s = Backend.direct.probed w handle dir answer s := by
  unfold Backend.probed
  rw [names_plain h]
  cases hnames : Backend.direct.names w dir with
  | error e => rfl
  | ok names =>
    have hoffers : Backend.kernel.offers w handle (candidates videoStem dir names) =
        Backend.direct.offers w handle (candidates videoStem dir names) := by
      unfold Backend.offers
      rw [reached_candidates h hnames encode_videoStem (by decide)]
      exact List.filterMap_congr fun r hr => offer_eq (plain_of_reached h hr)
    simp only [Except.map]
    rw [candidates_filter encode_videoStem (by decide), hoffers]

theorem node_plain {m : Machine} (h : m.world.Plain dir) {handle : Nat} {n : Node}
    (hn : m.node handle = .ok n) : n.Plain := by
  unfold Machine.node at hn
  split at hn
  · cases hn
  · rename_i path _
    split at hn
    · cases hn
    · rename_i n' hget
      cases hn
      exact h.nodes path n hget

theorem resolved_eq {m : Machine} (h : m.world.Plain dir) (video : VideoDevice Nat) :
    Backend.kernel.resolved m dir video = Backend.direct.resolved m dir video := by
  have hnumber : Backend.kernel.number = Backend.direct.number := funext number_eq
  unfold Backend.resolved
  rw [hnumber, names_plain h]
  cases (m.node video.fd).bind Backend.direct.number with
  | error e => rfl
  | ok devnum =>
    cases hnames : Backend.direct.names m.world dir with
    | error e => rfl
    | ok names =>
      have hdecisions : (Backend.direct.reached m.world m.nextHandle
            (candidates mediaStem dir names)).filterMap (Backend.kernel.decision devnum) =
          (Backend.direct.reached m.world m.nextHandle
            (candidates mediaStem dir names)).filterMap (Backend.direct.decision devnum) := by
        refine List.filterMap_congr fun r hr => ?_
        unfold Backend.decision
        rw [verdict_eq (plain_of_reached h hr)]
      simp only [Except.map]
      rw [candidates_filter encode_mediaStem (by decide),
        reached_candidates h hnames encode_mediaStem (by decide), ← List.head?_filterMap,
        hdecisions, List.head?_filterMap]

end

/-- A predicate on the path and the capabilities of a device, with a state of its own. -/
def judging {τ : Type} (judge : τ → Path → Capability → Bool × τ) (device : VideoDevice Nat) :
    StateT τ (StateM Machine) Bool :=
  fun s => pure (judge s device.path device.capability)

section

variable {τ : Type} (judge : τ → Path → Capability → Bool × τ)

theorem decides_judging :
    Decides (judging judge) fun s device => judge s device.path device.capability :=
  fun _ _ m => answers_pure _ m _

end

theorem probe_agrees {m : Machine} (hm : m.Fresh) {dir : Path} (hplain : m.world.Plain dir)
    {τ : Type} (judge : τ → Path → Capability → Bool × τ) (s : τ) :
    (((probe Backend.kernel.access dir (judging judge)).run s).run m).1 =
        (((probe Backend.direct.access dir (judging judge)).run s).run m).1 ∧
      ∀ device, (((probe Backend.kernel.access dir (judging judge)).run s).run m).1.1 =
          .ok device →
        (((probe Backend.kernel.access dir (judging judge)).run s).run m).2.Alike
          (((probe Backend.direct.access dir (judging judge)).run s).run m).2 := by
  have hdecides := (decides_judging judge).on m.world
  have hanswer : (((probe Backend.kernel.access dir (judging judge)).run s).run m).1 =
      (((probe Backend.direct.access dir (judging judge)).run s).run m).1 := by
    rw [probe_answer hdecides hm, probe_answer hdecides hm, probed_eq hplain]
  refine ⟨hanswer, fun device hdevice => ?_⟩
  exact probe_leaves_alike .kernel .direct hdecides (decides_judging judge).inert hm
    ⟨rfl, rfl, rfl⟩ hdevice (by rw [← hanswer, hdevice])

theorem resolve_agrees {m : Machine} (hm : m.Fresh) {dir : Path} (hplain : m.world.Plain dir)
    (video : VideoDevice Nat) :
    ((resolve Backend.kernel.access dir video).run m).1 =
        ((resolve Backend.direct.access dir video).run m).1 ∧
      ∀ media, ((resolve Backend.kernel.access dir video).run m).1 = .ok media →
        ((resolve Backend.kernel.access dir video).run m).2.Alike
          ((resolve Backend.direct.access dir video).run m).2 := by
  have hanswer : ((resolve Backend.kernel.access dir video).run m).1 =
      ((resolve Backend.direct.access dir video).run m).1 := by
    rw [(resolve_resolution .kernel hm dir video).answer_eq,
      (resolve_resolution .direct hm dir video).answer_eq, resolved_eq hplain]
  exact ⟨hanswer, fun media hmedia => resolve_leaves_alike .kernel .direct hm ⟨rfl, rfl, rfl⟩ hmedia
    (hanswer.symm.trans hmedia)⟩

/-! ## An example -/

/-- A machine with texts that are shorter than their fields, a device number that is spread
over its packed form, a name that stands for a directory, and a controller that reports more
interfaces than it has. -/
def Machine.plainSample : Machine where
  world :=
    { dirs := [(.ofString "/dev", .ok [.ok (Utf8.encode "."), .ok (Utf8.encode "media0"),
        .ok (Utf8.encode "video0")])]
      nodes := [(.ofString "/dev/video0",
          { number := .ok (.pair ⟨4177, 4660⟩)
            capability := .ok { driver := Utf8.encode "vivid" } }),
        (.ofString "/dev/media0",
          { mediaInfo := .ok { driver := Utf8.encode "vivid" }
            topology := .ok
              { interfaces := [.ofType 7 .v4lVideo ⟨4177, 4660⟩], reported := some 9 } })] }
  nextHandle := 1
  handles := [(0, .ofString "/dev/video0")]

theorem fitsField_nil (size : Nat) : FitsField size [] where
  nul_not_mem := List.not_mem_nil
  length_le := Nat.zero_le size
  wellFormed := ⟨"", rfl, fun _ h => (by cases h), fun _ h => (by cases h)⟩

theorem fitsField_vivid : FitsField 16 (Utf8.encode "vivid") where
  nul_not_mem := by decide
  length_le := by decide
  wellFormed := ⟨"vivid", rfl, fun c h => by cases h; rfl, fun c h => by cases h; rfl⟩

theorem plain_plainSample : Machine.plainSample.world.Plain (.ofString "/dev") where
  dir_hasNul := by decide
  names := by
    intro entries hentries name hname
    cases hentries
    simp only [List.mem_cons, Except.ok.injEq, List.not_mem_nil, or_false] at hname
    rcases hname with rfl | rfl | rfl <;> exact ⟨by decide, by decide, by decide, by decide⟩
  nodes := by
    intro path n hn
    obtain ⟨_, _, htable, -⟩ := List.lookup_eq_some_iff.mp hn
    have hmem : (path, n) ∈ Machine.plainSample.world.nodes := by
      rw [htable]
      exact List.mem_append_right _ List.mem_cons_self
    rcases List.mem_cons.mp hmem with hvideo | hmem
    · cases hvideo
      refine ⟨fun r hr => ?_, fun r hr => (by cases hr), fun t ht => (by cases ht)⟩
      cases hr
      exact ⟨fitsField_vivid, fitsField_nil 32, fitsField_nil 32⟩
    · cases List.mem_singleton.mp hmem
      refine ⟨fun r hr => (by cases hr), fun r hr => ?_, fun t ht i hi => ?_⟩
      · cases hr
        exact ⟨fitsField_vivid, fitsField_nil 32, fitsField_nil 40, fitsField_nil 32⟩
      · cases ht
        cases List.mem_singleton.mp hi
        rfl

/-- Accepts the device at a path, and counts the devices that it is asked about. -/
def judgePath (path : Path) (asked : Nat) (path' : Path) (_ : Capability) : Bool × Nat :=
  (path' == path, asked + 1)

/-! ## Agreement -/

/-- On a plain world, the two ways to use a machine give the same: the same device with the same
handle and the same record, the same interfaces, or the same error. A search that succeeds
also leaves the same machine, up to the journal. -/
theorem backends_agree {m : Machine} (hm : m.Fresh) {dir : Path} (hplain : m.world.Plain dir)
    {τ : Type} (judge : τ → Path → Capability → Bool × τ) (s : τ) (video : VideoDevice Nat)
    (media : MediaDevice Nat) :
    ((((probe Machine.kernel dir (judging judge)).run s).run m).1 =
        (((probe Machine.direct dir (judging judge)).run s).run m).1 ∧
      ∀ device, (((probe Machine.kernel dir (judging judge)).run s).run m).1.1 = .ok device →
        (((probe Machine.kernel dir (judging judge)).run s).run m).2.Alike
          (((probe Machine.direct dir (judging judge)).run s).run m).2) ∧
    (((resolve Machine.kernel dir video).run m).1 = ((resolve Machine.direct dir video).run m).1 ∧
      ∀ device, ((resolve Machine.kernel dir video).run m).1 = .ok device →
        ((resolve Machine.kernel dir video).run m).2.Alike
          ((resolve Machine.direct dir video).run m).2) ∧
    ((videoInterfaces Machine.kernel media).run m).1 =
      ((videoInterfaces Machine.direct media).run m).1 := by
  refine ⟨probe_agrees hm hplain judge s, resolve_agrees hm hplain video, ?_⟩
  have hkernel := (videoInterfaces_answers .kernel media m).fst_run
  have hdirect := (videoInterfaces_answers .direct media m).fst_run
  rw [interfaces_eq (fun n hn => node_plain hplain hn)] at hkernel
  exact hkernel.trans hdirect.symm

theorem backends_agree_plainSample :
    Machine.plainSample.Fresh ∧ Machine.plainSample.world.Plain (.ofString "/dev") ∧
      (((probe Machine.kernel (.ofString "/dev")
          (judging (judgePath (.ofString "/dev/video0")))).run 0).run .plainSample).1 =
        (.ok ⟨.ofString "/dev/video0", 1, { driver := "vivid" }⟩, 1) ∧
      ((resolve Machine.kernel (.ofString "/dev") ⟨.ofString "/dev/video0", 0, {}⟩).run
        .plainSample).1 = .ok ⟨.ofString "/dev/media0", 1, { driver := "vivid" }⟩ := by
  have hfresh : Machine.plainSample.Fresh := by
    intro p hp
    rw [List.mem_singleton.mp hp]
    decide
  obtain ⟨⟨hprobe, -⟩, ⟨hresolve, -⟩, -⟩ := backends_agree hfresh plain_plainSample
    (judgePath (.ofString "/dev/video0")) 0 ⟨.ofString "/dev/video0", 0, {}⟩
    ⟨.ofString "/dev/media0", 1, {}⟩
  exact ⟨hfresh, plain_plainSample, hprobe.trans rfl, hresolve.trans rfl⟩

end MediaPairing
