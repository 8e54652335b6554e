import MediaPairing.Proofs.Discovery.Pairing

/-!
# Controllers without a rival

Where two controllers publish the same number, the listing decides which of them is found, and
a controller with too many interfaces ends the search wherever it stands. Without rivals and
without such controllers, the order of the listing does not matter, nor how often a name
stands in it.

* `Backend.Owns`: the controllers that publish a number.
* `owns_iff_verdict`: they are those with a verdict in their favour.
* `Settled`, `findSome?_settled`: what a search comes to, by the set of its candidates;
  `Settled.congr`: two searches among the same candidates.
* `resolve_ignores_order`: two listings with the same candidates.
-/

namespace MediaPairing

/-! ## Owners -/

/-- The node at `path` opens, describes itself, and can be read to publish a video interface
with the number `devnum`. -/
def Backend.Owns (b : Backend) (w : World) (devnum : DeviceNumber) (path : Path) : Prop :=
  ∃ n info is, b.reach w path = .ok n ∧ b.mediaInfo n = .ok info ∧
    b.interfaces path (.ok n) = .ok is ∧ ∃ i ∈ is, i.rawType = 0x200 ∧ i.devnode = devnum

/-- If the node at `path` opens and describes itself, a buffer can hold as many interfaces as it
counts. -/
def Backend.Holdable (b : Backend) (w : World) (path : Path) : Prop :=
  ∀ n info count, b.reach w path = .ok n → b.mediaInfo n = .ok info → n.count = .ok count →
    Interface.recordSize * count.toNat ≤ b.limit

section

variable {b : Backend} {w : World} {devnum : DeviceNumber} {n : Node} {path : Path}

theorem mediaInfo_of_verdict {verdict : Except UInt32 MediaInfo}
    (h : b.verdict devnum n = some verdict) : ∃ info, b.mediaInfo n = .ok info := by
  unfold Backend.verdict at h
  split at h
  · rename_i info count hinfo hcount
    exact ⟨info, hinfo⟩
  · cases h

/-- A verdict in favour of a controller rests on an interface that can be read. -/
theorem verdict_eq_ok_iff {info : MediaInfo} (path : Path) :
    b.verdict devnum n = some (.ok info) ↔
      b.mediaInfo n = .ok info ∧ ∃ is, b.interfaces path (.ok n) = .ok is ∧
        ∃ i ∈ is, i.rawType = 0x200 ∧ i.devnode = devnum := by
  constructor
  · intro h
    obtain ⟨info', hinfo⟩ := mediaInfo_of_verdict h
    have hpublished := publishes_published hinfo devnum path
    rw [h] at hpublished
    generalize (b.interfaces path (.ok n)).map _ = published at hpublished
    cases hpublished
    exact ⟨hinfo, interfaces_of_verdict h path⟩
  · rintro ⟨hinfo, is, hinterfaces, i, hi, hmatch⟩
    have hpublished := publishes_published hinfo devnum path
    have hany : (is.filter Interface.isVideo).any (·.devnode = devnum) = true := by
      rw [any_filter_isVideo, List.any_eq_true]
      exact ⟨i, hi, decide_eq_true hmatch⟩
    rw [hinterfaces, Except.map, hany] at hpublished
    generalize b.verdict devnum n = verdict at hpublished ⊢
    cases hpublished
    rfl

theorem owns_iff_verdict :
    b.Owns w devnum path ↔
      ∃ n info, b.reach w path = .ok n ∧ b.verdict devnum n = some (.ok info) := by
  constructor
  · rintro ⟨n, info, is, hreach, hinfo, his⟩
    exact ⟨n, info, hreach, (verdict_eq_ok_iff path).mpr ⟨hinfo, is, his⟩⟩
  · rintro ⟨n, info, hreach, hverdict⟩
    obtain ⟨hinfo, is, his⟩ := (verdict_eq_ok_iff path).mp hverdict
    exact ⟨n, info, is, hreach, hinfo, his⟩

/-- A verdict of too many interfaces rests on the count. -/
theorem verdict_ne_error (h : b.Holdable w path) (hreach : b.reach w path = .ok n)
    (count : UInt32) : b.verdict devnum n ≠ some (.error count) := by
  intro hverdict
  unfold Backend.verdict at hverdict
  split at hverdict
  · rename_i info count' hinfo hcount
    have hle := h n info count' hreach hinfo hcount
    rw [if_neg (Nat.not_lt.mpr hle)] at hverdict
    split at hverdict
    · cases hverdict
    · split at hverdict <;> cases hverdict
  · cases hverdict

/-! ## Opened candidates -/

theorem path_mem_of_reached {handle : Nat} {paths : List Path} {r : Reached}
    (h : r ∈ b.reached w handle paths) : r.path ∈ paths := by
  induction paths generalizing handle with
  | nil => cases h
  | cons path rest ih =>
    cases hreach : b.reach w path with
    | error e =>
      rw [reached_cons_error hreach] at h
      exact List.mem_cons_of_mem path (ih h)
    | ok n =>
      rw [reached_cons_ok hreach] at h
      rcases List.mem_cons.mp h with rfl | h
      · exact List.mem_cons_self
      · exact List.mem_cons_of_mem path (ih h)

theorem exists_reached {paths : List Path} (hpath : path ∈ paths)
    (hreach : b.reach w path = .ok n) (handle : Nat) :
    ∃ r ∈ b.reached w handle paths, r.path = path ∧ r.node = n := by
  induction paths generalizing handle with
  | nil => cases hpath
  | cons path' rest ih =>
    rcases List.mem_cons.mp hpath with rfl | hpath
    · rw [reached_cons_ok hreach]
      exact ⟨_, List.mem_cons_self, rfl, rfl⟩
    · cases hreach' : b.reach w path' with
      | error e =>
        rw [reached_cons_error hreach']
        exact ih hpath handle
      | ok n' =>
        obtain ⟨r, hr, heq⟩ := ih hpath (handle + 1)
        rw [reached_cons_ok hreach']
        exact ⟨r, List.mem_cons_of_mem _ hr, heq⟩

/-! ## What a search comes to -/

/-- What a search can come to among candidates whose interfaces a buffer can hold: an owner is
found, or there is none. -/
inductive Settled (b : Backend) (w : World) (devnum : DeviceNumber) (paths : List Path) :
    Option (Except PairingError (MediaDevice Nat)) → Prop
  | owned {path : Path} {n : Node} {info : MediaInfo} {handle : Nat} (path_mem : path ∈ paths)
    (reach_eq : b.reach w path = .ok n) (verdict_eq : b.verdict devnum n = some (.ok info)) :
    Settled b w devnum paths (some (.ok { path, fd := handle, info }))
  | unowned (not_owns : ∀ path ∈ paths, ¬b.Owns w devnum path) : Settled b w devnum paths none

theorem findSome?_settled {paths : List Path} (hcounts : ∀ path ∈ paths, b.Holdable w path)
    (devnum : DeviceNumber) (handle : Nat) :
    Settled b w devnum paths ((b.reached w handle paths).findSome? (b.decision devnum)) := by
  cases hfound : (b.reached w handle paths).findSome? (b.decision devnum) with
  | none =>
    refine .unowned fun path hpath howns => ?_
    obtain ⟨n, info, hreach, hverdict⟩ := owns_iff_verdict.mp howns
    obtain ⟨r, hr, rfl, rfl⟩ := exists_reached hpath hreach handle
    have hnone := List.findSome?_eq_none_iff.mp hfound r hr
    rw [Backend.decision, hverdict] at hnone
    cases hnone
  | some answer =>
    obtain ⟨r, hr, hdecision⟩ := List.exists_of_findSome?_eq_some hfound
    obtain ⟨verdict, hverdict, rfl⟩ := Option.map_eq_some_iff.mp hdecision
    have hpath := path_mem_of_reached hr
    have hreach := reach_of_mem_reached hr
    cases verdict with
    | error count => exact absurd hverdict (verdict_ne_error (hcounts _ hpath) hreach count)
    | ok info => exact .owned hpath hreach hverdict

end

/-! ## Two listings -/

section

variable {b : Backend} {m m' : Machine} {dir : Path} {names names' : List Bytes}

theorem mem_candidates_media {path : Path} :
    path ∈ candidates mediaStem dir names ↔
      ∃ name ∈ names, [0x6D, 0x65, 0x64, 0x69, 0x61].isPrefixOf name = true ∧
        dir.join ⟨name⟩ = path := by
  rw [mem_candidates, encode_mediaStem]

/-- The names that count decide on the candidates. -/
theorem mem_candidates_congr
    (h : ∀ name, [0x6D, 0x65, 0x64, 0x69, 0x61].isPrefixOf name = true →
      (name ∈ names ↔ name ∈ names')) (path : Path) :
    path ∈ candidates mediaStem dir names ↔ path ∈ candidates mediaStem dir names' := by
  rw [mem_candidates_media, mem_candidates_media]
  constructor
  · rintro ⟨name, hname, hstem, hpath⟩
    exact ⟨name, (h name hstem).mp hname, hstem, hpath⟩
  · rintro ⟨name, hname, hstem, hpath⟩
    exact ⟨name, (h name hstem).mpr hname, hstem, hpath⟩

theorem reach_of_nodes (h : m'.world.nodes = m.world.nodes) (path : Path) :
    b.reach m'.world path = b.reach m.world path := by
  unfold Backend.reach
  rw [h]

theorem Settled.of_nodes {w w' : World} {devnum : DeviceNumber} {paths paths' : List Path}
    {found : Option (Except PairingError (MediaDevice Nat))}
    (hreach : ∀ path, b.reach w' path = b.reach w path)
    (hpaths : ∀ path, path ∈ paths ↔ path ∈ paths') (h : Settled b w' devnum paths' found) :
    Settled b w devnum paths found := by
  cases h with
  | owned hpath hreached hverdict =>
    exact .owned ((hpaths _).mpr hpath) ((hreach _).symm.trans hreached) hverdict
  | unowned hnone =>
    refine .unowned fun path hpath howns => hnone path ((hpaths path).mp hpath) ?_
    obtain ⟨n, info, hreached, hverdict⟩ := owns_iff_verdict.mp howns
    exact owns_iff_verdict.mpr ⟨n, info, (hreach path).trans hreached, hverdict⟩

/-- Two searches among the same candidates come to the same if no two of these are owners. -/
theorem Settled.congr {w : World} {devnum : DeviceNumber} {paths : List Path}
    {found found' : Option (Except PairingError (MediaDevice Nat))}
    (hunique : ∀ path ∈ paths, ∀ path' ∈ paths,
      b.Owns w devnum path → b.Owns w devnum path' → path = path')
    (h : Settled b w devnum paths found) (h' : Settled b w devnum paths found') :
    (∃ path info handle handle', path ∈ paths ∧ b.Owns w devnum path ∧
      found = some (.ok { path, fd := handle, info }) ∧
      found' = some (.ok { path, fd := handle', info })) ∨
    (∀ path ∈ paths, ¬b.Owns w devnum path) ∧ found = none ∧ found' = none := by
  cases h with
  | @owned path n info handle hpath hreached hverdict =>
    have howns := owns_iff_verdict.mpr ⟨n, info, hreached, hverdict⟩
    cases h' with
    | @owned path' n' info' handle' hpath' hreached' hverdict' =>
      -- the two searches have met the same node, as it has no rival
      have howns' := owns_iff_verdict.mpr ⟨n', info', hreached', hverdict'⟩
      obtain rfl := hunique path hpath path' hpath' howns howns'
      obtain rfl := Except.ok.inj (hreached.symm.trans hreached')
      cases hverdict.symm.trans hverdict'
      exact .inl ⟨path, info, handle, handle', hpath, howns, rfl, rfl⟩
    | unowned hnone => exact absurd howns (hnone path hpath)
  | unowned hnone =>
    cases h' with
    | @owned path' n' info' handle' hpath' hreached' hverdict' =>
      exact absurd (owns_iff_verdict.mpr ⟨n', info', hreached', hverdict'⟩) (hnone path' hpath')
    | unowned _ => exact .inr ⟨hnone, rfl, rfl⟩

end

/-- If no two candidates publish the number of the video node, and none has too many interfaces,
the order of the listing and repetitions in it do not matter: the owner is found, or there is
none. -/
theorem resolve_ignores_order (b : Backend) {m m' : Machine} (hm : m.Fresh) (hm' : m'.Fresh)
    (hnodes : m'.world.nodes = m.world.nodes) (hhandles : m'.handles = m.handles) {dir : Path}
    {video : VideoDevice Nat} {devnum : DeviceNumber}
    (hnumber : ((deviceNumberOf b.access video).run m).1 = .ok devnum)
    {names names' : List Bytes} (hnames : b.names m.world dir = .ok names)
    (hnames' : b.names m'.world dir = .ok names')
    (hsame : ∀ name, [0x6D, 0x65, 0x64, 0x69, 0x61].isPrefixOf name = true →
      (name ∈ names ↔ name ∈ names'))
    (hcounts : ∀ path ∈ candidates mediaStem dir names, b.Holdable m.world path)
    (hunique : ∀ path ∈ candidates mediaStem dir names,
      ∀ path' ∈ candidates mediaStem dir names,
        b.Owns m.world devnum path → b.Owns m.world devnum path' → path = path') :
    (∃ path info handle handle', path ∈ candidates mediaStem dir names ∧
      b.Owns m.world devnum path ∧
      ((resolve b.access dir video).run m).1 = .ok { path, fd := handle, info } ∧
      ((resolve b.access dir video).run m').1 = .ok { path, fd := handle', info }) ∨
    (∀ path ∈ candidates mediaStem dir names, ¬b.Owns m.world devnum path) ∧
      ((resolve b.access dir video).run m).1 = .error (.noMatchingMediaDevice dir devnum) ∧
      ((resolve b.access dir video).run m').1 = .error (.noMatchingMediaDevice dir devnum) := by
  have hnumber : (m.node video.fd).bind b.number = .ok devnum := by
    rw [(deviceNumberOf_answers b video m).fst_run, Backend.identity] at hnumber
    generalize (m.node video.fd).bind b.number = number at hnumber ⊢
    cases number with
    | error e => cases hnumber
    | ok devnum' => exact congrArg Except.ok (Except.ok.inj hnumber)
  have hnumber' : (m'.node video.fd).bind b.number = .ok devnum := by
    rw [Machine.node_congr hnodes hhandles, hnumber]
  have hreach := fun path => reach_of_nodes (b := b) hnodes path
  have hpaths : ∀ path, path ∈ candidates mediaStem dir names ↔
      path ∈ candidates mediaStem dir names' := mem_candidates_congr hsame
  have hcounts' : ∀ path ∈ candidates mediaStem dir names', b.Holdable m'.world path := by
    intro path hpath n info count hreached
    rw [hreach] at hreached
    exact hcounts path ((hpaths path).mpr hpath) n info count hreached
  have hsettled := findSome?_settled hcounts devnum m.nextHandle
  have hsettled' := (findSome?_settled hcounts' devnum m'.nextHandle).of_nodes hreach hpaths
  rw [(resolve_resolution b hm dir video).answer_eq, (resolve_resolution b hm' dir video).answer_eq]
  unfold Backend.resolved
  rw [hnumber, hnumber', hnames, hnames']
  dsimp only
  rcases hsettled.congr hunique hsettled' with
    ⟨path, info, handle, handle', hpath, howns, hfound, hfound'⟩ | ⟨hnone, hfound, hfound'⟩
  · rw [hfound, hfound']
    exact .inl ⟨path, info, handle, handle', hpath, howns, rfl, rfl⟩
  · rw [hfound, hfound']
    exact .inr ⟨hnone, rfl, rfl⟩

/-- `Machine.sample` with the controllers listed in the other order, one of them twice, and another
name between them. -/
def Machine.relisted : Machine where
  world :=
    { Machine.sample.world with
      dirs := [(.ofString "/dev", .ok [.ok (Utf8.encode "media1"), .ok (Utf8.encode "null"),
        .ok (Utf8.encode "media0"), .ok (Utf8.encode "media1")])] }
  nextHandle := 9
  handles := Machine.sample.handles

theorem resolve_ignores_order_relisted :
    Machine.sample.Fresh ∧ Machine.relisted.Fresh ∧
      ∃ info handle handle',
        ((resolve Machine.kernel (.ofString "/dev") ⟨.ofString "/dev/video0", 4, {}⟩).run
          .sample).1 = .ok ⟨.ofString "/dev/media1", handle, info⟩ ∧
        ((resolve Machine.kernel (.ofString "/dev") ⟨.ofString "/dev/video0", 4, {}⟩).run
          .relisted).1 = .ok ⟨.ofString "/dev/media1", handle', info⟩ := by
  have hfresh : Machine.relisted.Fresh := by
    intro p hp
    rw [List.mem_singleton.mp hp]
    decide
  have hnumber : ((deviceNumberOf Machine.kernel ⟨.ofString "/dev/video0", 4, {}⟩).run
    .sample).1 = .ok ⟨81, 0⟩ := rfl
  have hnames : Backend.kernel.names Machine.sample.world (.ofString "/dev") =
    .ok (["video0", "media0", "video1", "media1"].map Utf8.encode) := rfl
  have hnames' : Backend.kernel.names Machine.relisted.world (.ofString "/dev") =
    .ok (["media1", "null", "media0", "media1"].map Utf8.encode) := rfl
  have hsame : ∀ name, [0x6D, 0x65, 0x64, 0x69, 0x61].isPrefixOf name = true →
      (name ∈ ["video0", "media0", "video1", "media1"].map Utf8.encode ↔
        name ∈ ["media1", "null", "media0", "media1"].map Utf8.encode) := by
    intro name hstem
    simp only [List.map_cons, List.map_nil, List.mem_cons, List.not_mem_nil, or_false]
    constructor
    · rintro (rfl | rfl | rfl | rfl)
      · cases hstem
      · exact .inr (.inr (.inl rfl))
      · cases hstem
      · exact .inl rfl
    · rintro (rfl | rfl | rfl | rfl)
      · exact .inr (.inr (.inr rfl))
      · cases hstem
      · exact .inr (.inl rfl)
      · exact .inr (.inr (.inr rfl))
  have hcandidates : candidates mediaStem (.ofString "/dev")
      (["video0", "media0", "video1", "media1"].map Utf8.encode) =
    [.ofString "/dev/media0", .ofString "/dev/media1"] := rfl
  have hcounts : ∀ path ∈ candidates mediaStem (.ofString "/dev")
      (["video0", "media0", "video1", "media1"].map Utf8.encode),
      Backend.kernel.Holdable Machine.sample.world path := by
    rw [hcandidates, List.forall_mem_cons, List.forall_mem_singleton]
    constructor
    all_goals
      intro n info count hreach hinfo hcount
      cases hreach
      cases hcount
      decide
  have howner : ∀ path ∈ candidates mediaStem (.ofString "/dev")
      (["video0", "media0", "video1", "media1"].map Utf8.encode),
      Backend.kernel.Owns Machine.sample.world ⟨81, 0⟩ path → path = .ofString "/dev/media1" := by
    rw [hcandidates, List.forall_mem_cons, List.forall_mem_singleton]
    constructor
    · -- a controller without interfaces cannot be read
      rintro ⟨n, info, is, hreach, hinfo, his, -⟩
      cases hreach
      cases his
    · exact fun _ => rfl
  refine ⟨Machine.fresh_sample, hfresh, ?_⟩
  rcases resolve_ignores_order .kernel Machine.fresh_sample hfresh rfl rfl hnumber hnames hnames'
    hsame hcounts (fun path hpath path' hpath' howns howns' =>
      (howner path hpath howns).trans (howner path' hpath' howns').symm) with
    ⟨path, info, handle, handle', hpath, howns, hanswer, hanswer'⟩ | ⟨-, hanswer, -⟩
  · obtain rfl := howner path hpath howns
    exact ⟨info, handle, handle', hanswer, hanswer'⟩
  · cases hanswer

end MediaPairing
