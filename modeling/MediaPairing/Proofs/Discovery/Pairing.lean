import MediaPairing.Proofs.Discovery.Probing
import MediaPairing.Proofs.Discovery.Resolving

/-!
# A pair of devices

Once a controller was found for a video node, both can be asked again: the machine still has
the nodes behind the two handles, so the number, and the topology with the interface that
carries it, come out the same.

* `Backend.Paired`, `resolve_paired`: what asking again gives.
* `Machine.Alike`: two machines that differ in their journals at most. Both searches find the
  same on them, and leave them alike (`probe_alike`, `resolve_alike`).
-/

namespace MediaPairing

variable {τ : Type}

/-! ## Asking again -/

/-- On `m` the open devices `video` and `media` have the number `devnum` and the interfaces
`is`, and one of these is a video interface with that number. -/
structure Backend.Paired (b : Backend) (m : Machine) (video : VideoDevice Nat)
    (media : MediaDevice Nat) (devnum : DeviceNumber) (is : List Interface) : Prop where
  number_eq : (m.node video.fd).bind b.number = .ok devnum
  interfaces_eq : b.interfaces media.path (m.node media.fd) = .ok is
  published : ∃ i ∈ is, i.rawType = 0x200 ∧ i.devnode = devnum

section

variable {b : Backend} {m m' : Machine} {w : World}

theorem reach_of_mem_reached {handle : Nat} {paths : List Path} {r : Reached}
    (h : r ∈ b.reached w handle paths) : b.reach w r.path = .ok r.node := by
  induction paths generalizing handle with
  | nil => cases h
  | cons path rest ih =>
    cases hreach : b.reach w path with
    | error e =>
      rw [reached_cons_error hreach] at h
      exact ih h
    | ok n =>
      rw [reached_cons_ok hreach] at h
      rcases List.mem_cons.mp h with rfl | h
      · exact hreach
      · exact ih h

/-- A matching verdict rests on interfaces that can be read. -/
theorem interfaces_of_verdict {devnum : DeviceNumber} {n : Node} {info : MediaInfo}
    (h : b.verdict devnum n = some (.ok info)) (path : Path) :
    ∃ is, b.interfaces path (.ok n) = .ok is ∧
      ∃ i ∈ is, i.rawType = 0x200 ∧ i.devnode = devnum := by
  unfold Backend.verdict at h
  split at h
  · rename_i info' count hinfo hcount
    split at h
    · cases h
    · rename_i hlimit
      split at h
      · cases h
      · rename_i is hfill
        split at h
        · rename_i hany
          obtain ⟨i, hi, hmatch⟩ := List.any_eq_true.mp hany
          have hmatch := of_decide_eq_true hmatch
          have hnonzero : count ≠ 0 := by
            rintro rfl
            rw [fill_zero hfill] at hi
            cases hi
          refine ⟨is, ?_, i, hi, hmatch⟩
          unfold Backend.interfaces
          simp only [Except.bind, hcount]
          rw [if_neg hnonzero, if_neg hlimit, hfill]
          rfl
        · cases h
  · cases h

/-- What was open before can be asked as before, whatever was opened since. -/
theorem bind_node_of_append {α : Type} {handle : Nat} {ask : Node → Except Errno α} {a : α}
    {opened : List (Nat × Path)} (hworld : m'.world = m.world)
    (hhandles : m'.handles = m.handles ++ opened)
    (h : (m.node handle).bind ask = .ok a) : (m'.node handle).bind ask = .ok a := by
  unfold Machine.node at h ⊢
  rw [hworld, hhandles, List.lookup_append]
  cases hlookup : m.handles.lookup handle with
  | none =>
    rw [hlookup] at h
    cases h
  | some path =>
    rw [hlookup] at h
    exact h

/-- The node behind a handle that was opened last. -/
theorem node_of_append {p : Nat × Path} {n : Node} (hm : m.Fresh) (hp : m.nextHandle ≤ p.1)
    (hworld : m'.world = m.world) (hhandles : m'.handles = m.handles ++ [p])
    (hn : m.world.nodes.get? p.2 = some n) : m'.node p.1 = .ok n := by
  have hlt : ∀ q ∈ m.handles, q.1 < p.1 := fun q hq => Nat.lt_of_lt_of_le (hm q hq) hp
  unfold Machine.node
  rw [hhandles, hworld, Machine.lookup_append_last hlt]
  dsimp only
  rw [hn]

end

theorem resolve_paired (b : Backend) {m m' : Machine} (hm : m.Fresh) {dir : Path}
    {video : VideoDevice Nat} {media : MediaDevice Nat}
    (hrun : (resolve b.access dir video).run m = (.ok media, m')) :
    ∃ devnum is, b.Paired m' video media devnum is := by
  have hprogress := resolve_progress b dir video hm
  have hresolution := resolve_resolution b hm dir video
  rw [hrun] at hprogress hresolution
  cases hresolution with
  | @searched devnum names _ hnumber hnames hresolved =>
    have hanswer := hresolved.answer_eq
    cases hfound : (b.reached m.world m.nextHandle (candidates mediaStem dir names)).findSome?
        (b.decision devnum) with
    | none =>
      rw [hfound] at hanswer
      cases hanswer
    | some answer =>
      rw [hfound] at hanswer
      cases hanswer
      obtain ⟨r, hr, hdecision⟩ := List.exists_of_findSome?_eq_some hfound
      obtain ⟨verdict, hverdict, hmedia⟩ := Option.map_eq_some_iff.mp hdecision
      cases verdict with
      | error count => cases hmedia
      | ok info =>
        cases hmedia
        -- the controller's handle is above all that were open, so it is the one looked up
        have hhandles := hprogress.handles_eq
        have hlast := hprogress.kept_last (r.handle, r.path) rfl
        have hnode := node_of_append hm hlast.1 hresolved.searched.world_eq hhandles
          (get?_of_reach (reach_of_mem_reached hr))
        obtain ⟨is, hinterfaces, hpublished⟩ := interfaces_of_verdict hverdict r.path
        refine ⟨devnum, is, ?_, ?_, hpublished⟩
        · exact bind_node_of_append hresolved.searched.world_eq hhandles hnumber
        · rw [hnode]
          exact hinterfaces

/-! ## Machines with different journals -/

/-- The machines differ in their journals at most. -/
structure Machine.Alike (m m' : Machine) : Prop where
  world_eq : m'.world = m.world
  nextHandle_eq : m'.nextHandle = m.nextHandle
  handles_eq : m'.handles = m.handles

namespace Machine.Alike

variable {m m' m₁ m₁' : Machine}

theorem fresh (h : Alike m m') (hm : m.Fresh) : m'.Fresh := by
  intro p hp
  rw [h.handles_eq] at hp
  rw [h.nextHandle_eq]
  exact hm p hp

theorem node_eq (h : Alike m m') (handle : Nat) : m'.node handle = m.node handle :=
  node_congr (congrArg World.nodes h.world_eq) h.handles_eq handle

theorem extend (h : Alike m m') (es : List Event) : Alike m (m'.extend es) :=
  ⟨h.world_eq, h.nextHandle_eq, h.handles_eq⟩

/-- What comes of alike machines is alike if the same node was opened on both. -/
theorem of_progress {p : Nat × Path} (h : Alike m m') (hprogress : Progress m (some p) m₁)
    (hprogress' : Progress m' (some p) m₁') (hworld : m₁.world = m.world)
    (hworld' : m₁'.world = m'.world) : Alike m₁ m₁' where
  world_eq := by rw [hworld', h.world_eq, hworld]
  nextHandle_eq := by
    rw [(hprogress'.kept_last p rfl).2, (hprogress.kept_last p rfl).2]
  handles_eq := by rw [hprogress'.handles_eq, h.handles_eq, hprogress.handles_eq]

end Machine.Alike

theorem Backend.Paired.of_alike {b : Backend} {m m' : Machine} {video : VideoDevice Nat}
    {media : MediaDevice Nat} {devnum : DeviceNumber} {is : List Interface}
    (h : b.Paired m video media devnum is) (halike : m.Alike m') :
    b.Paired m' video media devnum is where
  number_eq := by rw [halike.node_eq, h.number_eq]
  interfaces_eq := by rw [halike.node_eq, h.interfaces_eq]
  published := h.published

section

variable {b : Backend} {m m' : Machine}

theorem resolved_of_alike (h : m.Alike m') (dir : Path) (video : VideoDevice Nat) :
    b.resolved m' dir video = b.resolved m dir video := by
  unfold Backend.resolved
  rw [h.node_eq, h.world_eq, h.nextHandle_eq]

/-- Two searches on alike machines that find the same controller leave alike machines. -/
theorem resolve_leaves_alike (b b' : Backend) (hm : m.Fresh) (h : m.Alike m') {dir : Path}
    {video : VideoDevice Nat} {media : MediaDevice Nat}
    (hanswer : ((resolve b.access dir video).run m).1 = .ok media)
    (hanswer' : ((resolve b'.access dir video).run m').1 = .ok media) :
    ((resolve b.access dir video).run m).2.Alike ((resolve b'.access dir video).run m').2 := by
  have hprogress := resolve_progress b dir video hm
  have hprogress' := resolve_progress b' dir video (h.fresh hm)
  rw [hanswer] at hprogress
  rw [hanswer'] at hprogress'
  obtain ⟨_, hsearched⟩ := (resolve_resolution b hm dir video).searches
  obtain ⟨_, hsearched'⟩ := (resolve_resolution b' (h.fresh hm) dir video).searches
  exact h.of_progress hprogress hprogress' hsearched.world_eq hsearched'.world_eq

theorem resolve_alike (b : Backend) (hm : m.Fresh) (h : m.Alike m') (dir : Path)
    (video : VideoDevice Nat) :
    ((resolve b.access dir video).run m').1 = ((resolve b.access dir video).run m).1 ∧
      ∀ media, ((resolve b.access dir video).run m).1 = .ok media →
        ((resolve b.access dir video).run m).2.Alike ((resolve b.access dir video).run m').2 := by
  have hanswer : ((resolve b.access dir video).run m').1 =
      ((resolve b.access dir video).run m).1 := by
    rw [(resolve_resolution b (h.fresh hm) dir video).answer_eq,
      (resolve_resolution b hm dir video).answer_eq, resolved_of_alike h]
  exact ⟨hanswer, fun media hmedia => resolve_leaves_alike b b hm h hmedia (hanswer.trans hmedia)⟩

section

variable {accept : VideoDevice Nat → StateT τ (StateM Machine) Bool}
  {answer : τ → VideoDevice Nat → Bool × τ}

theorem DecidesIn.of_alike (hdecides : DecidesIn m.world accept answer) (h : m.Alike m') :
    DecidesIn m'.world accept answer := by
  rw [h.world_eq]
  exact hdecides

/-- Two searches on alike machines that find the same device leave alike machines. -/
theorem probe_leaves_alike (b b' : Backend) (hdecides : DecidesIn m.world accept answer)
    (hinert : Inert accept) (hm : m.Fresh) (h : m.Alike m') {dir : Path} {s : τ}
    {device : VideoDevice Nat}
    (hanswer : (((probe b.access dir accept).run s).run m).1.1 = .ok device)
    (hanswer' : (((probe b'.access dir accept).run s).run m').1.1 = .ok device) :
    (((probe b.access dir accept).run s).run m).2.Alike
      (((probe b'.access dir accept).run s).run m').2 := by
  have hprogress := probe_progress b hinert dir s hm
  have hprogress' := probe_progress b' hinert dir s (h.fresh hm)
  rw [hanswer] at hprogress
  rw [hanswer'] at hprogress'
  obtain ⟨_, hsearched⟩ := probe_searches (b := b) hdecides hm dir s
  obtain ⟨_, hsearched'⟩ := probe_searches (b := b') (hdecides.of_alike h) (h.fresh hm) dir s
  exact h.of_progress hprogress hprogress' hsearched.world_eq hsearched'.world_eq

theorem probe_alike (b : Backend) (hdecides : DecidesIn m.world accept answer)
    (hinert : Inert accept) (hm : m.Fresh) (h : m.Alike m') (dir : Path) (s : τ) :
    (((probe b.access dir accept).run s).run m').1 =
        (((probe b.access dir accept).run s).run m).1 ∧
      ∀ device, (((probe b.access dir accept).run s).run m).1.1 = .ok device →
        (((probe b.access dir accept).run s).run m).2.Alike
          (((probe b.access dir accept).run s).run m').2 := by
  have hanswer : (((probe b.access dir accept).run s).run m').1 =
      (((probe b.access dir accept).run s).run m).1 := by
    rw [probe_answer (hdecides.of_alike h) (h.fresh hm), probe_answer hdecides hm, h.world_eq,
      h.nextHandle_eq]
  refine ⟨hanswer, fun device hdevice => ?_⟩
  exact probe_leaves_alike b b hdecides hinert hm h hdevice (by rw [hanswer, hdevice])

end

end

end MediaPairing
