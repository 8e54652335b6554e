import MediaPairing.Proofs.Discovery.Probing
import MediaPairing.Proofs.Discovery.Resolving

/-!
# Devices apart from their handles

The handles that a search is given depend on what was opened before it; what it finds does not.
Without its handle, a device that is offered or found is settled by the world and the path.

* `VideoDevice.sight`, `MediaDevice.sight`: a device without its handle.
* `Backend.sight`, `offers_sight`: what a search for a video node has to offer, path by path.
* `find?_offers`, `Probed.stateless`: the choice of a predicate that keeps no state.
* `Backend.finding`, `findSome?_reached`: how a search for a controller ends, path by path.
* `resolved_sight`: resolving a video node on two machines with the same world.
-/

namespace MediaPairing

/-- The device without its handle. -/
def VideoDevice.sight (d : VideoDevice Nat) : Path × Capability := (d.path, d.capability)

/-- The device without its handle. -/
def MediaDevice.sight (d : MediaDevice Nat) : Path × MediaInfo := (d.path, d.info)

section

variable {b : Backend} {w : World}

/-! ## Video nodes -/

/-- The device that a search has to offer after opening the node at `path`. -/
def Backend.sight (b : Backend) (w : World) (path : Path) : Option (Path × Capability) :=
  match b.reach w path with
  | .error _ => none
  | .ok n => (b.capability n).toOption.map (path, ·)

theorem offers_sight (handle : Nat) (paths : List Path) :
    (b.offers w handle paths).map VideoDevice.sight = paths.filterMap (b.sight w) := by
  induction paths generalizing handle with
  | nil => rfl
  | cons path rest ih =>
    unfold Backend.offers at ih ⊢
    cases hreach : b.reach w path with
    | error e =>
      have hsight : b.sight w path = none := by simp [Backend.sight, hreach]
      rw [reached_cons_error hreach, List.filterMap_cons_none hsight]
      exact ih handle
    | ok n =>
      rw [reached_cons_ok hreach]
      cases hreply : b.capability n with
      | error e =>
        have hoffer : b.offer { handle, path, node := n } = none := by
          simp [Backend.offer, hreply]
        have hsight : b.sight w path = none := by
          simp [Backend.sight, hreach, hreply, Except.toOption]
        rw [List.filterMap_cons_none hoffer, List.filterMap_cons_none hsight]
        exact ih (handle + 1)
      | ok capability =>
        have hoffer : b.offer { handle, path, node := n } = some ⟨path, handle, capability⟩ := by
          simp [Backend.offer, hreply]
        have hsight : b.sight w path = some (path, capability) := by
          simp [Backend.sight, hreach, hreply, Except.toOption]
        rw [List.filterMap_cons_some hoffer, List.filterMap_cons_some hsight, List.map_cons,
          ih (handle + 1)]
        rfl

/-- A predicate that keeps no state accepts the first item that it holds of. -/
theorem firstAccepted_stateless {α τ : Type} (judge : α → Bool) (s : τ) (l : List α) :
    firstAccepted (fun s a => (judge a, s)) s l = (l.find? judge, s) := by
  induction l with
  | nil => rfl
  | cons a rest ih =>
    rw [firstAccepted]
    cases hjudge : judge a with
    | true => simp only [List.find?_cons_of_pos hjudge]
    | false =>
      have hneg : ¬judge a = true := by simp [hjudge]
      simp only [List.find?_cons_of_neg hneg]
      exact ih

theorem find?_offers (judge : Path × Capability → Bool) (handle : Nat) (paths : List Path) :
    ((b.offers w handle paths).find? fun d => judge d.sight).map VideoDevice.sight =
      (paths.filterMap (b.sight w)).find? judge := by
  rw [← offers_sight handle, List.find?_map]
  rfl

/-- Whether a search with this predicate takes the candidate at `path`. -/
def Backend.takes (b : Backend) (w : World) (judge : Path × Capability → Bool) (path : Path) :
    Bool :=
  (b.sight w path).any judge

theorem find?_filterMap_eq_none {α β : Type} {f : α → Option β} {judge : β → Bool} {l : List α} :
    (l.filterMap f).find? judge = none ↔ ∀ a ∈ l, (f a).any judge = false := by
  rw [List.find?_eq_none]
  constructor
  · intro h a ha
    cases hf : f a with
    | none => rfl
    | some c =>
      have hc := h c (List.mem_filterMap.mpr ⟨a, ha, hf⟩)
      simpa using hc
  · intro h c hc
    obtain ⟨a, ha, hf⟩ := List.mem_filterMap.mp hc
    have ha := h a ha
    rw [hf] at ha
    simpa using ha

/-- How a search with a predicate that keeps no state ends: it takes the first candidate that it
can, or there is none. -/
theorem Probed.stateless {τ : Type} {dir : Path} {judge : Path × Capability → Bool} {m : Machine}
    {s : τ} {paths : List Path} {r : (Except PairingError (VideoDevice Nat) × τ) × Machine}
    (h : Probed b dir (fun s d => (judge d.sight, s)) m s paths r) :
    (∃ device m' before after, r = ((.ok device, s), m') ∧
      paths = before ++ device.path :: after ∧
      (∀ path ∈ before, b.takes m.world judge path = false) ∧
      b.takes m.world judge device.path = true ∧ Searched m (before ++ [device.path]) m') ∨
    ∃ m', r = ((.error (.noSuitableDevice dir), s), m') ∧
      ∀ path ∈ paths, b.takes m.world judge path = false := by
  have hnone : ∀ l, (firstAccepted (fun s d => (judge d.sight, s)) s
      (b.offers m.world m.nextHandle l)).1 = none →
      ∀ path ∈ l, b.takes m.world judge path = false := by
    intro l hl
    rw [firstAccepted_stateless] at hl
    dsimp only at hl
    have hfind := find?_offers (b := b) (w := m.world) judge m.nextHandle l
    rw [hl] at hfind
    exact find?_filterMap_eq_none.mp hfind.symm
  cases h with
  | exhausted hexhausted _ =>
    have hall := hnone paths (by rw [hexhausted])
    rw [firstAccepted_stateless] at hexhausted
    obtain ⟨-, rfl⟩ := Prod.mk.inj hexhausted
    exact .inr ⟨_, rfl, hall⟩
  | @found before after device s' m' hpaths hbefore hlast _ hsearched =>
    rw [firstAccepted_stateless] at hlast
    obtain ⟨hchosen, rfl⟩ := Prod.mk.inj hlast
    have hrejected := hnone before hbefore
    refine .inl ⟨device, m', before, after, rfl, hpaths, hrejected, ?_, hsearched⟩
    have hfind := find?_offers (b := b) (w := m.world) judge m.nextHandle
      (before ++ [device.path])
    rw [hchosen] at hfind
    -- the device is not among those before the last candidate
    by_cases htakes : b.takes m.world judge device.path = true
    · exact htakes
    · have hall : ∀ path ∈ before ++ [device.path], b.takes m.world judge path = false := by
        intro path hpath
        rcases List.mem_append.mp hpath with hpath | hpath
        · exact hrejected path hpath
        · rw [List.mem_singleton.mp hpath]
          simpa using htakes
      rw [find?_filterMap_eq_none.mpr hall] at hfind
      cases hfind

/-! ## Controllers -/

/-- How the controller at `path` ends a search, if it does. -/
def Backend.finding (b : Backend) (w : World) (devnum : DeviceNumber) (path : Path) :
    Option (Except PairingError (Path × MediaInfo)) :=
  match b.reach w path with
  | .error _ => none
  | .ok n =>
    (b.verdict devnum n).map fun
      | .error count => .error (.allocationFailed count)
      | .ok info => .ok (path, info)

theorem findSome?_reached (devnum : DeviceNumber) (handle : Nat) (paths : List Path) :
    ((b.reached w handle paths).findSome? (b.decision devnum)).map
        (·.map MediaDevice.sight) =
      paths.findSome? (b.finding w devnum) := by
  induction paths generalizing handle with
  | nil => rfl
  | cons path rest ih =>
    cases hreach : b.reach w path with
    | error e =>
      have hfinding : b.finding w devnum path = none := by simp [Backend.finding, hreach]
      rw [reached_cons_error hreach, List.findSome?_cons, hfinding]
      exact ih handle
    | ok n =>
      rw [reached_cons_ok hreach, List.findSome?_cons, List.findSome?_cons]
      unfold Backend.decision Backend.finding
      rw [hreach]
      dsimp only
      cases b.verdict devnum n with
      | none => exact ih (handle + 1)
      | some verdict => cases verdict <;> rfl

/-- Resolving a video node comes to the same, up to the handle, wherever the world and the node
behind the handle of the video node are the same. -/
theorem resolved_sight {m m' : Machine} {video : VideoDevice Nat} (dir : Path)
    (hworld : m'.world = m.world) (hnode : m'.node video.fd = m.node video.fd) :
    (b.resolved m' dir video).map MediaDevice.sight =
      (b.resolved m dir video).map MediaDevice.sight := by
  unfold Backend.resolved
  rw [hworld, hnode]
  cases (m.node video.fd).bind b.number with
  | error e => rfl
  | ok devnum =>
    cases b.names m.world dir with
    | error e => rfl
    | ok names =>
      have hfound := findSome?_reached (b := b) (w := m.world) devnum m.nextHandle
        (candidates mediaStem dir names)
      have hfound' := findSome?_reached (b := b) (w := m.world) devnum m'.nextHandle
        (candidates mediaStem dir names)
      rw [← hfound] at hfound'
      dsimp only
      generalize (b.reached m.world m.nextHandle _).findSome? (b.decision devnum) = found
        at hfound'
      generalize (b.reached m.world m'.nextHandle _).findSome? (b.decision devnum) = found'
        at hfound'
      cases found with
      | none =>
        have hnone : found' = none := Option.map_eq_none_iff.mp hfound'
        rw [hnone]
      | some answer =>
        obtain ⟨answer', rfl, hsight⟩ := Option.map_eq_some_iff.mp hfound'
        exact hsight

end

end MediaPairing
