import MediaPairing.Proofs.Discovery.Calls
import MediaPairing.Proofs.Discovery.Sights

/-!
# Searches after other calls

The calls before a search leave traces: handles are used up, devices stay open, the journal
grows. None of this reaches the search. As long as the world is the same, it finds what it would
have found as the first call, under a handle that was never given before.

* `Stateless`, `probe_judged`: a predicate that keeps no state, and what it chooses.
* `Reproducible`: a search that is not changed by the calls before it.
* `reproducible_of_guarded`: what this takes.
* `searches_ignore_history`: resolving, and probing with a predicate that keeps no state.
-/

namespace MediaPairing

variable {m m' : Machine} {held : List Nat}

/-! ## Predicates without a state -/

/-- On machines with the world `w`, where the device is open, the answer of the predicate is
settled by what the device is without its handle, and everything is left as it was. -/
structure Stateless (w : World) (accept : VideoDevice Nat → StateM Machine Bool)
    (judge : Path × Capability → Bool) : Prop where
  answer_eq : ∀ device m, m.world = w → m.Numbered →
    m.handles.lookup device.fd = some device.path →
    ((accept device).run m).1 = judge device.sight
  harmless : ∀ held,
    Harmless held fun device => (StateT.lift (accept device) : StateT Unit (StateM Machine) Bool)

section

variable {b : Backend} {w : World} {accept : VideoDevice Nat → StateM Machine Bool}
  {judge : Path × Capability → Bool}

theorem Opening.sight_eq_none {e : PairingError} {path : Path} {es : List Event}
    (h : Opening b .video (m.extend es) path (.error e, m')) : b.sight m.world path = none := by
  cases h with
  | refused hreach =>
    rw [Machine.extend_world] at hreach
    simp [Backend.sight, hreach]
  | silent hreach hreply =>
    rw [Machine.extend_world] at hreach
    have hreply : b.capability _ = _ := hreply
    simp [Backend.sight, hreach, hreply, Except.toOption]

/-- The search over the candidates takes the first device that the predicate holds of. -/
theorem probePaths_judged (hstateless : Stateless w accept judge) (dir : Path) (hw : m.world = w)
    (hm : m.Numbered) (paths : List Path) :
    (((probePaths b.access dir (fun device => StateT.lift (accept device)) paths).run ()).run
        m).1.1.map VideoDevice.sight =
      ((paths.filterMap (b.sight w)).find? judge).elim (.error (.noSuitableDevice dir)) .ok := by
  induction paths generalizing m with
  | nil =>
    rw [probePaths_nil]
    rfl
  | cons path rest ih =>
    have hinvariant : SearchInvariant b (Guarded [] m) :=
      guarded_invariant b fun _ hmem => by cases hmem
    have hprobing := hinvariant.logged (.probing path) (undisturbed_refl hm []).guarded
    have hopening := openVideoDevice_opening b hprobing.1.numbered.fresh path
    have hopened := hinvariant.opening hprobing hopening
    generalize hrun : (openVideoDevice b.access path).run (m.extend [.logged (.probing path)]) =
      opened at hopening hopened
    obtain ⟨answer, m₁⟩ := opened
    cases answer with
    | error e =>
      have hnone := hopening.sight_eq_none
      rw [hw] at hnone
      have hnext := hinvariant.logged (.skipped e) hopened
      rw [probePaths_skip hrun, List.filterMap_cons_none hnone]
      exact ih (hnext.1.world_eq.trans hw) hnext.1.numbered
    | ok device =>
      obtain ⟨n, capability, hreach, hreply, hdevice, -⟩ := hopening.kept
      have hdevice : device = { path, fd := m.nextHandle, capability } := hdevice
      have hsight : b.sight w path = some device.sight := by
        have hreply : b.capability n = .ok capability := hreply
        simp [Backend.sight, ← hw, hreach, hreply, hdevice, VideoDevice.sight, Except.toOption]
      have hlookup := (hopened.2 device.holding rfl).2
      have hanswer := hstateless.answer_eq device m₁ (hopened.1.world_eq.trans hw)
        hopened.1.numbered hlookup
      have hasked := (hstateless.harmless []).guarded () hopened
      generalize haccept : (accept device).run m₁ = asked at hanswer
      obtain ⟨accepted, m₂⟩ := asked
      have hlift : ((StateT.lift (accept device) : StateT Unit (StateM Machine) Bool).run ()).run
          m₁ = ((accepted, ()), m₂) := runs_lift_of_eq () haccept
      rw [hlift] at hasked
      rw [probePaths_offer hrun hlift, List.filterMap_cons_some hsight]
      have hanswer : accepted = judge device.sight := hanswer
      cases accepted with
      | true =>
        rw [if_pos rfl, List.find?_cons_of_pos hanswer.symm]
        rfl
      | false =>
        have hnot : ¬judge device.sight = true := by simp [← hanswer]
        have hnext := hinvariant.shut
          (hinvariant.logged (.rejected device.path device.capability.card) hasked)
        rw [if_neg (by decide), List.find?_cons_of_neg hnot]
        exact ih (hnext.1.world_eq.trans hw) hnext.1.numbered

/-- What probing comes to, up to the handle. -/
def Backend.choice (b : Backend) (w : World) (dir : Path) (judge : Path × Capability → Bool) :
    Except PairingError (Path × Capability) :=
  match b.names w dir with
  | .error e => .error (.directoryUnreadable dir e)
  | .ok names =>
    (((candidates videoStem dir names).filterMap (b.sight w)).find? judge).elim
      (.error (.noSuitableDevice dir)) .ok

theorem probeWith_run (sys : Access Machine Nat) (dir : Path)
    (accept : VideoDevice Nat → StateM Machine Bool) (m : Machine) :
    (probeWith sys dir accept).run m =
      ((((probe sys dir fun device => StateT.lift (accept device)).run ()).run m).1.1,
        (((probe sys dir fun device => StateT.lift (accept device)).run ()).run m).2) := rfl

theorem probe_judged (hstateless : Stateless w accept judge) (dir : Path) (hw : m.world = w)
    (hm : m.Numbered) :
    ((probeWith b.access dir accept).run m).1.map VideoDevice.sight =
      b.choice w dir judge := by
  obtain ⟨es, hes, hrun⟩ := b.entries_answers dir m
  have hlisted : Undisturbed [] m (m.extend es) := undisturbed_listed hm hes
  rw [probeWith_run]
  unfold probe Backend.choice
  rw [runs_bind_of_eq (runs_lift_of_eq () hrun), hw]
  cases b.names w dir with
  | error e => rfl
  | ok names =>
    exact probePaths_judged hstateless dir (hlisted.world_eq.trans hw) hlisted.numbered _

end

/-! ## Any number of calls before -/

/-- After any calls that spare `held`, the search gives what it gives on `m`: the same device up
to the handle, or the same error. The handle was never given before and is none of `held`, and
stays open as long as later calls spare it; a second search then finds the same device under
another handle. -/
def Reproducible {D S : Type} (b : Backend) (held : List Nat) (holding : D → Nat × Path)
    (sight : D → S) (search : StateM Machine (Except PairingError D)) (m : Machine) : Prop :=
  ∀ calls, (∀ call ∈ calls, call.Spares held) →
    (search.run (m.afterCalls b calls)).1.map sight = (search.run m).1.map sight ∧
    ∀ d m₁, search.run (m.afterCalls b calls) = (.ok d, m₁) →
      (holding d).1 ∉ given (m.afterCalls b calls).journal ∧ (holding d).1 ∉ held ∧
      ∀ later, (∀ call ∈ later, call.Spares ((holding d).1 :: held)) →
        ∃ d' m₂, search.run (m₁.afterCalls b later) = (.ok d', m₂) ∧
          sight d' = sight d ∧ (holding d').1 ≠ (holding d).1 ∧ (holding d').1 ∉ held ∧
          ∀ last, (∀ call ∈ last, call.Spares [(holding d).1, (holding d').1]) →
            (m₂.afterCalls b last).handles.lookup (holding d).1 = some (holding d).2 ∧
            (m₂.afterCalls b last).handles.lookup (holding d').1 = some (holding d').2

section

variable {D S : Type} {b : Backend} {holding : D → Nat × Path} {sight : D → S}
  {search : StateM Machine (Except PairingError D)}

theorem map_eq_ok {ε α β : Type} {x : Except ε α} {f : α → β} {c : β} (h : x.map f = .ok c) :
    ∃ a, x = .ok a ∧ f a = c := by
  cases x with
  | error e => cases h
  | ok a => exact ⟨a, rfl, Except.ok.inj h⟩

/-- A search is reproducible if its answer depends on no more than the world and the nodes behind
`held`, and if it does no more to the machine than to open what it finds. -/
theorem reproducible_of_guarded (hm : m.Numbered)
    (hheld : ∀ handle ∈ held, handle < m.nextHandle)
    (hanswer : ∀ m', Undisturbed held m m' →
      (search.run m').1.map sight = (search.run m).1.map sight)
    (hguarded : ∀ held m, m.Numbered → (∀ handle ∈ held, handle < m.nextHandle) →
      Guarded held m (handed holding (search.run m).1) (search.run m).2) :
    Reproducible b held holding sight search m := by
  intro calls hcalls
  have hbefore := afterCalls_undisturbed b hm hheld hcalls
  have hheld' : ∀ handle ∈ held, handle < (m.afterCalls b calls).nextHandle :=
    fun handle hmem => Nat.lt_of_lt_of_le (hheld handle hmem) hbefore.nextHandle_le
  have hfirst := hguarded held (m.afterCalls b calls) hbefore.numbered hheld'
  have hsame := hanswer _ hbefore
  refine ⟨hsame, fun d m₁ hrun => ?_⟩
  rw [hrun] at hfirst hsame
  dsimp only at hfirst hsame
  obtain ⟨hnew, hopen⟩ := hfirst.2 (holding d) rfl
  have hunused : (holding d).1 ∉ given (m.afterCalls b calls).journal := by
    intro hmem
    have hlt := hbefore.numbered.given_lt _ hmem
    omega
  have hother : (holding d).1 ∉ held := fun hmem => Nat.not_lt_of_le hnew (hheld' _ hmem)
  refine ⟨hunused, hother, fun later hlater => ?_⟩
  -- the second search starts on a machine on which the first device is open
  have hsince : Undisturbed held m m₁ := hbefore.trans hfirst.1
  have hbelow : ∀ handle ∈ (holding d).1 :: held, handle < m₁.nextHandle := by
    intro handle hmem
    rcases List.mem_cons.mp hmem with rfl | hmem
    · exact lt_of_lookup hfirst.1.numbered.fresh hopen
    · exact Nat.lt_of_lt_of_le (hheld handle hmem) hsince.nextHandle_le
  have hbetween := afterCalls_undisturbed b hfirst.1.numbered hbelow hlater
  have hbelow' : ∀ handle ∈ (holding d).1 :: held,
      handle < (m₁.afterCalls b later).nextHandle :=
    fun handle hmem => Nat.lt_of_lt_of_le (hbelow handle hmem) hbetween.nextHandle_le
  have hsecond := hguarded ((holding d).1 :: held) (m₁.afterCalls b later) hbetween.numbered
    hbelow'
  have hsame' := hanswer _
    (hsince.trans (hbetween.mono fun handle hmem => List.mem_cons_of_mem _ hmem))
  generalize search.run (m₁.afterCalls b later) = r at hsecond hsame'
  obtain ⟨answer, m₂⟩ := r
  have hagain : answer.map sight = .ok (sight d) := hsame'.trans hsame.symm
  obtain ⟨d', rfl, hsight⟩ := map_eq_ok hagain
  obtain ⟨hnew', hopen'⟩ := hsecond.2 (holding d') rfl
  have hstill := hbetween.lookup_eq _ List.mem_cons_self _ hopen
  have hother' : (holding d').1 ∉ (holding d).1 :: held :=
    fun hmem => Nat.not_lt_of_le hnew' (hbelow' _ hmem)
  rw [List.mem_cons, not_or] at hother'
  refine ⟨d', m₂, rfl, hsight, hother'.1, hother'.2, fun last hlast => ?_⟩
  · have hstill' := hsecond.1.lookup_eq _ List.mem_cons_self _ hstill
    have hopen₂ : ∀ handle ∈ [(holding d).1, (holding d').1], handle < m₂.nextHandle := by
      intro handle hmem
      rcases List.mem_cons.mp hmem with rfl | hmem
      · exact lt_of_lookup hsecond.1.numbered.fresh hstill'
      · rw [List.mem_singleton.mp hmem]
        exact lt_of_lookup hsecond.1.numbered.fresh hopen'
    have hafter := afterCalls_undisturbed b hsecond.1.numbered hopen₂ hlast
    constructor
    · exact hafter.lookup_eq _ List.mem_cons_self _ hstill'
    · exact hafter.lookup_eq _ (List.mem_cons_of_mem _ List.mem_cons_self) _ hopen'

end

/-- No call before it changes what resolving an open video node comes to, nor what probing with a
predicate without a state does. -/
theorem searches_ignore_history (b : Backend) {m : Machine} (hm : m.Numbered) (dir : Path) :
    (∀ video path, m.handles.lookup video.fd = some path →
      Reproducible b [video.fd] MediaDevice.holding MediaDevice.sight
        (resolve b.access dir video) m) ∧
    ∀ accept judge, Stateless m.world accept judge →
      Reproducible b [] VideoDevice.holding VideoDevice.sight
        (probeWith b.access dir accept) m := by
  constructor
  · intro video path hopen
    apply reproducible_of_guarded hm
    · intro handle hmem
      rw [List.mem_singleton.mp hmem]
      exact lt_of_lookup hm.fresh hopen
    · intro m' hundisturbed
      have hnode := hundisturbed.node_eq (List.mem_singleton.mpr rfl) hopen
      have hanswer := (resolve_resolution b hm.fresh dir video).answer_eq
      have hanswer' := (resolve_resolution b hundisturbed.numbered.fresh dir video).answer_eq
      rw [hanswer, hanswer']
      exact resolved_sight dir hundisturbed.world_eq hnode
    · intro held m' hm' hheld
      exact resolve_guarded b hm' hheld dir video
  · intro accept judge hstateless
    apply reproducible_of_guarded hm
    · intro handle hmem
      cases hmem
    · intro m' hundisturbed
      have hanswer := probe_judged (b := b) hstateless dir rfl hm
      have hanswer' := probe_judged (b := b) hstateless dir hundisturbed.world_eq
        hundisturbed.numbered
      exact hanswer'.trans hanswer.symm
    · intro held m' hm' hheld
      exact probe_guarded b hm' hheld (hstateless.harmless held) dir ()

/-- Accepts the device at a path. -/
def acceptPath (path : Path) (device : VideoDevice Nat) : StateM Machine Bool :=
  pure (device.path == path)

theorem stateless_acceptPath (w : World) (path : Path) :
    Stateless w (acceptPath path) fun seen => seen.1 == path where
  answer_eq := fun _ _ _ _ _ => rfl
  harmless := fun _ => harmless_of_answers fun device s m =>
    ⟨_, (answers_pure (device.path == path) m _).lift s⟩

/-- Two searches before it, and the end of a device, do not change what is found. -/
theorem searches_ignore_history_sample :
    Machine.sample.Numbered ∧
      Machine.sample.handles.lookup 4 = some (.ofString "/dev/video0") ∧
      Stateless Machine.sample.world (acceptPath (.ofString "/dev/video1"))
        (fun seen => seen.1 == .ofString "/dev/video1") ∧
      ∃ calls : List DiscoveryCall, calls.length = 3 ∧
        (∀ call ∈ calls, call.Spares [4]) ∧
        ((resolve Machine.kernel (.ofString "/dev") ⟨.ofString "/dev/video0", 4, {}⟩).run
          (Machine.sample.afterCalls .kernel calls)).1.map MediaDevice.sight =
            .ok (.ofString "/dev/media1", {}) ∧
        (∀ media m₁, (resolve Machine.kernel (.ofString "/dev")
          ⟨.ofString "/dev/video0", 4, {}⟩).run (Machine.sample.afterCalls .kernel calls) =
            (.ok media, m₁) → media.fd ≠ 4) ∧
        ((probeWith Machine.kernel (.ofString "/dev") (acceptPath (.ofString "/dev/video1"))).run
          (Machine.sample.afterCalls .kernel calls)).1.map VideoDevice.sight =
            .ok (.ofString "/dev/video1", {}) := by
  have hnumbered : Machine.sample.Numbered := ⟨Machine.fresh_sample, fun _ hmem => by cases hmem⟩
  have hstateless := stateless_acceptPath Machine.sample.world (.ofString "/dev/video1")
  have hharmless : ∀ held, Harmless held acceptSecond := fun held =>
    harmless_of_answers fun device s m => ⟨_, answers_pure (s == 1, s + 1) m _⟩
  have hspares : ∀ held, 6 ∉ held → ∀ call ∈ [DiscoveryCall.probe (.ofString "/dev") acceptSecond 0,
      .resolve (.ofString "/dev") ⟨.ofString "/dev/video1", 6, {}⟩, .drop 6],
      call.Spares held := by
    intro held hmem
    simp only [List.forall_mem_cons]
    exact ⟨hharmless held, trivial, hmem, fun _ h => by cases h⟩
  have hfour := hspares [4] (by decide)
  obtain ⟨hresolves, hprobes⟩ :=
    searches_ignore_history .kernel hnumbered (.ofString "/dev")
  have hresolve := hresolves ⟨.ofString "/dev/video0", 4, {}⟩ _ rfl
  have hprobe := hprobes _ _ hstateless
  refine ⟨hnumbered, rfl, hstateless, _, rfl, hfour, ?_, fun media m₁ hrun => ?_, ?_⟩
  · exact (hresolve _ hfour).1
  · obtain ⟨-, hother, -⟩ := (hresolve _ hfour).2 media m₁ hrun
    exact fun h => hother (List.mem_singleton.mpr h)
  · exact (hprobe _ (hspares [] List.not_mem_nil)).1

end MediaPairing
