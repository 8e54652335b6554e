import MediaPairing.Formats
import MediaPairing.Devnode
import MediaPairing.Probe
import MediaPairing.Resolve
import MediaPairing.Proofs.Machine.Run

/-!
# Keeping account of handles

A caller that works with devices holds handles: an open puts one on top of those that are held, a
close takes the top one away, and only handles that are held are asked. Suppose that a system,
each time that it is used like this, leaves a state in which an account of the handles holds
again. Then so do the searches and the questions to open devices, whatever the system answers and
however its answers change from one call to the next.

* `Leads P x Q`: from each state with `P`, the computation comes to an answer and a state with `Q`.
* `System.Keeps sys account`: the system keeps the account, call by call.
* `Gained`: the account after a device was asked for, which may have been handed over.
* `probeWith_keeps`, `resolve_keeps`: a search ends with the handle of what it has found.
* `deviceNumberOf_keeps`, `videoInterfaces_keeps`, `formats_keeps`, `supportsFormat_keeps`,
  `devnodePath_keeps`: questions leave the account as it was.
-/

namespace MediaPairing

variable {σ τ Fd α β D : Type}

/-! ## Computations from state to state -/

/-- From each state with `P` the computation comes to an answer and a state with `Q`. -/
def Leads (P : σ → Prop) (x : StateM σ α) (Q : α → σ → Prop) : Prop :=
  ∀ s, P s → Q (x.run s).1 (x.run s).2

section

variable {P : σ → Prop} {Q : α → σ → Prop} {R : β → σ → Prop}

theorem leads_pure {a : α} (h : ∀ s, P s → Q a s) : Leads P (pure a) Q := h

theorem Leads.bind {x : StateM σ α} {f : α → StateM σ β} (hx : Leads P x Q)
    (hf : ∀ a, Leads (Q a) (f a) R) : Leads P (x >>= f) R := by
  intro s hs
  have hfirst := hx s hs
  generalize hrun : x.run s = r at hfirst
  obtain ⟨a, s'⟩ := r
  rw [run_bind_of_eq hrun]
  exact hf a s' hfirst

theorem leads_forM {l : List β} {f : β → StateM σ Unit} (h : ∀ b, Leads P (f b) fun _ => P) :
    Leads P (l.forM f) fun _ => P := by
  induction l with
  | nil => exact leads_pure fun _ h => h
  | cons b rest ih => exact (h b).bind fun _ => ih

theorem leads_run_bind {x : StateT τ (StateM σ) α} {f : α → StateT τ (StateM σ) β} {t : τ}
    {R : β × τ → σ → Prop} (hx : Leads P (x.run t) fun p => Q p.1)
    (hf : ∀ a t, Leads (Q a) ((f a).run t) R) : Leads P ((x >>= f).run t) R := by
  rw [StateT.run_bind]
  exact hx.bind fun p => hf p.1 p.2

/-- A computation beside a state that it does not look at. -/
theorem Leads.lift {x : StateM σ α} (hx : Leads P x Q) (t : τ) :
    Leads P ((liftM x : StateT τ (StateM σ) α).run t) fun p => Q p.1 := by
  change Leads P (do let a ← x; pure (a, t)) _
  exact hx.bind fun a => leads_pure fun _ h => h

theorem Leads.lift_bind {x : StateM σ α} {f : α → StateT τ (StateM σ) β} {t : τ}
    {R : β × τ → σ → Prop} (hx : Leads P x Q) (hf : ∀ a t, Leads (Q a) ((f a).run t) R) :
    Leads P ((liftM x >>= f : StateT τ (StateM σ) β).run t) R :=
  leads_run_bind (hx.lift t) hf

end

/-! ## Systems that keep account -/

/-- The account after an answer that hands over a descriptor, or nothing. -/
def Gained {ε : Type} (account : List Fd → σ → Prop) (held : List Fd) (descriptor : D → Fd) :
    Except ε D → σ → Prop
  | .ok d => account (descriptor d :: held)
  | .error _ => account held

/-- Where the handles `held` are held, the last one first, a state has the property `account held`;
and it has it again after each call that a holder may make. -/
structure System.Keeps (sys : System σ Fd) (account : List Fd → σ → Prop) : Prop where
  entries : ∀ held dir, Leads (account held) (sys.entries dir) fun _ => account held
  openVideo : ∀ held path, Leads (account held) (sys.openVideo path) (Gained account held id)
  openMedia : ∀ held path, Leads (account held) (sys.openMedia path) (Gained account held id)
  capability : ∀ held, ∀ fd ∈ held,
    Leads (account held) (sys.capability fd) fun _ => account held
  mediaInfo : ∀ held, ∀ fd ∈ held, Leads (account held) (sys.mediaInfo fd) fun _ => account held
  deviceNumber : ∀ held, ∀ fd ∈ held,
    Leads (account held) (sys.deviceNumber fd) fun _ => account held
  interfaceCount : ∀ held, ∀ fd ∈ held,
    Leads (account held) (sys.interfaceCount fd) fun _ => account held
  fillInterfaces : ∀ held, ∀ fd ∈ held, ∀ buffer,
    Leads (account held) (sys.fillInterfaces fd buffer) fun _ => account held
  format : ∀ held, ∀ fd ∈ held, ∀ queue index,
    Leads (account held) (sys.format fd queue index) fun _ => account held
  readText : ∀ held path, Leads (account held) (sys.readText path) fun _ => account held
  close : ∀ held fd, Leads (account (fd :: held)) (sys.close fd) fun _ => account held
  log : ∀ held r, Leads (account held) (sys.log r) fun _ => account held

section

variable {sys : System σ Fd} {account : List Fd → σ → Prop} (hsys : sys.Keeps account)
  {held : List Fd}

include hsys

/-! ## Open devices -/

theorem deviceNumberOf_keeps {video : VideoDevice Fd} (hvideo : video.fd ∈ held) :
    Leads (account held) (deviceNumberOf sys.toAccess video) fun _ => account held := by
  unfold deviceNumberOf
  refine (hsys.deviceNumber held _ hvideo).bind fun number => ?_
  cases number <;> exact leads_pure fun _ h => h

theorem readInterfaces_keeps (path : Path) {fd : Fd} (hfd : fd ∈ held) :
    Leads (account held) (readInterfaces sys.toAccess path fd) fun _ => account held := by
  unfold readInterfaces
  refine (hsys.interfaceCount held fd hfd).bind fun counted => ?_
  cases counted with
  | error e => exact leads_pure fun _ h => h
  | ok count =>
    dsimp only
    split
    · exact leads_pure fun _ h => h
    · split
      · exact leads_pure fun _ h => h
      · refine (hsys.fillInterfaces held fd hfd _).bind fun filled => ?_
        obtain ⟨answer, buffer⟩ := filled
        cases answer <;> exact leads_pure fun _ h => h

theorem videoInterfaces_keeps {media : MediaDevice Fd} (hmedia : media.fd ∈ held) :
    Leads (account held) (videoInterfaces sys.toAccess media) fun _ => account held := by
  unfold videoInterfaces
  refine (readInterfaces_keeps hsys media.path hmedia).bind fun read => ?_
  cases read <;> exact leads_pure fun _ h => h

theorem anyNumbered_keeps (devnum : DeviceNumber) (is : List Interface) :
    Leads (account held) (anyNumbered sys.toAccess devnum is) fun _ => account held := by
  induction is with
  | nil => exact leads_pure fun _ h => h
  | cons i rest ih =>
    unfold anyNumbered
    refine (hsys.log held _).bind fun _ => ?_
    split
    · exact leads_pure fun _ h => h
    · exact ih

theorem publishes_keeps {media : MediaDevice Fd} (hmedia : media.fd ∈ held)
    (devnum : DeviceNumber) :
    Leads (account held) (publishes sys.toAccess media devnum) fun _ => account held := by
  unfold publishes
  refine (readInterfaces_keeps hsys media.path hmedia).bind fun read => ?_
  cases read with
  | error e => exact leads_pure fun _ h => h
  | ok is => exact (anyNumbered_keeps hsys devnum _).bind fun _ => leads_pure fun _ h => h

theorem formatsFrom_keeps {fd : Fd} (hfd : fd ∈ held) (queue : BufferQueue) (index : Nat) :
    Leads (account held) (sys.formatsFrom fd queue index) fun _ => account held := by
  induction index using System.formatsFrom.induct with
  | case1 index hindex ih =>
    rw [System.formatsFrom, if_pos hindex]
    refine (hsys.format held fd hfd queue index).bind fun reply => ?_
    cases reply with
    | error e => exact leads_pure fun _ h => h
    | ok record =>
      refine ih.bind fun rest => ?_
      cases rest <;> exact leads_pure fun _ h => h
  | case2 index hindex =>
    rw [System.formatsFrom, if_neg hindex]
    exact leads_pure fun _ h => h

theorem formats_keeps {video : VideoDevice Fd} (hvideo : video.fd ∈ held) (queue : BufferQueue) :
    Leads (account held) (sys.formats video queue) fun _ => account held := by
  unfold System.formats
  refine (formatsFrom_keeps hsys hvideo queue 0).bind fun listed => ?_
  cases listed <;> exact leads_pure fun _ h => h

theorem supportsFormat_keeps {video : VideoDevice Fd} (hvideo : video.fd ∈ held)
    (fourcc : FourCc) :
    Leads (account held) (sys.supportsFormat video fourcc) fun _ => account held := by
  unfold System.supportsFormat
  induction BufferQueue.all with
  | nil => exact leads_pure fun _ h => h
  | cons queue rest ih =>
    unfold System.anyOffers
    refine (formats_keeps hsys hvideo queue).bind fun listed => ?_
    cases listed with
    | error e => exact leads_pure fun _ h => h
    | ok fs =>
      dsimp only
      split
      · exact leads_pure fun _ h => h
      · exact ih

theorem devnodePath_keeps (devnum : DeviceNumber) (sysDir devDir : Path) :
    Leads (account held) (sys.devnodePath devnum sysDir devDir) fun _ => account held := by
  unfold System.devnodePath
  refine (hsys.readText held _).bind fun read => ?_
  cases read with
  | error e => exact leads_pure fun _ h => h
  | ok description =>
    dsimp only
    cases devname? description <;> exact leads_pure fun _ h => h

/-! ## Searches -/

theorem openVideoDevice_keeps (path : Path) :
    Leads (account held) (openVideoDevice sys.toAccess path)
      (Gained account held VideoDevice.fd) := by
  unfold openVideoDevice
  refine (hsys.openVideo held path).bind fun opened => ?_
  cases opened with
  | error e => exact leads_pure fun _ h => h
  | ok fd =>
    refine (hsys.capability (fd :: held) fd List.mem_cons_self).bind fun asked => ?_
    cases asked with
    | error e => exact (hsys.close held fd).bind fun _ => leads_pure fun _ h => h
    | ok capability => exact leads_pure fun _ h => h

theorem openMediaDevice_keeps (path : Path) :
    Leads (account held) (openMediaDevice sys.toAccess path)
      (Gained account held MediaDevice.fd) := by
  unfold openMediaDevice
  refine (hsys.openMedia held path).bind fun opened => ?_
  cases opened with
  | error e => exact leads_pure fun _ h => h
  | ok fd =>
    refine (hsys.mediaInfo (fd :: held) fd List.mem_cons_self).bind fun asked => ?_
    cases asked with
    | error e => exact (hsys.close held fd).bind fun _ => leads_pure fun _ h => h
    | ok info => exact leads_pure fun _ h => h

/-- A predicate may ask the device that it judges, and leaves the account as it was. -/
theorem probePaths_keeps {accept : VideoDevice Fd → StateT τ (StateM σ) Bool}
    (haccept : ∀ device t, Leads (account (device.fd :: held)) ((accept device).run t)
      fun _ => account (device.fd :: held))
    (dir : Path) (paths : List Path) (t : τ) :
    Leads (account held) ((probePaths sys.toAccess dir accept paths).run t)
      fun p => Gained account held VideoDevice.fd p.1 := by
  induction paths generalizing t with
  | nil => exact (hsys.log held _).lift_bind fun _ _ => leads_pure fun _ h => h
  | cons path rest ih =>
    unfold probePaths
    refine (hsys.log held _).lift_bind fun _ t => ?_
    refine (openVideoDevice_keeps hsys path).lift_bind fun opened t => ?_
    cases opened with
    | error e => exact (hsys.log held _).lift_bind fun _ t => ih t
    | ok device =>
      refine leads_run_bind (Q := fun _ => account (device.fd :: held)) (haccept device t)
        fun accepted t => ?_
      cases accepted with
      | true =>
        exact (hsys.log _ _).lift_bind fun _ _ => leads_pure fun _ h => h
      | false =>
        refine (hsys.log _ _).lift_bind fun _ t => ?_
        exact (hsys.close held device.fd).lift_bind fun _ t => ih t

theorem probeWith_keeps {accept : VideoDevice Fd → StateM σ Bool}
    (haccept : ∀ device, Leads (account (device.fd :: held)) (accept device)
      fun _ => account (device.fd :: held))
    (dir : Path) :
    Leads (account held) (probeWith sys.toAccess dir accept)
      (Gained account held VideoDevice.fd) := by
  have hprobe : Leads (account held)
      ((probe sys.toAccess dir fun device => StateT.lift (accept device)).run ())
      fun p => Gained account held VideoDevice.fd p.1 := by
    unfold probe
    refine (hsys.entries held dir).lift_bind fun listed _ => ?_
    cases listed with
    | error e => exact leads_pure fun _ h => h
    | ok names =>
      exact probePaths_keeps hsys (fun device t => (haccept device).lift t) dir _ _
  exact hprobe.bind fun p => leads_pure fun _ h => h

theorem resolvePaths_keeps (dir : Path) (devnum : DeviceNumber) (paths : List Path) :
    Leads (account held) (resolvePaths sys.toAccess dir devnum paths)
      (Gained account held MediaDevice.fd) := by
  induction paths with
  | nil => exact (hsys.log held _).bind fun _ => leads_pure fun _ h => h
  | cons path rest ih =>
    unfold resolvePaths
    refine (hsys.log held _).bind fun _ => ?_
    refine (openMediaDevice_keeps hsys path).bind fun opened => ?_
    cases opened with
    | error e => exact (hsys.log held _).bind fun _ => ih
    | ok media =>
      refine (publishes_keeps hsys List.mem_cons_self devnum).bind fun published => ?_
      have hskip : ∀ e, Leads (account (media.fd :: held))
          (do sys.log (.skipped e)
              sys.close media.fd
              resolvePaths sys.toAccess dir devnum rest) (Gained account held MediaDevice.fd) :=
        fun e => (hsys.log _ _).bind fun _ => (hsys.close held media.fd).bind fun _ => ih
      cases published with
      | ok found =>
        cases found with
        | true => exact (hsys.log _ _).bind fun _ => leads_pure fun _ h => h
        | false => exact (hsys.log _ _).bind fun _ => (hsys.close held media.fd).bind fun _ => ih
      | error e =>
        cases e with
        | allocationFailed count =>
          exact (hsys.close held media.fd).bind fun _ => leads_pure fun _ h => h
        | _ => exact hskip _

theorem resolve_keeps (dir : Path) {video : VideoDevice Fd} (hvideo : video.fd ∈ held) :
    Leads (account held) (resolve sys.toAccess dir video)
      (Gained account held MediaDevice.fd) := by
  unfold resolve
  refine (deviceNumberOf_keeps hsys hvideo).bind fun number => ?_
  cases number with
  | error e => exact leads_pure fun _ h => h
  | ok devnum =>
    refine (hsys.log held _).bind fun _ => (hsys.entries held dir).bind fun listed => ?_
    cases listed with
    | error e => exact leads_pure fun _ h => h
    | ok names => exact resolvePaths_keeps hsys dir devnum _

end

end MediaPairing
