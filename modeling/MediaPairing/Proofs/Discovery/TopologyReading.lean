import MediaPairing.Proofs.Machine.Backend
import MediaPairing.DeviceTree
import MediaPairing.Topology

/-!
# The two queries of a topology

The interfaces of a controller are read by a query for their number and a query that fills a
buffer. The two answers need not agree, as the graph may change in between. What comes of
them is settled by the answers alone, on every system that leaves the buffer as long as it was.

* `Access.recording`: a system with a list of the topology queries that were put to it.
* `Access.KeepsLength`: a fill query writes into the buffer and does not resize it; the machine
  and the made-up trees are like this.
* `Access.clamped`: a system that reports no more interfaces than the buffer holds. To read the
  interfaces this makes no difference (`readInterfaces_clamped`).
* `kernel_eq_clamped`: the kernel's interface is the clamped form of `Machine.unclamped`.
* `readInterfaces_in_two_queries`: which queries are put, and what their answers come to.
-/

namespace MediaPairing

/-! ## Recorded queries -/

/-- A query about the topology of an open controller. -/
inductive TopologyQuery (Fd : Type) where
  | count (fd : Fd)
  | fill (fd : Fd) (buffer : List Interface)

section

variable {σ Fd α : Type}

/-- A computation beside a list of queries, to which it adds `queries`. -/
def adding (queries : List (TopologyQuery Fd)) (x : StateM σ α) :
    StateM (σ × List (TopologyQuery Fd)) α :=
  fun (s, before) =>
    let (a, s') := x.run s
    (a, (s', before ++ queries))

/-- The system with a list of the topology queries so far. -/
def Access.recording (sys : Access σ Fd) : Access (σ × List (TopologyQuery Fd)) Fd where
  entries dir := adding [] (sys.entries dir)
  openVideo path := adding [] (sys.openVideo path)
  openMedia path := adding [] (sys.openMedia path)
  capability fd := adding [] (sys.capability fd)
  mediaInfo fd := adding [] (sys.mediaInfo fd)
  deviceNumber fd := adding [] (sys.deviceNumber fd)
  interfaceCount fd := adding [.count fd] (sys.interfaceCount fd)
  fillInterfaces fd buffer := adding [.fill fd buffer] (sys.fillInterfaces fd buffer)
  close fd := adding [] (sys.close fd)
  log r := adding [] (sys.log r)
  allocationLimit := sys.allocationLimit

theorem adding_run {queries before : List (TopologyQuery Fd)} {x : StateM σ α} {s s' : σ} {a : α}
    (h : x.run s = (a, s')) :
    (adding queries x).run (s, before) = (a, (s', before ++ queries)) := by
  change (match x.run s with | (a, s') => (a, (s', before ++ queries))) = _
  rw [h]

/-! ## The length of the buffer -/

/-- A fill query leaves the buffer as long as it was. -/
def Access.KeepsLength (sys : Access σ Fd) : Prop :=
  ∀ fd buffer s, ((sys.fillInterfaces fd buffer).run s).1.2.length = buffer.length

/-- The system with the reported number of interfaces bounded by the buffer. -/
def Access.clamped (sys : Access σ Fd) : Access σ Fd :=
  { sys with
    fillInterfaces := fun fd buffer => do
      let (filled, buffer') ← sys.fillInterfaces fd buffer
      return (filled.map (min · buffer.length), buffer') }

theorem clamped_fill_run {sys : Access σ Fd} {fd : Fd} {buffer buffer' : List Interface}
    {filled : Except Errno Nat} {s s' : σ}
    (h : (sys.fillInterfaces fd buffer).run s = ((filled, buffer'), s')) :
    (sys.clamped.fillInterfaces fd buffer).run s =
      ((filled.map (min · buffer.length), buffer'), s') := by
  unfold Access.clamped
  dsimp only
  rw [run_bind_of_eq h]
  rfl

/-- A buffer has no more records to be taken than it is long. -/
theorem take_min_length {α : Type} {buffer : List α} {count : Nat} (h : buffer.length = count)
    (reported : Nat) : buffer.take reported = buffer.take (min reported count) := by
  rw [List.take_eq_take_iff, h]
  omega

theorem readInterfaces_clamped {sys : Access σ Fd} (hsys : sys.KeepsLength) (path : Path)
    (fd : Fd) : readInterfaces sys.clamped path fd = readInterfaces sys path fd := by
  unfold readInterfaces
  refine bind_congr fun counted => ?_
  cases counted with
  | error e => rfl
  | ok count =>
    dsimp only
    by_cases hzero : count = 0
    · rw [if_pos hzero, if_pos hzero]
    rw [if_neg hzero, if_neg hzero]
    have hsame : sys.clamped.allocationLimit = sys.allocationLimit := rfl
    rw [hsame]
    by_cases hlimit : sys.allocationLimit < Interface.recordSize * count.toNat
    · rw [if_pos hlimit, if_pos hlimit]
    rw [if_neg hlimit, if_neg hlimit]
    refine StateT.ext fun s => ?_
    have hlength := hsys fd (List.replicate count.toNat .zero) s
    generalize hfill : (sys.fillInterfaces fd (List.replicate count.toNat .zero)).run s = filling
      at hlength
    obtain ⟨⟨filled, buffer⟩, s'⟩ := filling
    rw [run_bind_of_eq hfill, run_bind_of_eq (clamped_fill_run hfill)]
    cases filled with
    | error e => rfl
    | ok reported =>
      have htake := take_min_length hlength reported
      change (pure (Except.ok (buffer.take _)) : StateM σ _).run s' = _
      rw [← htake]

theorem Access.KeepsLength.clamped {sys : Access σ Fd} (hsys : sys.KeepsLength) :
    sys.clamped.KeepsLength := by
  intro fd buffer s
  have hlength := hsys fd buffer s
  generalize hfill : (sys.fillInterfaces fd buffer).run s = filling at hlength
  obtain ⟨⟨filled, buffer'⟩, s'⟩ := filling
  rw [clamped_fill_run hfill]
  exact hlength

end

/-! ## The systems -/

namespace Machine

/-- The kernel's fill query, with the number of interfaces as it is reported. -/
def fillUnclamped (handle : Nat) (buffer : List Interface) :
    StateM Machine (Except Errno Nat × List Interface) := do
  match capacityWord? buffer with
  | none => return (.error .invalidArgument, buffer)
  | some capacity =>
    match ← queryFill handle capacity.toNat with
    | .error e => return (.error e, buffer)
    | .ok (reported, written) => return (.ok reported, overwrite buffer written)

/-- The kernel's interface, with the number of interfaces as it is reported. -/
def unclamped : Access Machine Nat := { kernel with fillInterfaces := fillUnclamped }

theorem kernel_eq_clamped : kernel = unclamped.clamped := by
  have hfill : fillKernel = unclamped.clamped.fillInterfaces := by
    funext handle buffer
    unfold fillKernel Access.clamped unclamped fillUnclamped
    dsimp only
    cases capacityWord? buffer with
    | none => rfl
    | some capacity =>
      refine StateT.ext fun m => ?_
      dsimp only
      generalize hquery : (queryFill handle capacity.toNat).run m = queried
      obtain ⟨answer, m'⟩ := queried
      rw [bind_assoc, run_bind_of_eq hquery, run_bind_of_eq hquery]
      cases answer <;> rfl
  exact congrArg (fun fill => { kernel with fillInterfaces := fill }) hfill

theorem length_of_capacityWord? {buffer : List Interface} {capacity : UInt32}
    (h : capacityWord? buffer = some capacity) : capacity.toNat = buffer.length := by
  unfold capacityWord? at h
  split at h
  · rename_i hlt
    cases h
    exact UInt32.toNat_ofNat_of_lt' hlt
  · cases h

theorem length_le_of_queryFill {handle capacity reported : Nat} {written : List Interface}
    {m m' : Machine} (h : (queryFill handle capacity).run m = (.ok (reported, written), m')) :
    written.length ≤ capacity := by
  have hrun := query_run (.fillInterfaces capacity handle) handle
    (fun n => n.topology.bind (·.answerFill capacity)) m
  have hanswer := congrArg Prod.fst (hrun.symm.trans h)
  exact Backend.length_le_of_bind hanswer

theorem keepsLength_unclamped : unclamped.KeepsLength := by
  intro handle buffer m
  change ((fillUnclamped handle buffer).run m).1.2.length = buffer.length
  unfold fillUnclamped
  cases hcapacity : capacityWord? buffer with
  | none => rfl
  | some capacity =>
    dsimp only
    generalize hquery : (queryFill handle capacity.toNat).run m = queried
    obtain ⟨answer, m'⟩ := queried
    rw [run_bind_of_eq hquery]
    cases answer with
    | error e => rfl
    | ok reply =>
      obtain ⟨reported, written⟩ := reply
      have hwritten := length_le_of_queryFill hquery
      rw [length_of_capacityWord? hcapacity] at hwritten
      exact Backend.length_overwrite hwritten

theorem keepsLength_kernel : kernel.KeepsLength := by
  rw [kernel_eq_clamped]
  exact keepsLength_unclamped.clamped

theorem keepsLength_direct : direct.KeepsLength := by
  intro handle buffer m
  change ((fillDirect handle buffer).run m).1.2.length = buffer.length
  unfold fillDirect
  generalize hquery : (queryFill handle buffer.length).run m = queried
  obtain ⟨answer, m'⟩ := queried
  rw [run_bind_of_eq hquery]
  cases answer with
  | error e => rfl
  | ok reply =>
    obtain ⟨reported, written⟩ := reply
    have hwritten := length_le_of_queryFill hquery
    have hmapped : (written.map withoutFlags).length ≤ buffer.length := by
      simp only [List.length_map]
      exact hwritten
    exact Backend.length_overwrite hmapped

end Machine

theorem DeviceTree.keepsLength_access (names : Option (List Bytes)) :
    (access names).KeepsLength := by
  intro h buffer t
  change ((queryFill h buffer).run t).1.2.length = buffer.length
  unfold queryFill
  generalize hquery : (queryTopology h).run t = queried
  obtain ⟨answer, t'⟩ := queried
  rw [run_bind_of_eq hquery]
  cases answer with
  | error e => rfl
  | ok reply =>
    obtain ⟨interfaces, count⟩ := reply
    dsimp only
    by_cases hroom : buffer.length < interfaces.length
    · rw [if_pos hroom]
      rfl
    · rw [if_neg hroom]
      have hlength : (interfaces ++ buffer.drop interfaces.length).length = buffer.length := by
        simp only [List.length_append, List.length_drop]
        omega
      exact hlength

/-! ## Reading -/

/-- The bytes of as many records as a count query can report fit a word of the machine, even a
signed one. -/
theorem recordSize_mul_lt (count : UInt32) :
    Interface.recordSize * count.toNat < 9223372036854775808 ∧
      ((112 : UInt64) * count.toUInt64).toNat = Interface.recordSize * count.toNat := by
  have hlt : count.toNat < 4294967296 := count.toNat_lt
  have hsize : Interface.recordSize = 112 := rfl
  have hfactor : (112 : UInt64).toNat = 112 := rfl
  rw [hsize, UInt64.toNat_mul, UInt32.toNat_toUInt64, hfactor]
  constructor
  · omega
  · apply Nat.mod_eq_of_lt
    omega

section

variable {σ Fd : Type}

/-- Reading the interfaces puts one count query. If that fails, or gives no interfaces or too
many of them for a buffer to be had, there is no other query. Otherwise one fill query is put,
with a zeroed buffer of as many records as were counted; if it fails, nothing is read, and if
not, as many records as are reported, as far as the buffer goes. -/
theorem readInterfaces_in_two_queries {sys : Access σ Fd} (hsys : sys.KeepsLength) (path : Path)
    (fd : Fd) (s : σ) :
    (∃ answer s' queries,
      (readInterfaces sys path fd).run s = (answer, s') ∧
      (readInterfaces sys.recording path fd).run (s, []) = (answer, (s', queries)) ∧
      match (sys.interfaceCount fd).run s with
      | (.error e, s₁) =>
        answer = .error (.topologyQueryFailed path e) ∧ s' = s₁ ∧ queries = [.count fd]
      | (.ok count, s₁) =>
        if count = 0 then
          answer = .error (.emptyTopology path) ∧ s' = s₁ ∧ queries = [.count fd]
        else if sys.allocationLimit < 112 * count.toNat then
          answer = .error (.allocationFailed count) ∧ s' = s₁ ∧ queries = [.count fd]
        else
          queries = [.count fd, .fill fd (List.replicate count.toNat .zero)] ∧
          match (sys.fillInterfaces fd (List.replicate count.toNat .zero)).run s₁ with
          | ((.error e, _), s₂) => answer = .error (.topologyQueryFailed path e) ∧ s' = s₂
          | ((.ok reported, buffer), s₂) =>
            answer = .ok (buffer.take (min reported count.toNat)) ∧ s' = s₂) ∧
    Machine.kernel.allocationLimit = 64 * 1024 * 1024 ∧
    Machine.kernel = Machine.unclamped.clamped ∧
    (∀ path handle,
      readInterfaces Machine.kernel path handle = readInterfaces Machine.unclamped path handle) ∧
    ∀ count : UInt32,
      Machine.capacityWord? (List.replicate count.toNat .zero) = some count ∧
      112 * count.toNat < 9223372036854775808 ∧
      ((112 : UInt64) * count.toUInt64).toNat = 112 * count.toNat := by
  refine ⟨?_, rfl, Machine.kernel_eq_clamped, ?_, ?_⟩
  · unfold readInterfaces
    generalize hcount : (sys.interfaceCount fd).run s = counted
    obtain ⟨counted, s₁⟩ := counted
    have hrecorded : (sys.recording.interfaceCount fd).run (s, []) =
        (counted, (s₁, [.count fd])) := adding_run hcount
    rw [run_bind_of_eq hcount, run_bind_of_eq hrecorded]
    cases counted with
    | error e => exact ⟨_, _, _, rfl, rfl, rfl, rfl, rfl⟩
    | ok count =>
      dsimp only
      by_cases hzero : count = 0
      · simp only [if_pos hzero]
        exact ⟨_, _, _, rfl, rfl, rfl, rfl, rfl⟩
      have hsize : Interface.recordSize = 112 := rfl
      have hsame : sys.recording.allocationLimit = sys.allocationLimit := rfl
      rw [hsize, hsame]
      by_cases hlimit : sys.allocationLimit < 112 * count.toNat
      · simp only [if_neg hzero, if_pos hlimit]
        exact ⟨_, _, _, rfl, rfl, rfl, rfl, rfl⟩
      · simp only [if_neg hzero, if_neg hlimit]
        have hlength := hsys fd (List.replicate count.toNat .zero) s₁
        generalize hfill :
          (sys.fillInterfaces fd (List.replicate count.toNat .zero)).run s₁ = filling at hlength
        obtain ⟨⟨filled, buffer⟩, s₂⟩ := filling
        have hrecorded' :
            (sys.recording.fillInterfaces fd (List.replicate count.toNat .zero)).run
              (s₁, [.count fd]) =
            ((filled, buffer), (s₂,
              [.count fd, .fill fd (List.replicate count.toNat .zero)])) := adding_run hfill
        rw [run_bind_of_eq hfill, run_bind_of_eq hrecorded']
        cases filled with
        | error e => exact ⟨_, _, _, rfl, rfl, rfl, rfl, rfl⟩
        | ok reported =>
          rw [List.length_replicate] at hlength
          have htake := take_min_length hlength reported
          exact ⟨_, _, _, rfl, rfl, rfl, congrArg Except.ok htake, rfl⟩
  · intro path handle
    rw [Machine.kernel_eq_clamped]
    exact readInterfaces_clamped Machine.keepsLength_unclamped path handle
  · intro count
    exact ⟨Machine.capacityWord?_replicate count .zero, recordSize_mul_lt count⟩

end

/-- A machine with an open controller that counts two interfaces, has one, and reports nine. -/
def Machine.miscounting : Machine where
  world :=
    { nodes := [(.ofString "/dev/media0",
        { topology := .ok
            { interfaces := [.ofType 7 .v4lVideo ⟨81, 0⟩]
              count := some (.ok 2)
              reported := some 9 } })] }
  nextHandle := 1
  handles := [(0, .ofString "/dev/media0")]

/-- The second record is as it was in the zeroed buffer. -/
theorem readInterfaces_in_two_queries_miscounting :
    Machine.kernel.KeepsLength ∧
      ∃ m, (readInterfaces Machine.kernel.recording (.ofString "/dev/media0") 0).run
          (.miscounting, []) =
        (.ok [.ofType 7 .v4lVideo ⟨81, 0⟩, .zero],
          (m, [.count 0, .fill 0 [.zero, .zero]])) := by
  obtain ⟨⟨answer, m, queries, -, hrun, hqueries, hanswer, -⟩, -⟩ :=
    readInterfaces_in_two_queries Machine.keepsLength_kernel (.ofString "/dev/media0") 0
      .miscounting
  refine ⟨Machine.keepsLength_kernel, m, ?_⟩
  rw [hrun, hanswer, hqueries]
  rfl

end MediaPairing
