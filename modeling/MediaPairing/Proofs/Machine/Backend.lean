import MediaPairing.Proofs.Machine.Run
import MediaPairing.Proofs.Machine.Events

/-!
# What a machine answers

Every answer of a machine is read off its world, at the path that a handle stands for. This
module says what is read, for both ways to use a machine (`Backend`), and what each operation
of `Backend.access` then does.

* `Backend.names`, `Backend.reach`: the names of a directory, and the node that opening a
  path reaches.
* `Backend.capability`, `Backend.mediaInfo`, `Backend.number`, `Node.count`, `Backend.fill`:
  what a node says.
* `Asks`, `Backend.Opens`: what a query and an open do to the machine, for all queries and
  both kinds of nodes alike (`asks_capability`, `opens_video` and so on).
-/

namespace MediaPairing

/-- The two ways to use a machine, each with the most bytes that a buffer may have. -/
inductive Backend where
  | kernel (limit : Nat := usualAllocationLimit)
  | direct (limit : Nat := usualAllocationLimit)

/-- The answer of a node to the count query. -/
def Node.count (n : Node) : Except Errno UInt32 := n.topology.bind TopologyReply.answerCount

namespace Backend

def access : Backend → Access Machine Nat
  | kernel limit => { Machine.kernel with allocationLimit := limit }
  | direct limit => { Machine.direct with allocationLimit := limit }

/-- No buffer of more bytes than this can be had. -/
def limit : Backend → Nat
  | kernel limit | direct limit => limit

@[simp]
theorem access_allocationLimit (b : Backend) : b.access.allocationLimit = b.limit := by
  cases b <;> rfl

/-! ## What is read off the world -/

/-- Whether a system call can be given the path. -/
def admits (b : Backend) (path : Path) : Bool :=
  match b with
  | kernel _ => !path.hasNul
  | direct _ => true

/-- The names as they arrive. -/
def arrive (b : Backend) (names : List Bytes) : List Bytes :=
  match b with
  | kernel _ => (names.map Machine.recordName).filter (!Machine.isDotName ·)
  | direct _ => names

/-- The names that a listing of `dir` gives. -/
def names (b : Backend) (w : World) (dir : Path) : Except IoError (List Bytes) :=
  if b.admits dir then
    match ((w.dirs.get? dir).getD (.error .noEntry)).bind readNames with
    | .error e => .error (.os e)
    | .ok names => .ok (b.arrive names)
  else .error .nulInPath

/-- The node that opening `path` reaches. -/
def reach (b : Backend) (w : World) (path : Path) : Except Errno Node :=
  if b.admits path then
    match w.nodes.get? path with
    | none => .error .noEntry
    | some n =>
      match n.openFailure with
      | some e => .error e
      | none => .ok n
  else .error .invalidArgument

def capability (b : Backend) (n : Node) : Except Errno Capability :=
  n.capability.map fun r =>
    match b with
    | kernel _ => r.record.capability
    | direct _ => r.capability

def mediaInfo (b : Backend) (n : Node) : Except Errno MediaInfo :=
  n.mediaInfo.map fun r =>
    match b with
    | kernel _ => r.record.mediaInfo
    | direct _ => r.mediaInfo

def number (b : Backend) (n : Node) : Except Errno DeviceNumber :=
  n.number.map fun r =>
    match b with
    | kernel _ => .unpack r.rdev
    | direct _ => r.deviceNumber

/-- An interface record as it arrives. -/
def interface (b : Backend) (i : Interface) : Interface :=
  match b with
  | kernel _ => i
  | direct _ => Machine.withoutFlags i

/-- What a fill query with a zeroed buffer of `count` records leaves to be read: the first
records of the buffer, as many as are reported, and never more than the buffer has. -/
def fill (b : Backend) (n : Node) (count : Nat) : Except Errno (List Interface) :=
  (n.topology.bind (·.answerFill count)).map fun (reported, written) =>
    (Machine.overwrite (List.replicate count .zero) (written.map b.interface)).take
      (min reported count)

end Backend

/-! ## Queries -/

section

variable {α : Type}

/-- `ask` puts one call to the node behind a handle, and gives what `reply` reads off it. -/
def Asks (ask : Nat → StateM Machine (Except Errno α)) (call : Nat → Call)
    (reply : Node → Except Errno α) : Prop :=
  ∀ handle m, (ask handle).run m =
    ((m.node handle).bind reply,
      m.extend [.called (call handle) (Machine.outcomeOf ((m.node handle).bind reply))])

theorem Asks.answers {ask : Nat → StateM Machine (Except Errno α)} {call : Nat → Call}
    {reply : Node → Except Errno α} (h : Asks ask call reply)
    (hcall : ∀ handle, (call handle).handle? = some handle) (handle : Nat) (m : Machine) :
    Answers (ask handle) m (Event.Asking handle) ((m.node handle).bind reply) := by
  refine ⟨_, ?_, h handle m⟩
  intro e he
  rw [List.mem_singleton.mp he]
  exact hcall handle

theorem answers_log (r : LogRecord) (handle : Nat) (m : Machine) :
    Answers (Machine.log r) m (Event.About handle) () := by
  refine ⟨[.logged r], ?_, Machine.log_run r m⟩
  intro e he
  rw [List.mem_singleton.mp he]
  trivial

theorem asks_query (call : Nat → Call) (reply : Node → Except Errno α) :
    Asks (fun handle => Machine.query (call handle) handle reply) call reply :=
  fun handle m => Machine.query_run (call handle) handle reply m

/-- Reading the reply in another way does not change the call. -/
theorem Asks.map {β : Type} {ask : Nat → StateM Machine (Except Errno α)} {call : Nat → Call}
    {reply : Node → Except Errno α} (h : Asks ask call reply) (f : α → β) :
    Asks (fun handle => do return (← ask handle).map f) call (fun n => (reply n).map f) := by
  intro handle m
  rw [run_bind_of_eq (h handle m)]
  cases m.node handle with
  | error e => rfl
  | ok n =>
    change (pure ((reply n).map f) : StateM Machine _).run _ =
      ((reply n).map f, m.extend [.called (call handle) (Machine.outcomeOf ((reply n).map f))])
    cases hr : reply n <;> simp only [Except.bind, hr] <;> rfl

end

namespace Backend

variable (b : Backend)

theorem asks_capability : Asks b.access.capability Call.capability b.capability := by
  cases b with
  | kernel => exact (asks_query Call.capability Node.capability).map _
  | direct => exact (asks_query Call.capability Node.capability).map _

theorem asks_mediaInfo : Asks b.access.mediaInfo Call.mediaInfo b.mediaInfo := by
  cases b with
  | kernel => exact (asks_query Call.mediaInfo Node.mediaInfo).map _
  | direct => exact (asks_query Call.mediaInfo Node.mediaInfo).map _

theorem asks_deviceNumber : Asks b.access.deviceNumber Call.deviceNumber b.number := by
  cases b with
  | kernel => exact (asks_query Call.deviceNumber Node.number).map _
  | direct => exact (asks_query Call.deviceNumber Node.number).map _

theorem asks_interfaceCount : Asks b.access.interfaceCount Call.interfaceCount Node.count := by
  cases b with
  | kernel => exact asks_query Call.interfaceCount Node.count
  | direct => exact asks_query Call.interfaceCount Node.count

@[simp]
theorem access_log (r : LogRecord) : b.access.log r = Machine.log r := by
  cases b <;> rfl

@[simp]
theorem access_close (handle : Nat) : b.access.close handle = Machine.close handle := by
  cases b <;> rfl

/-! ## The fill query -/

/-- What is read of a buffer after a fill query. -/
def taken : Except Errno Nat × List Interface → Except Errno (List Interface)
  | (.error e, _) => .error e
  | (.ok filled, buffer) => .ok (buffer.take filled)

theorem length_le_of_answerFill {t : TopologyReply} {capacity reported : Nat}
    {written : List Interface} (h : t.answerFill capacity = .ok (reported, written)) :
    written.length ≤ capacity := by
  unfold TopologyReply.answerFill at h
  split at h
  · cases h
  · split at h
    · cases h
    · cases h
      omega

/-- No node answers a fill query with more records than the buffer has room for. -/
theorem length_le_of_bind {node : Except Errno Node} {capacity reported : Nat}
    {written : List Interface}
    (h : (node.bind fun n => n.topology.bind (·.answerFill capacity)) = .ok (reported, written)) :
    written.length ≤ capacity := by
  cases node with
  | error e => cases h
  | ok n =>
    simp only [Except.bind] at h
    cases htopology : n.topology with
    | error e =>
      rw [htopology] at h
      cases h
    | ok t =>
      rw [htopology] at h
      exact length_le_of_answerFill h

theorem length_overwrite {buffer written : List Interface}
    (h : written.length ≤ buffer.length) :
    (Machine.overwrite buffer written).length = buffer.length := by
  simp [Machine.overwrite]
  omega

/-- Reading as many records as are reported, or as many as that and the buffer allow, is the
same: the buffer is no longer than it was made. -/
theorem take_overwrite {count : Nat} {written : List Interface} (h : written.length ≤ count)
    (reported : Nat) :
    (Machine.overwrite (List.replicate count .zero) written).take reported =
      (Machine.overwrite (List.replicate count .zero) written).take (min reported count) := by
  have hlength : (Machine.overwrite (List.replicate count .zero) written).length = count := by
    rw [length_overwrite (by rwa [List.length_replicate]), List.length_replicate]
  rw [List.take_eq_take_iff, hlength]
  omega

theorem bind_fill (node : Except Errno Node) (count : Nat) :
    node.bind (b.fill · count) =
      (node.bind fun n => n.topology.bind (·.answerFill count)).map fun (reported, written) =>
        (Machine.overwrite (List.replicate count .zero) (written.map b.interface)).take
          (min reported count) := by
  cases node <;> rfl

/-- The kernel's fill query on a buffer with room for `count` records. -/
theorem fillKernel_run {handle : Nat} {count : UInt32} {m m' : Machine}
    {answer : Except Errno (Nat × List Interface)}
    (hquery : (Machine.queryFill handle count.toNat).run m = (answer, m')) :
    (Machine.fillKernel handle (List.replicate count.toNat .zero)).run m =
      (match answer with
        | .error e => (.error e, List.replicate count.toNat .zero)
        | .ok (reported, written) =>
          (.ok (min reported count.toNat),
            Machine.overwrite (List.replicate count.toNat .zero) written), m') := by
  unfold Machine.fillKernel
  rw [Machine.capacityWord?_replicate]
  dsimp only
  rw [run_bind_of_eq hquery, List.length_replicate]
  cases answer <;> rfl

theorem fillDirect_run {handle count : Nat} {m m' : Machine}
    {answer : Except Errno (Nat × List Interface)}
    (hquery : (Machine.queryFill handle count).run m = (answer, m')) :
    (Machine.fillDirect handle (List.replicate count .zero)).run m =
      (match answer with
        | .error e => (.error e, List.replicate count .zero)
        | .ok (reported, written) =>
          (.ok reported,
            Machine.overwrite (List.replicate count .zero) (written.map Machine.withoutFlags)),
        m') := by
  unfold Machine.fillDirect
  rw [List.length_replicate, run_bind_of_eq hquery]
  cases answer <;> rfl

/-- Whatever a node answers to the fill query, `fill` is what is read after it. -/
theorem fillInterfaces_answers (handle : Nat) (count : UInt32) (m : Machine) :
    ∃ a, Answers (b.access.fillInterfaces handle (List.replicate count.toNat .zero)) m
        (Event.Asking handle) a ∧ taken a = (m.node handle).bind (b.fill · count.toNat) := by
  have hquery : (Machine.queryFill handle count.toNat).run m = _ :=
    Machine.query_run (.fillInterfaces count.toNat handle) handle
      (fun n => n.topology.bind (·.answerFill count.toNat)) m
  rw [bind_fill]
  generalize hanswer :
    (m.node handle).bind (fun n => n.topology.bind (·.answerFill count.toNat)) = answer
    at hquery ⊢
  have hevent : ∀ e ∈ [Event.called (.fillInterfaces count.toNat handle)
      (Machine.outcomeOf answer)], e.Asking handle := by
    intro e he
    rw [List.mem_singleton.mp he]
    exact rfl
  cases answer with
  | error e =>
    cases b with
    | kernel => exact ⟨_, ⟨_, hevent, fillKernel_run hquery⟩, rfl⟩
    | direct => exact ⟨_, ⟨_, hevent, fillDirect_run hquery⟩, rfl⟩
  | ok reply =>
    obtain ⟨reported, written⟩ := reply
    have hlength : (written.map b.interface).length ≤ count.toNat := by
      rw [List.length_map]
      exact length_le_of_bind hanswer
    cases b with
    | kernel limit =>
      have hid : written.map (kernel limit).interface = written := List.map_id' written
      refine ⟨_, ⟨_, hevent, fillKernel_run hquery⟩, ?_⟩
      simp only [taken, Except.map, hid]
    | direct =>
      refine ⟨_, ⟨_, hevent, fillDirect_run hquery⟩, ?_⟩
      exact congrArg Except.ok (take_overwrite hlength reported)

/-! ## Opening -/

/-- What opening a node with `opening` does: it fails, with or without a call, or gives the
next handle. -/
def Opens (opening : Path → StateM Machine (Except Errno Nat)) (call : Path → Call) : Prop :=
  ∀ path m, (opening path).run m =
    match b.reach m.world path with
    | .error e =>
      (.error e, m.extend (if b.admits path then [.called (call path) (.failed e)] else []))
    | .ok _ => (.ok m.nextHandle, m.keep path [.called (call path) (.opened m.nextHandle)])

theorem reach_of_admits {path : Path} {limit : Nat} (h : b.admits path = true) (w : World) :
    b.reach w path = (direct limit).reach w path := by
  unfold reach
  rw [if_pos h]
  rfl

theorem opens_openNode (limit : Nat) (call : Path → Call) :
    (direct limit).Opens (fun path => Machine.openNode (call path) path) call := by
  intro path m
  unfold Machine.openNode
  rw [run_get_bind]
  unfold Machine.opens reach
  simp only [admits, if_true]
  cases m.world.nodes.get? path with
  | none => rfl
  | some n =>
    dsimp only
    cases n.openFailure <;> rfl

theorem opens_openKernel (limit : Nat) (call : Path → Call) :
    (kernel limit).Opens (Machine.openKernel call) call := by
  intro path m
  unfold Machine.openKernel
  by_cases hnul : path.hasNul = true
  · have hadmits : (kernel limit).admits path = false := by simp [admits, hnul]
    simp only [reach, hadmits, hnul, if_true]
    simp [Machine.extend]
    rfl
  · have hadmits : (kernel limit).admits path = true := by simpa [admits] using hnul
    rw [if_neg hnul, opens_openNode limit call path m, reach_of_admits (kernel limit) hadmits,
      hadmits]
    rfl

theorem opens_video : b.Opens b.access.openVideo Call.openVideo := by
  cases b with
  | kernel limit => exact opens_openKernel limit Call.openVideo
  | direct limit => exact opens_openNode limit Call.openVideo

theorem opens_media : b.Opens b.access.openMedia Call.openMedia := by
  cases b with
  | kernel limit => exact opens_openKernel limit Call.openMedia
  | direct limit => exact opens_openNode limit Call.openMedia

/-! ## Listing -/

theorem list_answers (dir : Path) (m : Machine) :
    Answers (Machine.list dir) m (fun e => e.listing? = some dir)
      (match ((m.world.dirs.get? dir).getD (.error .noEntry)).bind readNames with
        | .error e => .error (.os e)
        | .ok names => .ok names) := by
  unfold Machine.list
  refine Answers.get_bind ?_
  have hcall : Answers
      (Machine.answerCall (.list dir) ((m.world.dirs.get? dir).getD (.error .noEntry))) m
      (fun e => e.listing? = some dir) ((m.world.dirs.get? dir).getD (.error .noEntry)) := by
    refine ⟨_, ?_, Machine.answerCall_run _ _ m⟩
    intro e he
    rw [List.mem_singleton.mp he]
    rfl
  refine hcall.bind fun es => ?_
  cases (m.world.dirs.get? dir).getD (.error .noEntry) with
  | error e => exact answers_pure _ _ _
  | ok entries =>
    simp only [Except.bind]
    cases readNames entries <;> exact answers_pure _ _ _

theorem entries_answers (dir : Path) (m : Machine) :
    Answers (b.access.entries dir) m (fun e => e.listing? = some dir)
      (b.names m.world dir) := by
  unfold names
  cases b with
  | direct =>
    simp only [admits, if_true, arrive]
    exact list_answers dir m
  | kernel limit =>
    change Answers (Machine.listKernel dir) m _ _
    unfold Machine.listKernel
    by_cases hnul : dir.hasNul = true
    · have hadmits : (kernel limit).admits dir = false := by simp [admits, hnul]
      simp only [hnul, hadmits, if_true]
      exact answers_pure _ _ _
    · have hadmits : (kernel limit).admits dir = true := by simpa [admits] using hnul
      rw [if_neg hnul, if_pos hadmits]
      refine (list_answers dir m).bind fun es => ?_
      cases ((m.world.dirs.get? dir).getD (.error .noEntry)).bind readNames <;>
        exact answers_pure _ _ _

end Backend

end MediaPairing
