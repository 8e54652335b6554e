import MediaPairing.DeviceTree
import MediaPairing.Proofs.Machine.Run

/-!
# The counters of a tree in memory

A tree is built from items and then used: nodes are opened, open handles are asked and
dropped. `TreeRun` is the relation between the tree and the open handles before and after
any sequence of such calls, with the answers that were given. The list of open handles stands
beside the tree, which itself only counts.

Each call leaves the tree in one of four forms: as it was, with one more handle
(`DeviceTree.held`), with one handle less (`DeviceTree.released`), or with one more topology
query (`DeviceTree.asked`). Which one it is, and with which answer, is said once
(`TreeCall.Ends`). So a call counts what it does (`TreeCall.Ends.counts`), and by induction a
run does (`TreeRun.counts`).

`treeRun_accounts` is the result: in every tree that can be reached, the counters are what was
done to it, the count of open handles has room for each drop, and what fails changes nothing.
-/

namespace MediaPairing

/-! ## Building -/

/-- One node that a tree is built from. -/
inductive TreeItem where
  | video (path : Path) (capability : Capability) (devnum : DeviceNumber)
  | videoWithoutCapability (path : Path)
  | videoWithoutNumber (path : Path) (capability : Capability)
  | media (path : Path) (interfaces : List Interface)
  | mediaWithCount (path : Path) (count : UInt32)
  | mediaWithoutInfo (path : Path)
  | mediaWithoutTopology (path : Path)

namespace DeviceTree

def add (t : DeviceTree) : TreeItem → DeviceTree
  | .video path capability devnum => t.putVideo path capability devnum
  | .videoWithoutCapability path => t.putVideoWithoutCapability path
  | .videoWithoutNumber path capability => t.putVideoWithoutNumber path capability
  | .media path interfaces => t.putMedia path interfaces
  | .mediaWithCount path count => t.putMediaWithCount path count
  | .mediaWithoutInfo path => t.putMediaWithoutInfo path
  | .mediaWithoutTopology path => t.putMediaWithoutTopology path

def ofItems (items : List TreeItem) : DeviceTree := items.foldl add {}

/-- The counters of a tree that nothing was done to. -/
structure Unused (t : DeviceTree) : Prop where
  openCount : t.openCount = 0
  openedCount : t.openedCount = 0
  topologyQueries : t.topologyQueries = 0

theorem Unused.put {t : DeviceTree} (h : t.Unused) (path : Path) (node : TreeNode) :
    (t.put path node).Unused :=
  ⟨h.openCount, h.openedCount, h.topologyQueries⟩

theorem Unused.add {t : DeviceTree} (h : t.Unused) (item : TreeItem) : (t.add item).Unused := by
  cases item <;> exact h.put _ _

theorem unused_ofItems (items : List TreeItem) : (ofItems items).Unused := by
  have hall : ∀ t : DeviceTree, t.Unused → (items.foldl DeviceTree.add t).Unused := by
    induction items with
    | nil => exact fun t ht => ht
    | cons item rest ih => exact fun t ht => ih _ (ht.add item)
  exact hall {} ⟨rfl, rfl, rfl⟩

/-! ## What an operation leaves -/

/-- The tree after a node was opened. -/
def held (t : DeviceTree) : DeviceTree :=
  { t with openCount := t.openCount + 1, openedCount := t.openedCount + 1 }

/-- The tree after a handle was closed. -/
def released (t : DeviceTree) : DeviceTree := { t with openCount := t.openCount - 1 }

/-- The tree after a query for the topology. -/
def asked (t : DeviceTree) : DeviceTree := { t with topologyQueries := t.topologyQueries + 1 }

theorem openNode_run (fits : TreeNode → Bool) (path : Path) (t : DeviceTree) :
    (∃ e, (openNode fits path).run t = (.error e, t)) ∨
      (openNode fits path).run t = (.ok ⟨path⟩, t.held) := by
  unfold openNode
  rw [run_get_bind]
  cases t.node? path with
  | none => exact .inl ⟨_, rfl⟩
  | some n =>
    by_cases hfits : fits n = true
    · right
      simp only [hfits, if_true]
      rfl
    · left
      simp only [hfits]
      exact ⟨_, rfl⟩

theorem close_run (h : TreeHandle) (t : DeviceTree) : (close h).run t = ((), t.released) := rfl

theorem run_modify_bind {α : Type} (f : DeviceTree → DeviceTree) (x : Unit → StateM DeviceTree α)
    (t : DeviceTree) : (modify f >>= x).run t = (x ()).run (f t) := rfl

theorem queryCapability_run (h : TreeHandle) (t : DeviceTree) :
    ∃ answer, (queryCapability h).run t = (answer, t) := by
  unfold queryCapability
  rw [run_get_bind]
  split <;> exact ⟨_, rfl⟩

theorem queryMediaInfo_run (h : TreeHandle) (t : DeviceTree) :
    ∃ answer, (queryMediaInfo h).run t = (answer, t) := by
  unfold queryMediaInfo
  rw [run_get_bind]
  split <;> exact ⟨_, rfl⟩

theorem queryNumber_run (h : TreeHandle) (t : DeviceTree) :
    ∃ answer, (queryNumber h).run t = (answer, t) := by
  unfold queryNumber
  rw [run_get_bind]
  split <;> exact ⟨_, rfl⟩

/-- A query for the topology is counted, whether it is answered or not. -/
theorem queryTopology_run (h : TreeHandle) (t : DeviceTree) :
    ∃ answer, (queryTopology h).run t = (answer, t.asked) := by
  unfold queryTopology
  rw [run_modify_bind, run_get_bind]
  split <;> exact ⟨_, rfl⟩

theorem queryCount_run (h : TreeHandle) (t : DeviceTree) :
    ∃ answer, (queryCount h).run t = (answer, t.asked) := by
  obtain ⟨answer, hrun⟩ := queryTopology_run h t
  exact ⟨_, run_bind_of_eq hrun⟩

/-- A fill that fails, be it for want of room or of a topology, leaves the buffer alone. -/
theorem queryFill_run (h : TreeHandle) (buffer : List Interface) (t : DeviceTree) :
    ∃ answer after, (queryFill h buffer).run t = ((answer, after), t.asked) ∧
      ∀ e, answer = .error e → after = buffer := by
  obtain ⟨topology, hrun⟩ := queryTopology_run h t
  unfold queryFill
  rw [run_bind_of_eq hrun]
  cases topology with
  | error e => exact ⟨.error e, buffer, rfl, fun _ _ => rfl⟩
  | ok reported =>
    obtain ⟨interfaces, count⟩ := reported
    by_cases hroom : buffer.length < interfaces.length
    · refine ⟨.error .noSpace, buffer, ?_, fun _ _ => rfl⟩
      simp only [if_pos hroom]
      rfl
    · refine ⟨.ok interfaces.length, interfaces ++ buffer.drop interfaces.length, ?_,
        fun e he => ?_⟩
      · simp only [if_neg hroom]
        rfl
      · cases he

end DeviceTree

/-! ## Calls and runs -/

/-- A call on a tree. -/
inductive TreeCall where
  | openVideo (path : Path)
  | openMedia (path : Path)
  | capability (h : TreeHandle)
  | mediaInfo (h : TreeHandle)
  | number (h : TreeHandle)
  | count (h : TreeHandle)
  | fill (h : TreeHandle) (buffer : List Interface)
  | drop (h : TreeHandle)

inductive CallKind where
  | opening
  /-- A query about anything but the topology. -/
  | look
  /-- A query about the topology. -/
  | survey
  | drop
deriving DecidableEq

inductive TreeAnswer where
  | opened (answer : Except Errno TreeHandle)
  | capability (answer : Except Errno Capability)
  | mediaInfo (answer : Except Errno MediaInfo)
  | number (answer : Except Errno DeviceNumber)
  | count (answer : Except Errno UInt32)
  /-- With the buffer as it is after the call. -/
  | filled (answer : Except Errno Nat) (after : List Interface)
  | dropped

/-- An open that succeeded. -/
def TreeAnswer.isHandle : TreeAnswer → Bool
  | .opened (.ok _) => true
  | _ => false

namespace TreeCall

def kind : TreeCall → CallKind
  | .openVideo _ | .openMedia _ => .opening
  | .capability _ | .mediaInfo _ | .number _ => .look
  | .count _ | .fill .. => .survey
  | .drop _ => .drop

/-- The handle that a call is made on. An open is made on none. -/
def handle? : TreeCall → Option TreeHandle
  | .openVideo _ | .openMedia _ => none
  | .capability h | .mediaInfo h | .number h | .count h | .fill h _ | .drop h => some h

def perform : TreeCall → StateM DeviceTree TreeAnswer
  | .openVideo path => return .opened (← DeviceTree.openVideo path)
  | .openMedia path => return .opened (← DeviceTree.openMedia path)
  | .capability h => return .capability (← DeviceTree.queryCapability h)
  | .mediaInfo h => return .mediaInfo (← DeviceTree.queryMediaInfo h)
  | .number h => return .number (← DeviceTree.queryNumber h)
  | .count h => return .count (← DeviceTree.queryCount h)
  | .fill h buffer => do
    let (answer, after) ← DeviceTree.queryFill h buffer
    return .filled answer after
  | .drop h => do
    DeviceTree.close h
    return .dropped

/-- The open handles after a call, of which a drop takes one and an open may add one. -/
def handlesAfter (call : TreeCall) (answer : TreeAnswer) (live : List TreeHandle) :
    List TreeHandle :=
  match call, answer with
  | .drop h, _ => live.erase h
  | _, .opened (.ok h) => h :: live
  | _, _ => live

theorem handlesAfter_of_look {call : TreeCall} {answer : TreeAnswer} (hlook : call.kind = .look)
    (hanswer : answer.isHandle = false) (live : List TreeHandle) :
    call.handlesAfter answer live = live := by
  unfold handlesAfter
  split
  · cases hlook
  · cases hanswer
  · rfl

/-- What a call on `t` can do: its answer, and the tree that it leaves. -/
inductive Ends (t : DeviceTree) : TreeCall → TreeAnswer → DeviceTree → Prop
  | opened {call : TreeCall} (hkind : call.kind = .opening) (h : TreeHandle) :
    Ends t call (.opened (.ok h)) t.held
  | refused {call : TreeCall} (hkind : call.kind = .opening) (e : Errno) :
    Ends t call (.opened (.error e)) t
  | looked {call : TreeCall} (hlook : call.kind = .look) {answer : TreeAnswer}
    (hanswer : answer.isHandle = false) : Ends t call answer t
  | countAsked (h : TreeHandle) (answer : Except Errno UInt32) :
    Ends t (.count h) (.count answer) t.asked
  | fillAsked (h : TreeHandle) (buffer : List Interface) {answer : Except Errno Nat}
    {after : List Interface} (hkept : ∀ e, answer = .error e → after = buffer) :
    Ends t (.fill h buffer) (.filled answer after) t.asked
  | dropped (h : TreeHandle) : Ends t (.drop h) .dropped t.released

/-- A step that ends in the way its first part does, once that part has run. -/
theorem run_map_of_eq {α : Type} {x : StateM DeviceTree α} {f : α → TreeAnswer}
    {t t' : DeviceTree} {a : α} (h : x.run t = (a, t')) :
    (do return f (← x) : StateM DeviceTree TreeAnswer).run t = (f a, t') :=
  run_bind_of_eq h

theorem exists_ends (call : TreeCall) (t : DeviceTree) :
    ∃ answer t', call.perform.run t = (answer, t') ∧ Ends t call answer t' := by
  cases call with
  | openVideo path =>
    rcases DeviceTree.openNode_run _ path t with ⟨e, hrun⟩ | hrun
    · exact ⟨_, _, run_map_of_eq hrun, .refused rfl e⟩
    · exact ⟨_, _, run_map_of_eq hrun, .opened rfl _⟩
  | openMedia path =>
    rcases DeviceTree.openNode_run _ path t with ⟨e, hrun⟩ | hrun
    · exact ⟨_, _, run_map_of_eq hrun, .refused rfl e⟩
    · exact ⟨_, _, run_map_of_eq hrun, .opened rfl _⟩
  | capability h =>
    obtain ⟨answer, hrun⟩ := DeviceTree.queryCapability_run h t
    exact ⟨_, _, run_map_of_eq hrun, .looked rfl rfl⟩
  | mediaInfo h =>
    obtain ⟨answer, hrun⟩ := DeviceTree.queryMediaInfo_run h t
    exact ⟨_, _, run_map_of_eq hrun, .looked rfl rfl⟩
  | number h =>
    obtain ⟨answer, hrun⟩ := DeviceTree.queryNumber_run h t
    exact ⟨_, _, run_map_of_eq hrun, .looked rfl rfl⟩
  | count h =>
    obtain ⟨answer, hrun⟩ := DeviceTree.queryCount_run h t
    exact ⟨_, _, run_map_of_eq hrun, .countAsked h answer⟩
  | fill h buffer =>
    obtain ⟨answer, after, hrun, hkept⟩ := DeviceTree.queryFill_run h buffer t
    exact ⟨_, _, run_bind_of_eq hrun, .fillAsked h buffer hkept⟩
  | drop h => exact ⟨_, _, run_bind_of_eq (DeviceTree.close_run h t), .dropped h⟩

theorem ends_of_run {call : TreeCall} {answer : TreeAnswer} {t t' : DeviceTree}
    (hrun : call.perform.run t = (answer, t')) : Ends t call answer t' := by
  obtain ⟨answer', t'', hrun', hends⟩ := call.exists_ends t
  rw [hrun] at hrun'
  cases hrun'
  exact hends

section

variable {call : TreeCall} {answer : TreeAnswer} {t t' : DeviceTree}

theorem Ends.eq_of_refused {e : Errno} (hends : Ends t call (.opened (.error e)) t') :
    t' = t := by
  cases hends with
  | refused => rfl
  | looked => rfl

theorem Ends.eq_of_look (hends : Ends t call answer t') (hlook : call.kind = .look) :
    t' = t := by
  cases hends with
  | opened hkind h => cases hkind.symm.trans hlook
  | refused => rfl
  | looked => rfl
  | countAsked => cases hlook
  | fillAsked => cases hlook
  | dropped => cases hlook

theorem Ends.after_eq_of_failed {h : TreeHandle} {buffer after : List Interface} {e : Errno}
    (hends : Ends t (.fill h buffer) (.filled (.error e) after) t') : after = buffer := by
  cases hends with
  | looked hlook => cases hlook
  | fillAsked h buffer hkept => exact hkept e rfl

end

end TreeCall

/-- `TreeRun t live log t' live'`: the calls of `log` are made one after the other on `t`, where
the handles `live` are open, each on a handle that is open then. They are answered as `log`
says, and leave `t'` with the handles `live'`. -/
inductive TreeRun : DeviceTree → List TreeHandle → List (TreeCall × TreeAnswer) → DeviceTree →
    List TreeHandle → Prop
  | nil (t : DeviceTree) (live : List TreeHandle) : TreeRun t live [] t live
  | cons {t t₁ t' : DeviceTree} {live live' : List TreeHandle} {call : TreeCall}
    {answer : TreeAnswer} {log : List (TreeCall × TreeAnswer)}
    (hlive : ∀ h ∈ call.handle?, h ∈ live) (hcall : call.perform.run t = (answer, t₁))
    (hrest : TreeRun t₁ (call.handlesAfter answer live) log t' live') :
    TreeRun t live ((call, answer) :: log) t' live'

/-- What was counted between `t` and `t'`, where the handles `live'` are open in the end. -/
structure Counted (t : DeviceTree) (log : List (TreeCall × TreeAnswer)) (t' : DeviceTree)
    (live' : List TreeHandle) : Prop where
  openCount : t'.openCount = live'.length
  openedCount : t'.openedCount = t.openedCount + log.countP (·.2.isHandle)
  topologyQueries : t'.topologyQueries = t.topologyQueries + log.countP (·.1.kind = .survey)
  /-- No more handles are open in addition than were opened. -/
  openCount_le : t'.openCount + t.openedCount ≤ t.openCount + t'.openedCount

theorem counted_nil {t : DeviceTree} {live : List TreeHandle} (h : t.openCount = live.length) :
    Counted t [] t live :=
  ⟨h, rfl, rfl, Nat.le_refl _⟩

theorem Counted.cons {t t₁ t' : DeviceTree} {step : TreeCall × TreeAnswer}
    {log : List (TreeCall × TreeAnswer)} {live₁ live' : List TreeHandle}
    (hstep : Counted t [step] t₁ live₁) (hrest : Counted t₁ log t' live') :
    Counted t (step :: log) t' live' := by
  have hopened := hstep.openedCount
  have hqueries := hstep.topologyQueries
  have hle := hstep.openCount_le
  have hrestOpened := hrest.openedCount
  have hrestQueries := hrest.topologyQueries
  have hrestLe := hrest.openCount_le
  rw [List.countP_singleton] at hopened hqueries
  refine ⟨hrest.openCount, ?_, ?_, ?_⟩
  · rw [List.countP_cons]
    omega
  · rw [List.countP_cons]
    omega
  · omega

/-- The step: a call counts what it does. -/
theorem TreeCall.Ends.counts {t t' : DeviceTree} {call : TreeCall} {answer : TreeAnswer}
    {live : List TreeHandle} (hends : Ends t call answer t')
    (hlive : ∀ h ∈ call.handle?, h ∈ live) (hopen : t.openCount = live.length) :
    Counted t [(call, answer)] t' (call.handlesAfter answer live) := by
  cases hends with
  | opened hkind h =>
    cases call <;> cases hkind
    all_goals
      refine ⟨?_, rfl, rfl, ?_⟩
      · exact congrArg (· + 1) hopen
      · simp only [DeviceTree.held]
        omega
  | refused hkind e =>
    cases call <;> cases hkind
    all_goals exact ⟨hopen, rfl, rfl, Nat.le_refl _⟩
  | looked hlook hanswer =>
    rw [TreeCall.handlesAfter_of_look hlook hanswer]
    refine ⟨hopen, ?_, ?_, Nat.le_refl _⟩
    · simp [hanswer]
    · simp [hlook]
  | countAsked h answer => exact ⟨hopen, rfl, rfl, Nat.le_refl _⟩
  | fillAsked h buffer hkept => exact ⟨hopen, rfl, rfl, Nat.le_refl _⟩
  | dropped h =>
    have hmem : h ∈ live := hlive h rfl
    have hpos := List.length_pos_of_mem hmem
    refine ⟨?_, rfl, rfl, ?_⟩
    · show t.openCount - 1 = (live.erase h).length
      rw [List.length_erase_of_mem hmem, hopen]
    · simp only [DeviceTree.released]
      omega

/-- The run: the calls count what they do. -/
theorem TreeRun.counts {t t' : DeviceTree} {live live' : List TreeHandle}
    {log : List (TreeCall × TreeAnswer)} (hrun : TreeRun t live log t' live')
    (hopen : t.openCount = live.length) : Counted t log t' live' := by
  induction hrun with
  | nil t live => exact counted_nil hopen
  | @cons t t₁ t' live live' call answer log hlive hcall hrest ih =>
    have hstep := (TreeCall.ends_of_run hcall).counts hlive hopen
    exact hstep.cons (ih hstep.openCount)

/-- After any calls on any tree, the counters are what was done: the count of open handles is
the number of handles that are open, the count of opens is the number of opens that succeeded,
and the count of topology queries is the number of those calls, whatever they answered. No more
handles are open than were opened, and a drop takes one from the count, which is not zero.
Further calls never lower the count of opens. Whatever the next call is, a failed open and a
query about anything but the topology leave the tree as it is, with its counters, and a fill
that fails, as it does for want of room, leaves the buffer as it was. -/
theorem treeRun_accounts (items : List TreeItem) {log : List (TreeCall × TreeAnswer)}
    {t : DeviceTree} {live : List TreeHandle}
    (hrun : TreeRun (.ofItems items) [] log t live) :
    t.openCount = live.length ∧
      t.openedCount = log.countP (·.2.isHandle) ∧
      t.openCount ≤ t.openedCount ∧
      t.topologyQueries = log.countP (·.1.kind = .survey) ∧
      (∀ h ∈ live, ((DeviceTree.close h).run t).2.openCount + 1 = t.openCount) ∧
      (∀ more t' live', TreeRun t live more t' live' → t.openedCount ≤ t'.openedCount) ∧
      ∀ (call : TreeCall) (answer : TreeAnswer) (t' : DeviceTree),
        call.perform.run t = (answer, t') →
        (∀ e, answer = .opened (.error e) → t' = t) ∧
        (call.kind = .look → t' = t) ∧
        ∀ h buffer e after, call = .fill h buffer → answer = .filled (.error e) after →
          after = buffer := by
  have hunused := DeviceTree.unused_ofItems items
  have hcounts := hrun.counts hunused.openCount
  have hopened := hcounts.openedCount
  have hqueries := hcounts.topologyQueries
  have hle := hcounts.openCount_le
  rw [hunused.openedCount] at hopened hle
  rw [hunused.topologyQueries] at hqueries
  rw [hunused.openCount] at hle
  refine ⟨hcounts.openCount, by omega, by omega, by omega, ?_, ?_, ?_⟩
  · intro h hh
    have hpos := List.length_pos_of_mem hh
    have hopen := hcounts.openCount
    show t.openCount - 1 + 1 = t.openCount
    omega
  · intro more t' live' hmore
    have hgrown := (hmore.counts hcounts.openCount).openedCount
    omega
  · intro call answer t' hcall
    have hends := TreeCall.ends_of_run hcall
    refine ⟨?_, hends.eq_of_look, ?_⟩
    · rintro e rfl
      exact hends.eq_of_refused
    · rintro h buffer e after rfl rfl
      exact hends.after_eq_of_failed

/-- A video node and a controller with two interfaces. -/
def sampleItems : List TreeItem :=
  [.video (.ofString "/dev/video0") {} ⟨81, 0⟩,
    .media (.ofString "/dev/media0") [.ofType 7 .v4lVideo ⟨81, 0⟩, .ofType 8 .v4lVideo ⟨81, 1⟩]]

/-- Both nodes are opened, the first one also as what it is not. The controller has more
interfaces than the buffer has room for, and the video node is dropped. -/
def sampleLog : List (TreeCall × TreeAnswer) :=
  let video : Path := .ofString "/dev/video0"
  let media : Path := .ofString "/dev/media0"
  let buffer : List Interface := [.ofType 3 .v4lVideo ⟨81, 9⟩]
  [(.openVideo video, .opened (.ok ⟨video⟩)),
    (.openMedia video, .opened (.error .notSupportedByDevice)),
    (.openMedia media, .opened (.ok ⟨media⟩)),
    (.fill ⟨media⟩ buffer, .filled (.error .noSpace) buffer),
    (.drop ⟨video⟩, .dropped)]

theorem treeRun_sample :
    TreeRun (.ofItems sampleItems) [] sampleLog
      { DeviceTree.ofItems sampleItems with openCount := 1, openedCount := 2, topologyQueries := 1 }
      [⟨.ofString "/dev/media0"⟩] := by
  apply TreeRun.cons (by decide) rfl
  apply TreeRun.cons (by decide) rfl
  apply TreeRun.cons (by decide) rfl
  apply TreeRun.cons (by decide) rfl
  apply TreeRun.cons (by decide) rfl
  exact TreeRun.nil _ _

/-- One of two handles is left, and the fill that failed is counted. -/
theorem treeRun_accounts_sample :
    ∃ t, TreeRun (.ofItems sampleItems) [] sampleLog t [⟨.ofString "/dev/media0"⟩] ∧
      t.openCount = 1 ∧ t.openedCount = 2 ∧ t.topologyQueries = 1 := by
  obtain ⟨hopen, hopened, -, hqueries, -⟩ := treeRun_accounts sampleItems treeRun_sample
  exact ⟨_, treeRun_sample, hopen, hopened, hqueries⟩

end MediaPairing
