import MediaPairing.Proofs.Machine.Backend
import MediaPairing.Machine.System

/-!
# What formats are read of open devices

The formats of a queue are a function of the node behind the handle: they are those of the
queue's replies before the first error, if that error ends the list, and a failure otherwise. A
queue without an error among all of its indices is a failure of its own kind.
Whether a code is offered is decided by the first queue that lists it or fails.

* `formatReply node queue index`: the reply to one query.
* `queueFormats`, `VideoDevice.offered`: the formats of a queue, and with the error that names
  the node.
* `formatsFrom_next`, `formatsFrom_last`: one step of an enumeration.
* `formats_answers`, `supportsFormat_answers`: how they are asked for.
* `listed_of_offersOn`, `offered_before_failure`: a node that is said to offer a code lists it on
  a queue, and on one before the first that fails.
-/

namespace MediaPairing

/-! ## Replies -/

/-- The reply to the query for the format at `index` of a queue, with `node` behind the handle. -/
def formatReply (node : Except Errno Node) (queue : BufferQueue) (index : Nat) :
    Except Errno FormatReply :=
  node.bind (·.format queue.raw index)

/-- What an error number comes to where a format was asked for: the end of the list, or a
failure. -/
def listEnd (e : Errno) : Except ListingFailure (List PixelFormat) :=
  if e = .invalidArgument then .ok [] else .error (.os e)

/-- The formats that the replies of a queue list, with so many indices left. -/
def FormatReplies.formats : FormatReplies → Nat → Except ListingFailure (List PixelFormat)
  | _, 0 => .error .indexOverflow
  | [], _ + 1 => .ok []
  | .error e :: _, _ + 1 => listEnd e
  | .ok reply :: rest, left + 1 =>
    match FormatReplies.formats rest left with
    | .error e => .error e
    | .ok fs => .ok (reply.record.pixelFormat :: fs)

/-- The formats of a queue of a node. An index is a 32-bit word. -/
def queueFormats (node : Except Errno Node) (queue : BufferQueue) :
    Except ListingFailure (List PixelFormat) :=
  match node.bind Node.formats with
  | .error e => listEnd e
  | .ok queues => FormatReplies.formats ((queues.lookup queue.raw).getD []) UInt32.size

theorem formats_zero (replies : FormatReplies) :
    replies.formats 0 = .error .indexOverflow := by
  cases replies <;> rw [FormatReplies.formats]

theorem formats_cons (reply : FormatReply) (rest : FormatReplies) (left : Nat) :
    FormatReplies.formats (.ok reply :: rest) (left + 1) =
      (FormatReplies.formats rest left).map (reply.record.pixelFormat :: ·) := by
  rw [FormatReplies.formats]
  cases FormatReplies.formats rest left <;> rfl

/-! ## Steps of an enumeration -/

section

variable {handle index : Nat} {queue : BufferQueue} {m m' : Machine} {n : Node}

theorem format_eq {queues : List (UInt32 × FormatReplies)} (h : n.formats = .ok queues)
    (raw : UInt32) (index : Nat) :
    n.format raw index =
      (((queues.lookup raw).getD [])[index]?).getD (.error .invalidArgument) := by
  unfold Node.format
  rw [h]
  dsimp only
  cases ((queues.lookup raw).getD [])[index]? <;> rfl

theorem format_run (handle : Nat) (queue : BufferQueue) (index : Nat) (m : Machine) :
    (Machine.system.format handle queue index).run m =
      ((formatReply (m.node handle) queue index).map FormatReply.record,
        m.extend [.called (.format queue index handle)
          (Machine.outcomeOf (formatReply (m.node handle) queue index))]) := by
  change (Machine.queryFormat handle queue index).run m = _
  unfold Machine.queryFormat formatReply
  rw [Machine.query_run]
  cases m.node handle with
  | error e => rfl
  | ok n =>
    simp only [Except.bind]
    cases n.format queue.raw index <;> rfl

/-- A record is listed before what the later indices list. -/
theorem formatsFrom_next {r : FormatReply} {rest : Except ListingFailure (List PixelFormat)}
    (hindex : index < UInt32.size) (hreply : formatReply (m.node handle) queue index = .ok r)
    (hrest : (Machine.system.formatsFrom handle queue (index + 1)).run
      (m.extend [.called (.format queue index handle) .done]) = (rest, m')) :
    (Machine.system.formatsFrom handle queue index).run m =
      (rest.map (r.record.pixelFormat :: ·), m') := by
  have hquery : (Machine.system.format handle queue index).run m =
      (.ok r.record, m.extend [.called (.format queue index handle) .done]) := by
    rw [format_run, hreply]
    rfl
  rw [System.formatsFrom, if_pos hindex, run_bind_of_eq hquery]
  dsimp only
  rw [run_bind_of_eq hrest]
  cases rest <;> rfl

/-- An error ends the enumeration. -/
theorem formatsFrom_last {e : Errno} (hindex : index < UInt32.size)
    (hreply : formatReply (m.node handle) queue index = .error e) :
    (Machine.system.formatsFrom handle queue index).run m =
      (listEnd e, m.extend [.called (.format queue index handle) (.failed e)]) := by
  have hquery : (Machine.system.format handle queue index).run m =
      (.error e, m.extend [.called (.format queue index handle) (.failed e)]) := by
    rw [format_run, hreply]
    rfl
  rw [System.formatsFrom, if_pos hindex, run_bind_of_eq hquery]
  rfl

/-- A query that fails ends the enumeration. -/
theorem formatsFrom_error {e : Errno} (hindex : index < UInt32.size)
    (hreply : formatReply (m.node handle) queue index = .error e) :
    Answers (Machine.system.formatsFrom handle queue index) m (Event.About handle) (listEnd e) :=
  ⟨_, List.forall_mem_singleton.mpr (Event.About.call rfl _), formatsFrom_last hindex hreply⟩

/-- The enumeration from an index on lists what the replies from there on list. The induction is
on the number of indices that are left. -/
theorem formatsFrom_replies {queues : List (UInt32 × FormatReplies)}
    (hnode : m.node handle = .ok n) (hqueues : n.formats = .ok queues) {left : Nat}
    (hindex : index + left = UInt32.size) :
    Answers (Machine.system.formatsFrom handle queue index) m (Event.About handle)
      (FormatReplies.formats (((queues.lookup queue.raw).getD []).drop index) left) := by
  generalize hreplies : (queues.lookup queue.raw).getD [] = replies
  induction left generalizing index m with
  | zero =>
    rw [System.formatsFrom, if_neg (by omega), formats_zero]
    exact answers_pure _ _ _
  | succ left ih =>
    have hlt : index < UInt32.size := by omega
    have hreply : formatReply (m.node handle) queue index =
        (replies[index]?).getD (.error .invalidArgument) := by
      rw [formatReply, hnode, ← hreplies]
      exact format_eq hqueues queue.raw index
    cases hat : replies[index]? with
    | none =>
      have hend : replies.drop index = [] :=
        List.drop_eq_nil_iff.mpr (List.getElem?_eq_none_iff.mp hat)
      rw [hat] at hreply
      rw [hend]
      exact formatsFrom_error hlt hreply
    | some reply =>
      rw [hat] at hreply
      obtain ⟨hlength, hget⟩ := List.getElem?_eq_some_iff.mp hat
      rw [List.drop_eq_getElem_cons hlength, hget]
      cases reply with
      | error e => exact formatsFrom_error hlt hreply
      | ok reply =>
        obtain ⟨es, hes, hrest⟩ : Answers (Machine.system.formatsFrom handle queue (index + 1))
            (m.extend [.called (.format queue index handle) .done]) (Event.About handle)
            (FormatReplies.formats (replies.drop (index + 1)) left) :=
          ih hnode (by omega)
        rw [formats_cons]
        rw [Machine.extend_extend] at hrest
        exact ⟨_, List.forall_mem_cons.mpr ⟨Event.About.call rfl _, hes⟩,
          formatsFrom_next hlt hreply hrest⟩

theorem formatsFrom_answers (handle : Nat) (queue : BufferQueue) (m : Machine) :
    Answers (Machine.system.formatsFrom handle queue 0) m (Event.About handle)
      (queueFormats (m.node handle) queue) := by
  have hzero : 0 < UInt32.size := by decide
  unfold queueFormats
  cases hnode : m.node handle with
  | error e =>
    refine formatsFrom_error hzero ?_
    rw [hnode]
    rfl
  | ok n =>
    simp only [Except.bind]
    cases hqueues : n.formats with
    | error e =>
      refine formatsFrom_error hzero ?_
      rw [formatReply, hnode]
      simp only [Except.bind, Node.format, hqueues]
    | ok queues => exact formatsFrom_replies hnode hqueues (Nat.zero_add _)

end

/-! ## The formats of a device -/

/-- The formats that `video` offers on a queue, if its handle stands for `node`. -/
def VideoDevice.offered (video : VideoDevice Nat) (node : Except Errno Node)
    (queue : BufferQueue) : Except PairingError (List PixelFormat) :=
  (queueFormats node queue).mapError (.formatQueryFailed video.path)

theorem formats_answers (video : VideoDevice Nat) (queue : BufferQueue) (m : Machine) :
    Answers (formats video queue) m (Event.About video.fd)
      (video.offered (m.node video.fd) queue) := by
  unfold formats System.formats VideoDevice.offered
  refine (formatsFrom_answers video.fd queue m).bind fun es => ?_
  cases queueFormats (m.node video.fd) queue <;> exact answers_pure _ _ _

/-- How a queue with these formats decides whether `fourcc` is offered, if it does. -/
def offerVerdict (fourcc : FourCc) :
    Except PairingError (List PixelFormat) → Option (Except PairingError Bool)
  | .error e => some (.error e)
  | .ok fs => if fs.any (·.fourcc == fourcc) then some (.ok true) else none

/-- Whether `fourcc` is offered: the first of the queues that decides. -/
def offersOn (offered : BufferQueue → Except PairingError (List PixelFormat)) (fourcc : FourCc)
    (queues : List BufferQueue) : Except PairingError Bool :=
  (queues.findSome? fun queue => offerVerdict fourcc (offered queue)).getD (.ok false)

theorem anyOffers_answers (video : VideoDevice Nat) (fourcc : FourCc)
    (queues : List BufferQueue) (m : Machine) :
    Answers (Machine.system.anyOffers video fourcc queues) m (Event.About video.fd)
      (offersOn (video.offered (m.node video.fd)) fourcc queues) := by
  unfold offersOn
  induction queues generalizing m with
  | nil => exact answers_pure _ _ _
  | cons queue rest ih =>
    unfold System.anyOffers
    refine (formats_answers video queue m).bind fun es => ?_
    rw [List.findSome?_cons]
    cases video.offered (m.node video.fd) queue with
    | error e => exact answers_pure _ _ _
    | ok fs =>
      dsimp only [offerVerdict]
      by_cases hany : fs.any (·.fourcc == fourcc) = true
      · rw [if_pos hany, if_pos hany]
        exact answers_pure _ _ _
      · rw [if_neg hany, if_neg hany]
        exact ih (m.extend es)

theorem supportsFormat_answers (video : VideoDevice Nat) (fourcc : FourCc) (m : Machine) :
    Answers (supportsFormat video fourcc) m (Event.About video.fd)
      (offersOn (video.offered (m.node video.fd)) fourcc BufferQueue.all) :=
  anyOffers_answers video fourcc BufferQueue.all m

section

variable {offered : BufferQueue → Except PairingError (List PixelFormat)} {fourcc : FourCc}

/-- A code that is found is listed by one of the queues. -/
theorem listed_of_offersOn {queues : List BufferQueue}
    (hfound : offersOn offered fourcc queues = .ok true) :
    ∃ q ∈ queues, ∃ fs, offered q = .ok fs ∧ ∃ f ∈ fs, f.fourcc = fourcc := by
  unfold offersOn at hfound
  cases hverdict : queues.findSome? fun q => offerVerdict fourcc (offered q) with
  | none =>
    rw [hverdict] at hfound
    cases hfound
  | some verdict =>
    rw [hverdict] at hfound
    cases hfound
    obtain ⟨q, hq, hdecided⟩ := List.exists_of_findSome?_eq_some hverdict
    cases hfs : offered q with
    | error e' =>
      rw [hfs] at hdecided
      cases hdecided
    | ok fs =>
      rw [hfs, offerVerdict] at hdecided
      split at hdecided
      · rename_i hany
        obtain ⟨f, hf, hcode⟩ := List.any_eq_true.mp hany
        exact ⟨q, hq, fs, hfs, f, hf, beq_iff_eq.mp hcode⟩
      · cases hdecided

/-- A code that is found is listed by a queue before the first one that fails. -/
theorem offered_before_failure {before after : List BufferQueue} {queue : BufferQueue}
    {e : PairingError} (hfound : offersOn offered fourcc (before ++ queue :: after) = .ok true)
    (hfailed : offered queue = .error e) :
    ∃ q ∈ before, ∃ fs, offered q = .ok fs ∧ ∃ f ∈ fs, f.fourcc = fourcc := by
  refine listed_of_offersOn ?_
  unfold offersOn at hfound ⊢
  rw [List.findSome?_append, List.findSome?_cons, hfailed, offerVerdict] at hfound
  cases hverdict : before.findSome? fun q => offerVerdict fourcc (offered q) with
  | none =>
    rw [hverdict] at hfound
    cases hfound
  | some verdict =>
    rw [hverdict] at hfound
    exact hfound

end

end MediaPairing
