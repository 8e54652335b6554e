import MediaPairing.Proofs.Discovery.FormatReadout
import MediaPairing.Proofs.Machine.RoundTrip
import MediaPairing.Proofs.Text.FormatCode
import Mathlib.Data.List.Forall2
import Mathlib.Data.Nat.Digits.Defs
import Mathlib.Tactic.Choose

/-!
# The enumeration of a queue

The formats of a queue are asked for by their index. The enumeration takes one reply after the
other, each with one query, and stops at the first error; that is the end of the list, or a
failure. A queue that has a format for every index there is comes to neither. Whether a code is
offered is decided by the first queue that lists it or does not list at all, and the queues after
that one are not asked.

* `RepliesUntil node queue records e`: the replies are `records`, and then the error `e`.
* `QueueOffers`, `QueueFails`, `QueueOverflows`: the ways in which an enumeration comes out.
* `formatsFrom_append`: many steps of an enumeration.
* `formats_enumerates`: the queries of an enumeration, and what it comes to.
* `supportsFormat_first_decides`: the queue that decides whether a code is offered.
-/

namespace MediaPairing

/-! ## Replies -/

/-- A reply describes a format: the code has the bytes of the number, lowest first, the
description is what the field of the record holds, and the flags are the same. -/
structure FormatReply.Describes (r : FormatReply) (f : PixelFormat) : Prop where
  code_eq : Nat.ofDigits 256 (f.fourcc.bytes.map UInt8.toNat) = r.code.toNat
  description_eq : f.description = (FixedText.ofBytes 32 r.description).text
  flags_eq : f.flags = r.flags

theorem ofDigits_ofWord (w : UInt32) :
    Nat.ofDigits 256 ((FourCc.ofWord w).bytes.map UInt8.toNat) = w.toNat := by
  have hw : w.toNat < 4294967296 := w.toNat_lt
  simp only [FourCc.ofWord, FourCc.bytes, List.map_cons, List.map_nil, Nat.ofDigits_cons,
    Nat.ofDigits_nil, UInt8.toNat_ofNat']
  omega

theorem describes_pixelFormat (r : FormatReply) : r.Describes r.record.pixelFormat :=
  ⟨ofDigits_ofWord r.code, rfl, rfl⟩

/-- A reply describes one format. -/
theorem FormatReply.Describes.eq_pixelFormat {r : FormatReply} {f : PixelFormat}
    (h : r.Describes f) : f = r.record.pixelFormat := by
  obtain ⟨fourcc, description, flags⟩ := f
  obtain ⟨hcode, hdescription, hflags⟩ := h
  have hword : fourcc.toWord = r.code := by
    rw [← UInt32.ofNat_toNat (x := r.code), ← hcode]
    simp only [FourCc.toWord, FourCc.bytes, List.map_cons, List.map_nil, Nat.ofDigits_cons,
      Nat.ofDigits_nil]
    congr 1
    omega
  have hfourcc : fourcc = .ofWord r.code := by rw [← hword, FourCc.ofWord_toWord]
  dsimp only at hdescription hflags
  rw [hfourcc, hdescription, hflags]
  rfl

theorem eq_of_describes {records : List FormatReply} {fs : List PixelFormat}
    (h : List.Forall₂ FormatReply.Describes records fs) :
    fs = records.map (·.record.pixelFormat) := by
  induction h with
  | nil => rfl
  | cons hdescribes _ ih => rw [hdescribes.eq_pixelFormat, ih, List.map_cons]

/-- A description that fits its field is read as it was. -/
theorem pixelFormat_of_fits {code flags : UInt32} {description : String}
    (h : TextFits 32 description) :
    (FormatReply.mk code (Utf8.encode description) flags).record.pixelFormat =
      ⟨.ofWord code, description, flags⟩ := by
  unfold FormatReply.record FormatRecord.pixelFormat
  rw [h.text_ofBytes_encode]

/-- The replies of a queue are `records`, and the next one is the error `e`. -/
structure RepliesUntil (node : Except Errno Node) (queue : BufferQueue)
    (records : List FormatReply) (e : Errno) : Prop where
  record_eq : ∀ index (h : index < records.length),
    formatReply node queue index = .ok records[index]
  end_eq : formatReply node queue records.length = .error e

section

variable {node : Except Errno Node} {queue : BufferQueue}

/-- The replies before the first error, if there is one. -/
theorem exists_repliesUntil_le {index : Nat} {e : Errno}
    (h : formatReply node queue index = .error e) :
    ∃ records e', records.length ≤ index ∧ RepliesUntil node queue records e' := by
  have hfailed : ∃ i, ∃ e, formatReply node queue i = .error e := ⟨index, e, h⟩
  classical
  obtain ⟨e', he'⟩ := Nat.find_spec hfailed
  have hbefore : ∀ i : Fin (Nat.find hfailed), ∃ r, formatReply node queue i = .ok r := by
    intro i
    cases hreply : formatReply node queue i with
    | ok r => exact ⟨r, rfl⟩
    | error e => exact absurd ⟨e, hreply⟩ (Nat.find_min hfailed i.isLt)
  choose r hr using hbefore
  refine ⟨List.ofFn r, e', ?_, fun i hi => ?_, ?_⟩
  · rw [List.length_ofFn]
    exact Nat.find_le ⟨e, h⟩
  · rw [List.getElem_ofFn, ← hr]
  · rw [List.length_ofFn]
    exact he'

/-- There is one first error, and one list of records before it. -/
theorem RepliesUntil.unique {records records' : List FormatReply} {e e' : Errno}
    (h : RepliesUntil node queue records e) (h' : RepliesUntil node queue records' e') :
    records = records' ∧ e = e' := by
  have hlength : records.length = records'.length := by
    rcases Nat.lt_trichotomy records.length records'.length with hlt | heq | hlt
    · cases (h'.record_eq _ hlt).symm.trans h.end_eq
    · exact heq
    · cases (h.record_eq _ hlt).symm.trans h'.end_eq
  refine ⟨List.ext_getElem hlength fun i hi hi' => ?_, ?_⟩
  · exact Except.ok.inj ((h.record_eq i hi).symm.trans (h'.record_eq i hi'))
  · have hend := h'.end_eq
    rw [← hlength] at hend
    exact Except.error.inj (h.end_eq.symm.trans hend)

/-- Every queue comes to an error: a node has a list of replies, and past that list the argument
is invalid. -/
theorem exists_repliesUntil (node : Except Errno Node) (queue : BufferQueue) :
    ∃ records e, RepliesUntil node queue records e := by
  have hfailed : ∃ index e, formatReply node queue index = .error e := by
    unfold formatReply
    cases node with
    | error e => exact ⟨0, e, rfl⟩
    | ok n =>
      cases hqueues : n.formats with
      | error e =>
        refine ⟨0, e, ?_⟩
        simp only [Except.bind, Node.format, hqueues]
      | ok queues =>
        refine ⟨((queues.lookup queue.raw).getD []).length, .invalidArgument, ?_⟩
        simp only [Except.bind, format_eq hqueues, List.getElem?_eq_none (Nat.le_refl _)]
        rfl
  obtain ⟨index, e, he⟩ := hfailed
  obtain ⟨records, e', -, hreplies⟩ := exists_repliesUntil_le he
  exact ⟨records, e', hreplies⟩

end

/-! ## Queries of an enumeration -/

section

variable {handle index : Nat} {queue : BufferQueue} {m m' : Machine}

/-- The events of `count` queries from `index` on that are all answered. -/
def answeredQueries (queue : BufferQueue) (handle index count : Nat) : List Event :=
  (List.range' index count).map fun i => .called (.format queue i handle) .done

/-- Records are listed in order, before what the later indices list. -/
theorem formatsFrom_append {records : List FormatReply}
    {rest : Except ListingFailure (List PixelFormat)}
    (hindex : index + records.length ≤ UInt32.size)
    (hrecords : ∀ i (h : i < records.length),
      formatReply (m.node handle) queue (index + i) = .ok records[i])
    (hrest : (Machine.system.formatsFrom handle queue (index + records.length)).run
      (m.extend (answeredQueries queue handle index records.length)) = (rest, m')) :
    (Machine.system.formatsFrom handle queue index).run m =
      (rest.map (records.map (·.record.pixelFormat) ++ ·), m') := by
  induction records generalizing index m with
  | nil =>
    have hrun : (Machine.system.formatsFrom handle queue index).run m = (rest, m') := by
      simpa [answeredQueries, Machine.extend] using hrest
    rw [hrun]
    cases rest <;> rfl
  | cons r records ih =>
    rw [List.length_cons] at hindex hrest
    have hlater : (Machine.system.formatsFrom handle queue (index + 1)).run
        (m.extend [.called (.format queue index handle) .done]) =
          (rest.map (records.map (·.record.pixelFormat) ++ ·), m') := by
      refine ih (by omega) (fun i hi => ?_) ?_
      · have hreply := hrecords (i + 1) (Nat.succ_lt_succ hi)
        rwa [← Nat.add_assoc, Nat.add_right_comm] at hreply
      · rw [Machine.extend_extend, Nat.add_right_comm, Nat.add_assoc, ← hrest]
        rfl
    have hfirst : formatReply (m.node handle) queue index = .ok r := hrecords 0 (Nat.succ_pos _)
    rw [formatsFrom_next (by omega) hfirst hlater]
    cases rest <;> rfl

/-- The events of an enumeration that comes to the error `e` at index `count`. -/
def enumerationQueries (queue : BufferQueue) (handle count : Nat) (e : Errno) : List Event :=
  (List.range (count + 1)).map fun i =>
    .called (.format queue i handle) (if i < count then .done else .failed e)

theorem enumerationQueries_eq (queue : BufferQueue) (handle count : Nat) (e : Errno) :
    enumerationQueries queue handle count e =
      answeredQueries queue handle 0 count ++
        [.called (.format queue count handle) (.failed e)] := by
  unfold enumerationQueries answeredQueries
  rw [List.range_succ, List.map_append, List.range_eq_range', List.map_singleton,
    if_neg (Nat.lt_irrefl count)]
  congr 1
  refine List.map_congr_left fun i hi => ?_
  rw [if_pos]
  simpa using List.mem_range'.mp hi

/-- An enumeration that comes to an error in time. -/
theorem formatsFrom_until {records : List FormatReply} {e : Errno}
    (hreplies : RepliesUntil (m.node handle) queue records e)
    (hlength : records.length < UInt32.size) :
    (Machine.system.formatsFrom handle queue 0).run m =
      ((listEnd e).map (records.map (·.record.pixelFormat) ++ ·),
        m.extend (enumerationQueries queue handle records.length e)) := by
  refine formatsFrom_append (by omega) (fun i hi => ?_) ?_
  · rw [Nat.zero_add]
    exact hreplies.record_eq i hi
  · rw [Nat.zero_add]
    have hlast := formatsFrom_last
      (m := m.extend (answeredQueries queue handle 0 records.length)) hlength hreplies.end_eq
    rw [hlast, Machine.extend_extend, enumerationQueries_eq]

/-- An enumeration that runs out of indices. -/
theorem formatsFrom_full {records : List FormatReply} (hlength : records.length = UInt32.size)
    (hrecords : ∀ i (h : i < records.length),
      formatReply (m.node handle) queue i = .ok records[i]) :
    (Machine.system.formatsFrom handle queue 0).run m =
      (.error .indexOverflow, m.extend (answeredQueries queue handle 0 records.length)) := by
  have hrest : (Machine.system.formatsFrom handle queue (0 + records.length)).run
      (m.extend (answeredQueries queue handle 0 records.length)) =
        (.error .indexOverflow, m.extend (answeredQueries queue handle 0 records.length)) := by
    rw [System.formatsFrom, if_neg (by omega)]
    rfl
  rw [formatsFrom_append (by omega) (fun i hi => ?_) hrest]
  · rfl
  · rw [Nat.zero_add]
    exact hrecords i hi

end

/-! ## The formats of a queue -/

/-- A video node, open, that offers two formats on its first queue. The second queue breaks off
after one format, which the third offers as well. -/
def Machine.streaming : Machine where
  world :=
    { nodes := [(.ofString "/dev/video0",
        { formats := .ok [(1, [.ok { code := 0x3231564E, description := Utf8.encode "Y/UV 4:2:0" },
            .ok { code := 0x56595559, description := Utf8.encode "YUYV 4:2:2" }]),
          (9, [.ok { code := 0x34363248, flags := 1 }, .error ⟨5⟩]),
          (2, [.ok { code := 0x34363248, flags := 1 }])] })] }
  nextHandle := 1
  handles := [(0, .ofString "/dev/video0")]

theorem repliesUntil_streaming :
    RepliesUntil (Machine.streaming.node 0) .videoCapture
      [{ code := 0x3231564E, description := Utf8.encode "Y/UV 4:2:0" },
        { code := 0x56595559, description := Utf8.encode "YUYV 4:2:2" }] .invalidArgument where
  record_eq
    | 0, _ => rfl
    | 1, _ => rfl
  end_eq := rfl

theorem formats_run {video : VideoDevice Nat} {queue : BufferQueue} {m m' : Machine}
    {listed : Except ListingFailure (List PixelFormat)}
    (h : (Machine.system.formatsFrom video.fd queue 0).run m = (listed, m')) :
    (formats video queue).run m = (listed.mapError (.formatQueryFailed video.path), m') := by
  unfold formats System.formats
  rw [run_bind_of_eq h]
  cases listed <;> rfl

/-- If the replies of a queue come to an error at an index that is a word, the enumeration puts
one query for each index up to the first error, in order, and stops. If that error ends the list,
it gives the formats that the replies describe; otherwise it fails, and gives no format. -/
theorem formats_enumerates (video : VideoDevice Nat) (queue : BufferQueue) {m : Machine}
    (hends : ∃ length < 2 ^ 32 - 1, ∃ e,
      formatReply (m.node video.fd) queue length = .error e) :
    ∃ (records : List FormatReply) (e : Errno),
      RepliesUntil (m.node video.fd) queue records e ∧
      ((formats video queue).run m).2 =
        m.extend (enumerationQueries queue video.fd records.length e) ∧
      (e = .invalidArgument → ∃ fs, ((formats video queue).run m).1 = .ok fs ∧
        List.Forall₂ FormatReply.Describes records fs) ∧
      (e ≠ .invalidArgument →
        ((formats video queue).run m).1 = .error (.formatQueryFailed video.path (.os e))) := by
  obtain ⟨length, hlength, _, herror⟩ := hends
  obtain ⟨records, e, hle, hreplies⟩ := exists_repliesUntil_le herror
  have hsize : records.length < UInt32.size := by
    have : UInt32.size = 2 ^ 32 := rfl
    omega
  have hrun := formats_run (formatsFrom_until hreplies hsize)
  refine ⟨records, e, hreplies, congrArg Prod.snd hrun, fun he => ?_, fun he => ?_⟩
  · subst he
    refine ⟨records.map (·.record.pixelFormat), ?_, ?_⟩
    · rw [hrun, listEnd, if_pos rfl, Except.map, List.append_nil]
      rfl
    · rw [List.forall₂_map_right_iff]
      exact List.forall₂_same.mpr fun r _ => describes_pixelFormat r
  · rw [hrun, listEnd, if_neg he]
    rfl

/-- Each format with the code, the description and the flags of its reply. -/
theorem formats_enumerates_streaming :
    (∃ length < 2 ^ 32 - 1, ∃ e,
      formatReply (Machine.streaming.node 0) .videoCapture length = .error e) ∧
    ((formats ⟨.ofString "/dev/video0", 0, {}⟩ .videoCapture).run .streaming).2 =
      Machine.streaming.extend
        [.called (.format .videoCapture 0 0) .done, .called (.format .videoCapture 1 0) .done,
          .called (.format .videoCapture 2 0) (.failed .invalidArgument)] ∧
    ((formats ⟨.ofString "/dev/video0", 0, {}⟩ .videoCapture).run .streaming).1 =
      .ok [⟨⟨0x4E, 0x56, 0x31, 0x32⟩, "Y/UV 4:2:0", 0⟩, ⟨⟨0x59, 0x55, 0x59, 0x56⟩, "YUYV 4:2:2", 0⟩]
    := by
  have hends : ∃ length < 2 ^ 32 - 1, ∃ e,
      formatReply (Machine.streaming.node 0) .videoCapture length = .error e :=
    ⟨2, by decide, _, rfl⟩
  obtain ⟨records, e, hreplies, hqueries, hlisted, -⟩ :=
    formats_enumerates ⟨.ofString "/dev/video0", 0, {}⟩ .videoCapture hends
  obtain ⟨rfl, rfl⟩ := repliesUntil_streaming.unique hreplies
  obtain ⟨fs, hfs, hdescribed⟩ := hlisted rfl
  have hplanar : TextFits 32 "Y/UV 4:2:0" :=
    ⟨by decide, by decide, fun c h => by cases h; rfl, fun c h => by cases h; rfl⟩
  have hpacked : TextFits 32 "YUYV 4:2:2" :=
    ⟨by decide, by decide, fun c h => by cases h; rfl, fun c h => by cases h; rfl⟩
  refine ⟨hends, hqueries, ?_⟩
  rw [hfs, eq_of_describes hdescribed, List.map_cons, List.map_cons, List.map_nil,
    pixelFormat_of_fits hplanar, pixelFormat_of_fits hpacked]
  rfl

/-! ## Queues that offer a code -/

/-- The queue can be enumerated: its replies come to the end of the list, and its formats are those
that they describe. -/
inductive QueueOffers (node : Except Errno Node) (queue : BufferQueue) : List PixelFormat → Prop
  | ended {records : List FormatReply} (hlength : records.length < UInt32.size)
      (hreplies : RepliesUntil node queue records .invalidArgument) :
      QueueOffers node queue (records.map (·.record.pixelFormat))

/-- A queue offers one list of formats. -/
theorem QueueOffers.unique {node : Except Errno Node} {queue : BufferQueue}
    {fs fs' : List PixelFormat} (h : QueueOffers node queue fs) (h' : QueueOffers node queue fs') :
    fs = fs' := by
  obtain ⟨-, hreplies⟩ := h
  obtain ⟨-, hreplies'⟩ := h'
  rw [(hreplies.unique hreplies').1]

/-- The queue cannot be enumerated: after some replies there is an error that is not the end of
the list. -/
structure QueueFails (node : Except Errno Node) (queue : BufferQueue) (e : Errno) : Prop where
  ne_invalidArgument : e ≠ .invalidArgument
  failed : ∃ records, records.length < UInt32.size ∧ RepliesUntil node queue records e

/-- The queue cannot be enumerated: there is a record at every index that a word can hold. -/
def QueueOverflows (node : Except Errno Node) (queue : BufferQueue) : Prop :=
  ∃ records : List FormatReply, records.length = UInt32.size ∧
    ∀ index (h : index < records.length), formatReply node queue index = .ok records[index]

/-- The queue can be enumerated, and `fourcc` is not among its formats. -/
def QueueLacks (node : Except Errno Node) (queue : BufferQueue) (fourcc : FourCc) : Prop :=
  ∃ fs, QueueOffers node queue fs ∧ ∀ f ∈ fs, f.fourcc ≠ fourcc

/-- The event is a query for a format of `queue`, put through `handle`. -/
def Event.AsksFormat (queue : BufferQueue) (handle : Nat) (e : Event) : Prop :=
  ∃ index outcome, e = .called (.format queue index handle) outcome

section

variable {video : VideoDevice Nat} {queue : BufferQueue} {m : Machine} {fourcc : FourCc}

theorem offers_or_not (node : Except Errno Node) (queue : BufferQueue) :
    (∃ fs, QueueOffers node queue fs) ∨ (∃ e, QueueFails node queue e) ∨
      QueueOverflows node queue := by
  obtain ⟨records, e, hreplies⟩ := exists_repliesUntil node queue
  by_cases hlength : records.length < UInt32.size
  · by_cases he : e = .invalidArgument
    · subst he
      exact .inl ⟨_, .ended hlength hreplies⟩
    · exact .inr (.inl ⟨e, he, records, hlength, hreplies⟩)
  · refine .inr (.inr ⟨records.take UInt32.size, ?_, fun i hi => ?_⟩)
    · rw [List.length_take]
      omega
    · rw [List.length_take] at hi
      rw [List.getElem_take]
      exact hreplies.record_eq i (by omega)

theorem asksFormat_of_mem {handle : Nat} {indices : List Nat} {outcome : Nat → Outcome}
    {e : Event} (he : e ∈ indices.map fun i => .called (.format queue i handle) (outcome i)) :
    e.AsksFormat queue handle := by
  obtain ⟨i, -, rfl⟩ := List.mem_map.mp he
  exact ⟨i, outcome i, rfl⟩

theorem formats_of_offers {fs : List PixelFormat} (h : QueueOffers (m.node video.fd) queue fs) :
    Answers (formats video queue) m (Event.AsksFormat queue video.fd) (.ok fs) := by
  obtain ⟨hlength, hreplies⟩ := h
  have hrun := formats_run (formatsFrom_until hreplies hlength)
  rw [listEnd, if_pos rfl, Except.map, List.append_nil] at hrun
  exact ⟨_, fun _ => asksFormat_of_mem, hrun⟩

theorem formats_of_fails {e : Errno} (h : QueueFails (m.node video.fd) queue e) :
    Answers (formats video queue) m (Event.AsksFormat queue video.fd)
      (.error (.formatQueryFailed video.path (.os e))) := by
  obtain ⟨records, hlength, hreplies⟩ := h.failed
  have hrun := formats_run (formatsFrom_until hreplies hlength)
  rw [listEnd, if_neg h.ne_invalidArgument] at hrun
  exact ⟨_, fun _ => asksFormat_of_mem, hrun⟩

theorem formats_of_overflows (h : QueueOverflows (m.node video.fd) queue) :
    Answers (formats video queue) m (Event.AsksFormat queue video.fd)
      (.error (.formatQueryFailed video.path .indexOverflow)) := by
  obtain ⟨records, hlength, hrecords⟩ := h
  exact ⟨_, fun _ => asksFormat_of_mem, formats_run (formatsFrom_full hlength hrecords)⟩

/-- A queue that offers nothing gives no formats. -/
theorem formats_of_not_offers (h : ¬∃ fs, QueueOffers (m.node video.fd) queue fs) :
    ∃ e, Answers (formats video queue) m (Event.AsksFormat queue video.fd) (.error e) := by
  rcases offers_or_not (m.node video.fd) queue with hoffers | ⟨e, hfails⟩ | hoverflows
  · exact absurd hoffers h
  · exact ⟨_, formats_of_fails hfails⟩
  · exact ⟨_, formats_of_overflows hoverflows⟩

/-- What a queue is found to offer is what it offers. -/
theorem offers_of_formats {fs : List PixelFormat} (h : ((formats video queue).run m).1 = .ok fs) :
    QueueOffers (m.node video.fd) queue fs := by
  by_cases hoffers : ∃ fs', QueueOffers (m.node video.fd) queue fs'
  · obtain ⟨fs', hoffers⟩ := hoffers
    rw [(formats_of_offers hoffers).fst_run] at h
    cases h
    exact hoffers
  · obtain ⟨e, hfailed⟩ := formats_of_not_offers hoffers
    rw [hfailed.fst_run] at h
    cases h

theorem any_fourcc_iff {fs : List PixelFormat} :
    fs.any (·.fourcc == fourcc) = true ↔ ∃ f ∈ fs, f.fourcc = fourcc := by
  rw [List.any_eq_true]
  exact exists_congr fun f => and_congr_right fun _ => beq_iff_eq

/-- Queues without the code do not decide. -/
theorem anyOffers_of_lacks {P : Event → Prop} {before rest : List BufferQueue}
    {answer : Except PairingError Bool}
    (hlacks : ∀ q ∈ before, QueueLacks (m.node video.fd) q fourcc)
    (hP : ∀ q ∈ before, ∀ e, e.AsksFormat q video.fd → P e)
    (hrest : ∀ es, Answers (Machine.system.anyOffers video fourcc rest) (m.extend es) P answer) :
    Answers (Machine.system.anyOffers video fourcc (before ++ rest)) m P answer := by
  induction before generalizing m with
  | nil => simpa [Machine.extend] using hrest []
  | cons q before ih =>
    obtain ⟨fs, hoffers, hnone⟩ := hlacks q List.mem_cons_self
    rw [List.cons_append, System.anyOffers]
    refine ((formats_of_offers hoffers).mono (hP q List.mem_cons_self)).bind fun es => ?_
    have hunlisted : ¬∃ f ∈ fs, f.fourcc = fourcc := by
      rintro ⟨f, hf, hcode⟩
      exact hnone f hf hcode
    dsimp only
    rw [if_neg (any_fourcc_iff.not.mpr hunlisted)]
    refine ih (fun q' hq' => hlacks q' (List.mem_cons_of_mem q hq'))
      (fun q' hq' => hP q' (List.mem_cons_of_mem q hq')) fun es' => ?_
    rw [Machine.extend_extend]
    exact hrest _

/-- A queue that gives no formats decides. -/
theorem anyOffers_of_error {e : PairingError}
    (h : Answers (formats video queue) m (Event.AsksFormat queue video.fd) (.error e))
    (after : List BufferQueue) :
    Answers (Machine.system.anyOffers video fourcc (queue :: after)) m
      (Event.AsksFormat queue video.fd) (.error e) := by
  rw [System.anyOffers]
  exact h.bind fun es => answers_pure _ _ _

/-- A queue that lists the code decides. -/
theorem anyOffers_of_offers {fs : List PixelFormat} (h : QueueOffers (m.node video.fd) queue fs)
    (hlisted : ∃ f ∈ fs, f.fourcc = fourcc) (after : List BufferQueue) :
    Answers (Machine.system.anyOffers video fourcc (queue :: after)) m
      (Event.AsksFormat queue video.fd)
      (.ok true) := by
  rw [System.anyOffers]
  refine (formats_of_offers h).bind fun es => ?_
  dsimp only
  rw [if_pos (any_fourcc_iff.mpr hlisted)]
  exact answers_pure _ _ _

theorem lacks_of_anyOffers {queues : List BufferQueue}
    (h : ((Machine.system.anyOffers video fourcc queues).run m).1 = .ok false) :
    ∀ q ∈ queues, QueueLacks (m.node video.fd) q fourcc := by
  induction queues generalizing m with
  | nil => exact fun q hq => absurd hq List.not_mem_nil
  | cons queue rest ih =>
    by_cases hoffers : ∃ fs, QueueOffers (m.node video.fd) queue fs
    · obtain ⟨fs, hoffers⟩ := hoffers
      by_cases hlisted : ∃ f ∈ fs, f.fourcc = fourcc
      · rw [(anyOffers_of_offers hoffers hlisted rest).fst_run] at h
        cases h
      · obtain ⟨es, -, hrun⟩ := formats_of_offers hoffers
        rw [System.anyOffers, run_bind_of_eq hrun] at h
        dsimp only at h
        rw [if_neg (any_fourcc_iff.not.mpr hlisted)] at h
        intro q hq
        rcases List.mem_cons.mp hq with rfl | hq
        · exact ⟨fs, hoffers, fun f hf hcode => hlisted ⟨f, hf, hcode⟩⟩
        · exact ih h q hq
    · obtain ⟨e, hfailed⟩ := formats_of_not_offers hoffers
      rw [(anyOffers_of_error hfailed rest).fst_run] at h
      cases h

end

/-- The queues are asked in the order of their numbers 1, 9, 2, 10. The first one that cannot be
enumerated, or that lists the code, decides whether the code is offered, and no later one is
asked: if the queue fails, so does the answer, whatever it has listed before, and likewise if it
has no end. The answer is no exactly if all four can be enumerated and none lists the code. -/
theorem supportsFormat_first_decides (video : VideoDevice Nat) (fourcc : FourCc) (m : Machine) :
    BufferQueue.all.map BufferQueue.raw = [1, 9, 2, 10] ∧
    (∀ (before : List BufferQueue) (queue : BufferQueue) (after : List BufferQueue),
      BufferQueue.all = before ++ queue :: after →
      (∀ q ∈ before, QueueLacks (m.node video.fd) q fourcc) →
      (∀ e, QueueFails (m.node video.fd) queue e →
        Answers (supportsFormat video fourcc) m
          (fun event => ∃ q ∉ after, event.AsksFormat q video.fd)
          (.error (.formatQueryFailed video.path (.os e)))) ∧
      (QueueOverflows (m.node video.fd) queue →
        Answers (supportsFormat video fourcc) m
          (fun event => ∃ q ∉ after, event.AsksFormat q video.fd)
          (.error (.formatQueryFailed video.path .indexOverflow))) ∧
      ∀ fs, QueueOffers (m.node video.fd) queue fs → (∃ f ∈ fs, f.fourcc = fourcc) →
        Answers (supportsFormat video fourcc) m
          (fun event => ∃ q ∉ after, event.AsksFormat q video.fd) (.ok true)) ∧
    (((supportsFormat video fourcc).run m).1 = .ok false ↔
      ∀ queue ∈ BufferQueue.all, QueueLacks (m.node video.fd) queue fourcc) := by
  refine ⟨rfl, fun before queue after hall hbefore => ?_, fun hfalse => ?_, fun hlacks => ?_⟩
  · -- no queue is asked twice
    have hasked : ∀ q ∈ before ++ [queue], q ∉ after := by
      have hnodup : BufferQueue.all.Nodup := by decide
      rw [hall, List.append_cons, List.nodup_append] at hnodup
      exact fun q hq hafter => hnodup.2.2 q hq q hafter rfl
    have hdecided : ∀ answer,
      (∀ es, Answers (Machine.system.anyOffers video fourcc (queue :: after))
        (m.extend es) (Event.AsksFormat queue video.fd) answer) →
        Answers (supportsFormat video fourcc) m
          (fun event => ∃ q ∉ after, event.AsksFormat q video.fd) answer := by
      intro answer hanswer
      rw [supportsFormat, System.supportsFormat, hall]
      refine anyOffers_of_lacks hbefore
        (fun q hq event hevent => ⟨q, hasked q (List.mem_append_left _ hq), hevent⟩) fun es => ?_
      exact (hanswer es).mono fun event hevent =>
        ⟨queue, hasked queue (List.mem_append_right _ List.mem_cons_self), hevent⟩
    refine ⟨?_, ?_, ?_⟩
    · intro e hfails
      exact hdecided _ fun es =>
        anyOffers_of_error (m := m.extend es) (formats_of_fails hfails) after
    · intro hoverflows
      exact hdecided _ fun es =>
        anyOffers_of_error (m := m.extend es) (formats_of_overflows hoverflows) after
    · intro fs hoffers hlisted
      exact hdecided _ fun es => anyOffers_of_offers (m := m.extend es) hoffers hlisted after
  · exact lacks_of_anyOffers hfalse
  · have hanswers : Answers (Machine.system.anyOffers video fourcc (BufferQueue.all ++ [])) m
        (fun _ => True)
        (.ok false) :=
      anyOffers_of_lacks hlacks (fun _ _ _ _ => trivial) fun es => answers_pure _ _ _
    rw [List.append_nil] at hanswers
    exact hanswers.fst_run

/-- A queue that breaks off after it has listed the code is a failure, though a later queue offers
the code as well. -/
theorem supportsFormat_first_decides_streaming :
    Answers (supportsFormat ⟨.ofString "/dev/video0", 0, {}⟩ (.ofWord 0x34363248)) .streaming
      (fun event => ∃ q ∉ [BufferQueue.videoOutput, .videoOutputMplane], event.AsksFormat q 0)
      (.error (.formatQueryFailed (.ofString "/dev/video0") (.os ⟨5⟩))) := by
  have hfirst : QueueLacks (Machine.streaming.node 0) .videoCapture (.ofWord 0x34363248) :=
    ⟨_, .ended (by decide) repliesUntil_streaming, by decide⟩
  have hsecond : QueueFails (Machine.streaming.node 0) .videoCaptureMplane ⟨5⟩ :=
    ⟨by decide, [{ code := 0x34363248, flags := 1 }], by decide, fun | 0, _ => rfl, rfl⟩
  have hdecides := (supportsFormat_first_decides ⟨.ofString "/dev/video0", 0, {}⟩
    (.ofWord 0x34363248) .streaming).2.1 [.videoCapture] .videoCaptureMplane
      [.videoOutput, .videoOutputMplane] rfl fun q hq => List.mem_singleton.mp hq ▸ hfirst
  exact hdecides.1 ⟨5⟩ hsecond

end MediaPairing
