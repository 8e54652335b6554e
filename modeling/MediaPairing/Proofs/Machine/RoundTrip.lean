import MediaPairing.Proofs.Machine.Backend
import MediaPairing.Proofs.Machine.Record
import MediaPairing.Proofs.Text.Encoding

/-!
# Records that come back as they were written

What a device says of itself is written into a record with padded fields and read from it again.
A record whose texts fit their fields comes back equal, also where a text fills its field and
leaves no room for a NUL.

* `TextFits size s`: the text `s` can be had back from a field of `size` bytes.
* `Capability.Fits`, `MediaInfo.Fits`: all texts of a value fit their fields.
* `kernel_reads_back`: the two queries give back what the device has put into the record.
-/

namespace MediaPairing

/-! ## Texts -/

/-- A text without NUL and without blanks at its ends, whose bytes are no more than `size`. -/
structure TextFits (size : Nat) (s : String) : Prop where
  nul_not_mem : '\x00' ∉ s.toList
  length_le : (Utf8.encode s).length ≤ size
  head_not_blank : ∀ c, s.toList.head? = some c → isBlank c = false
  last_not_blank : ∀ c, s.toList.getLast? = some c → isBlank c = false

namespace TextFits

variable {size : Nat} {s : String}

theorem fitsField (h : TextFits size s) : FitsField size (Utf8.encode s) where
  nul_not_mem := fun hzero => h.nul_not_mem (Utf8.zero_mem_encode hzero)
  length_le := h.length_le
  wellFormed := ⟨s, Utf8.decode?_encode s, h.head_not_blank, h.last_not_blank⟩

/-- A text that fits is read from its field as it was. -/
theorem text_ofBytes_encode (h : TextFits size s) :
    (FixedText.ofBytes size (Utf8.encode s)).text = s := by
  rw [text_ofBytes h.fitsField, decodeLossy_of_decode? (Utf8.decode?_encode s)]

end TextFits

/-! ## Records -/

/-- The texts of the capabilities fit the fields of the record. -/
structure Capability.Fits (c : Capability) : Prop where
  driver : TextFits 16 c.driver
  card : TextFits 32 c.card
  busInfo : TextFits 32 c.busInfo

/-- The texts of the description fit the fields of the record. -/
structure MediaInfo.Fits (i : MediaInfo) : Prop where
  driver : TextFits 16 i.driver
  model : TextFits 32 i.model
  serial : TextFits 40 i.serial
  busInfo : TextFits 32 i.busInfo

theorem capability_record_ofCapability {c : Capability} (h : c.Fits) :
    (CapabilityReply.ofCapability c).record.capability = c := by
  unfold CapabilityReply.ofCapability CapabilityReply.record CapabilityRecord.capability
  rw [h.driver.text_ofBytes_encode, h.card.text_ofBytes_encode, h.busInfo.text_ofBytes_encode]

theorem mediaInfo_record_ofMediaInfo {i : MediaInfo} (h : i.Fits) :
    (MediaInfoReply.ofMediaInfo i).record.mediaInfo = i := by
  unfold MediaInfoReply.ofMediaInfo MediaInfoReply.record MediaInfoRecord.mediaInfo
  rw [h.driver.text_ofBytes_encode, h.model.text_ofBytes_encode, h.serial.text_ofBytes_encode,
    h.busInfo.text_ofBytes_encode]

/-! ## Queries -/

/-- A camera whose driver and card fill their fields, with a character of several bytes at the
end. -/
def Capability.webcam : Capability where
  driver := "uvcvideo-usb-3é"
  card := "USB 3.0 webcam with mic 720p €"
  busInfo := "usb-0000:00:14.0-1"
  version := 0xFFFFFFFF
  capabilities := 0x84A00001
  deviceCaps := 0x04200001

def MediaInfo.webcam : MediaInfo where
  driver := "uvcvideo-usb-3é"
  model := "USB  webcam"
  serial := ""
  busInfo := "1"
  mediaVersion := 0x00060100
  hwRevision := 16
  driverVersion := 0xFFFFFFFF

/-- A machine with one node, that is open and answers both queries. -/
def Machine.labelled (c : Capability) (i : MediaInfo) : Machine where
  world :=
    { nodes := [(.ofString "/dev/video0",
        { capability := .ok (.ofCapability c), mediaInfo := .ok (.ofMediaInfo i) })] }
  nextHandle := 1
  handles := [(0, .ofString "/dev/video0")]

theorem textFits_nil (size : Nat) : TextFits size "" where
  nul_not_mem := by decide
  length_le := Nat.zero_le size
  head_not_blank := fun _ h => by cases h
  last_not_blank := fun _ h => by cases h

theorem fits_webcam : Capability.webcam.Fits ∧ MediaInfo.webcam.Fits := by
  have hdriver : TextFits 16 "uvcvideo-usb-3é" :=
    ⟨by decide, by decide, fun c h => by cases h; rfl, fun c h => by cases h; rfl⟩
  refine ⟨⟨hdriver, ?_, ?_⟩, ⟨hdriver, ?_, textFits_nil 40, ?_⟩⟩
  all_goals exact ⟨by decide, by decide, fun c h => by cases h; rfl, fun c h => by cases h; rfl⟩

/-- A device that puts a value whose texts fit into the record of a query is understood: the
query gives that value, field by field. -/
theorem kernel_reads_back {m : Machine} {handle : Nat} {n : Node} (hnode : m.node handle = .ok n) :
    (∀ c : Capability, c.Fits → n.capability = .ok (.ofCapability c) →
      (Machine.kernel.capability handle).run m =
        (.ok c, m.extend [.called (.capability handle) .done])) ∧
    ∀ i : MediaInfo, i.Fits → n.mediaInfo = .ok (.ofMediaInfo i) →
      (Machine.kernel.mediaInfo handle).run m =
        (.ok i, m.extend [.called (.mediaInfo handle) .done]) := by
  refine ⟨fun c hc hreply => ?_, fun i hi hreply => ?_⟩
  · have hread : Backend.kernel.capability n = .ok c := by
      rw [Backend.capability, hreply]
      exact congrArg Except.ok (capability_record_ofCapability hc)
    have hasked := Backend.asks_capability .kernel handle m
    rw [hnode] at hasked
    simp only [Except.bind, hread] at hasked
    exact hasked
  · have hread : Backend.kernel.mediaInfo n = .ok i := by
      rw [Backend.mediaInfo, hreply]
      exact congrArg Except.ok (mediaInfo_record_ofMediaInfo hi)
    have hasked := Backend.asks_mediaInfo .kernel handle m
    rw [hnode] at hasked
    simp only [Except.bind, hread] at hasked
    exact hasked

theorem kernel_reads_back_webcam :
    (Utf8.encode Capability.webcam.driver).length = 16 ∧
    (Utf8.encode Capability.webcam.card).length = 32 ∧
    ((Machine.kernel.capability 0).run (.labelled .webcam .webcam)).1 = .ok .webcam ∧
    ((Machine.kernel.mediaInfo 0).run (.labelled .webcam .webcam)).1 = .ok .webcam := by
  obtain ⟨hcapability, hmediaInfo⟩ := fits_webcam
  have hnode : (Machine.labelled .webcam .webcam).node 0 =
      .ok { capability := .ok (.ofCapability .webcam), mediaInfo := .ok (.ofMediaInfo .webcam) } :=
    rfl
  have hread := kernel_reads_back hnode
  refine ⟨by decide, by decide, ?_, ?_⟩
  · rw [hread.1 .webcam hcapability rfl]
  · rw [hread.2 .webcam hmediaInfo rfl]

end MediaPairing
