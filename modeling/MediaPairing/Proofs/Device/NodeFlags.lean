import Mathlib.Data.Nat.Bitwise
import MediaPairing.Capability

/-!
# Flags of a node

A capability record has a word of flags for the whole physical device, which may have other nodes,
and a word for the node itself. Bit 31 of the first says whether the second is valid. A test of a
record looks at one of the two words, so what the other nodes of the device can do is not seen if
the node has a word of its own.

Some tests ask for all of some flags, others for any of them. Of a single flag both ask the same.

* `Capability.all_flags_iff`, `Capability.any_flag_iff`: the two kinds of tests, bit by bit.
* `Capability.nodeCaps_eq`: the word that is looked at.
* `Capability.SameNode`: records that say the same of their nodes.
* `capability_tests_node`: what the tests see, and how they are connected.
-/

namespace MediaPairing

namespace Capability

/-! ## Tests of a word -/

section

variable {w flags a b : UInt32} {k : Nat}

theorem all_flags_iff :
    w &&& flags = flags ↔ ∀ i, flags.toNat.testBit i = true → w.toNat.testBit i = true := by
  rw [← UInt32.toNat_inj, UInt32.toNat_and]
  constructor
  · intro h i hi
    have hbit : (w.toNat &&& flags.toNat).testBit i = flags.toNat.testBit i := by rw [h]
    rw [Nat.testBit_and, hi, Bool.and_true] at hbit
    exact hbit
  · intro h
    refine Nat.eq_of_testBit_eq fun i => ?_
    rw [Nat.testBit_and]
    cases hi : flags.toNat.testBit i with
    | false => rw [Bool.and_false]
    | true => rw [h i hi, Bool.and_true]

theorem any_flag_iff :
    w &&& flags ≠ 0 ↔ ∃ i, flags.toNat.testBit i = true ∧ w.toNat.testBit i = true := by
  rw [Ne, ← UInt32.toNat_inj, UInt32.toNat_and]
  constructor
  · intro h
    obtain ⟨i, hi⟩ := Nat.exists_testBit_of_ne_zero h
    rw [Nat.testBit_and, Bool.and_eq_true] at hi
    exact ⟨i, hi.2, hi.1⟩
  · rintro ⟨i, hflag, hw⟩ h
    have hbit : (w.toNat &&& flags.toNat).testBit i = false := by
      rw [h]
      exact Nat.zero_testBit i
    rw [Nat.testBit_and, hflag, hw] at hbit
    cases hbit

theorem any_flag_or_iff : w &&& (a ||| b) ≠ 0 ↔ w &&& a ≠ 0 ∨ w &&& b ≠ 0 := by
  simp only [any_flag_iff, UInt32.toNat_or, Nat.testBit_or, Bool.or_eq_true, or_and_right,
    exists_or]

/-! Tests of a single flag look at its bit. -/

theorem all_single_iff (hk : flags.toNat = 2 ^ k) :
    w &&& flags = flags ↔ w.toNat.testBit k = true := by
  simp [all_flags_iff, hk, Nat.testBit_two_pow]

theorem any_single_iff (hk : flags.toNat = 2 ^ k) :
    w &&& flags ≠ 0 ↔ w.toNat.testBit k = true := by
  simp [any_flag_iff, hk, Nat.testBit_two_pow]

end

variable {c c' : Capability}

/-! ## The word of the node -/

theorem nodeCaps_eq (c : Capability) :
    c.nodeCaps = if c.capabilities.toNat.testBit 31 then c.deviceCaps else c.capabilities := by
  have hvalid : (c.capabilities &&& deviceCapsValid != 0) = c.capabilities.toNat.testBit 31 := by
    rw [Bool.eq_iff_iff, bne_iff_ne]
    exact any_single_iff rfl
  unfold nodeCaps
  rw [hvalid]

/-- The records say the same of their nodes: either both have valid words of the nodes, and
these are equal, or neither has one, and the words of the devices are equal. -/
inductive SameNode (c c' : Capability) : Prop
  | own (hc : c.capabilities.toNat.testBit 31 = true)
      (hc' : c'.capabilities.toNat.testBit 31 = true) (h : c.deviceCaps = c'.deviceCaps)
  | whole (hc : c.capabilities.toNat.testBit 31 = false)
      (hc' : c'.capabilities.toNat.testBit 31 = false) (h : c.capabilities = c'.capabilities)

theorem SameNode.nodeCaps_eq (h : c.SameNode c') : c.nodeCaps = c'.nodeCaps := by
  rw [c.nodeCaps_eq, c'.nodeCaps_eq]
  cases h with
  | own hc hc' h => rw [if_pos hc, if_pos hc', h]
  | whole hc hc' h =>
    rw [if_neg (ne_true_of_eq_false hc), if_neg (ne_true_of_eq_false hc'), h]

/-! ## Tests of a record -/

theorem has_iff (c : Capability) (flags : UInt32) :
    c.has flags = true ↔
      ∀ i, flags.toNat.testBit i = true → c.nodeCaps.toNat.testBit i = true :=
  beq_iff_eq.trans all_flags_iff

theorem has_or (c : Capability) (a b : UInt32) :
    c.has (a ||| b) = true ↔ c.has a = true ∧ c.has b = true := by
  simp only [has_iff, UInt32.toNat_or, Nat.testBit_or, Bool.or_eq_true, or_imp, forall_and]

theorem has_zero (c : Capability) : c.has 0 = true := by
  rw [has_iff]
  intro i hi
  simp at hi

/-- Testing for any of two single flags is testing for the one or for the other. -/
theorem any_of_two_iff (c : Capability) {a b : UInt32} {j k : Nat} (ha : a.toNat = 2 ^ j)
    (hb : b.toNat = 2 ^ k) :
    (c.nodeCaps &&& (a ||| b) != 0) = true ↔ c.has a = true ∨ c.has b = true := by
  have hsingle {f : UInt32} {i : Nat} (hf : f.toNat = 2 ^ i) :
      c.nodeCaps &&& f ≠ 0 ↔ c.has f = true := by
    rw [any_single_iff hf, ← all_single_iff hf]
    exact beq_iff_eq.symm
  rw [bne_iff_ne, any_flag_or_iff, hsingle ha, hsingle hb]

theorem isCapture_iff (c : Capability) :
    c.isCapture = true ↔ c.has videoCapture = true ∨ c.has videoCaptureMplane = true :=
  c.any_of_two_iff (j := 0) (k := 12) rfl rfl

theorem isM2m_iff (c : Capability) :
    c.isM2m = true ↔ c.has videoM2m = true ∨ c.has videoM2mMplane = true :=
  c.any_of_two_iff (j := 15) (k := 14) rfl rfl

end Capability

/-- The tests of a record see the bits of one word, the one of the node if bit 31 of the other
says that it is valid, and else the one of the whole device. Records that say the same of their
nodes pass the same tests. A test for all of some flags can be made in parts, and a test for
either kind of queue is made of tests for one kind. -/
theorem capability_tests_node :
    (∀ c c' : Capability, c.SameNode c' → ∀ flags : UInt32,
      c.has flags = c'.has flags ∧ c.isCapture = c'.isCapture ∧ c.isM2m = c'.isM2m) ∧
    ∀ (c : Capability) (a b : UInt32),
      (c.has a = true ↔ ∀ i, a.toNat.testBit i = true →
        (if c.capabilities.toNat.testBit 31 then c.deviceCaps
          else c.capabilities).toNat.testBit i = true) ∧
      (c.has (a ||| b) = true ↔ c.has a = true ∧ c.has b = true) ∧
      c.has 0 = true ∧
      (c.isCapture = true ↔
        c.has Capability.videoCapture = true ∨ c.has Capability.videoCaptureMplane = true) ∧
      (c.isM2m = true ↔
        c.has Capability.videoM2m = true ∨ c.has Capability.videoM2mMplane = true) := by
  constructor
  · intro c c' hsame flags
    have hword : c.nodeCaps = c'.nodeCaps := hsame.nodeCaps_eq
    unfold Capability.has Capability.isCapture Capability.isM2m
    rw [hword]
    exact ⟨rfl, rfl, rfl⟩
  · intro c a b
    refine ⟨?_, c.has_or a b, c.has_zero, c.isCapture_iff, c.isM2m_iff⟩
    rw [← c.nodeCaps_eq]
    exact c.has_iff a

/-- The node of a codec. Other nodes of the device capture video. -/
def Capability.codecInCamera : Capability where
  capabilities := deviceCapsValid ||| videoCapture ||| videoM2m
  deviceCaps := videoM2mMplane ||| streaming

/-- The same node in a device that puts video out. -/
def Capability.codecInDisplay : Capability where
  capabilities := deviceCapsValid ||| videoOutput
  deviceCaps := videoM2mMplane ||| streaming

theorem capability_tests_node_codec :
    Capability.codecInCamera.SameNode .codecInDisplay ∧
      (∀ flags, Capability.codecInCamera.has flags = Capability.codecInDisplay.has flags) ∧
      Capability.codecInDisplay.isCapture = false ∧ Capability.codecInDisplay.isM2m = true := by
  have hsame : Capability.codecInCamera.SameNode .codecInDisplay :=
    .own (by decide) (by decide) rfl
  have htests := capability_tests_node.1 _ _ hsame
  refine ⟨hsame, fun flags => (htests flags).1, ?_, ?_⟩
  · rw [← (htests 0).2.1]
    decide
  · rw [← (htests 0).2.2]
    decide

end MediaPairing
