import MediaPairing.DeviceNumber
import MediaPairing.KernelRecord
import MediaPairing.Proofs.Text.Blank

/-!
# What a record keeps

A text passes through a field of a fixed size, and a device number through its packed form.
Some texts come out as they went in; every device number does.

* `DeviceNumber.unpack_pack`: the packed form, bit by bit.
* `FitsField size bs`: what a text must be like to pass a field of `size` bytes.
* `text_ofBytes`: such a text passes it.
-/

namespace MediaPairing

/-! ## Device numbers -/

namespace DeviceNumber

theorem testBit_mask (low high i : Nat) :
    (((1 <<< high) - 1) <<< low).testBit i = decide (low ≤ i ∧ i < low + high) := by
  rw [Nat.testBit_shiftLeft, Nat.one_shiftLeft, Nat.testBit_two_pow_sub_one, Bool.eq_iff_iff]
  simp only [Bool.and_eq_true, decide_eq_true_eq]
  omega

theorem testBit_eq_false (w : UInt32) {i : Nat} (hi : 32 ≤ i) : w.toNat.testBit i = false := by
  have hlt : w.toNat < 2 ^ 32 := w.toNat_lt
  exact Nat.testBit_lt_two_pow (Nat.lt_of_lt_of_le hlt (Nat.pow_le_pow_right (by decide) hi))

/-! The masks of the packed form. -/

theorem testBit_highTwenty (i : Nat) : Nat.testBit 0xFFFFF000 i = decide (12 ≤ i ∧ i < 32) :=
  testBit_mask 12 20 i

theorem testBit_lowTwelve (i : Nat) : Nat.testBit 0xFFF i = decide (0 ≤ i ∧ i < 0 + 12) :=
  testBit_mask 0 12 i

theorem testBit_highTwentyFour (i : Nat) :
    Nat.testBit 0xFFFFFF00 i = decide (8 ≤ i ∧ i < 32) := testBit_mask 8 24 i

theorem testBit_lowEight (i : Nat) : Nat.testBit 0xFF i = decide (0 ≤ i ∧ i < 0 + 8) :=
  testBit_mask 0 8 i

/-- Where the bits of the packed word come from. -/
theorem testBit_pack (d : DeviceNumber) {i : Nat} (hi : i < 64) :
    d.pack.toNat.testBit i =
      if i < 8 then d.minor.toNat.testBit i
      else if i < 20 then d.major.toNat.testBit (i - 8)
      else if i < 44 then d.minor.toNat.testBit (i - 12)
      else d.major.toNat.testBit (i - 32) := by
  unfold pack
  simp only [UInt64.toNat_or, UInt64.toNat_and, UInt64.toNat_shiftLeft, UInt32.toNat_toUInt64,
    UInt64.reduceToNat, Nat.reduceMod, Nat.testBit_or, Nat.testBit_and,
    Nat.testBit_mod_two_pow, Nat.testBit_shiftLeft, testBit_highTwenty, testBit_lowTwelve,
    testBit_highTwentyFour, testBit_lowEight]
  grind

theorem testBit_majorBits (w : UInt64) {i : Nat} (hi : i < 32) :
    (majorBits w).toNat.testBit i =
      if i < 12 then w.toNat.testBit (i + 8) else w.toNat.testBit (i + 32) := by
  unfold majorBits
  simp only [UInt64.toNat_or, UInt64.toNat_and, UInt64.toNat_shiftRight, UInt64.reduceToNat,
    Nat.reduceMod, Nat.testBit_or, Nat.testBit_and, Nat.testBit_shiftRight, testBit_highTwenty,
    testBit_lowTwelve]
  grind

theorem testBit_minorBits (w : UInt64) {i : Nat} (hi : i < 32) :
    (minorBits w).toNat.testBit i =
      if i < 8 then w.toNat.testBit i else w.toNat.testBit (i + 12) := by
  unfold minorBits
  simp only [UInt64.toNat_or, UInt64.toNat_and, UInt64.toNat_shiftRight, UInt64.reduceToNat,
    Nat.reduceMod, Nat.testBit_or, Nat.testBit_and, Nat.testBit_shiftRight,
    testBit_highTwentyFour, testBit_lowEight]
  grind

/-- Words are equal if their low bits are. -/
theorem toUInt32_eq {w : UInt64} {v : UInt32}
    (h : ∀ i < 32, w.toNat.testBit i = v.toNat.testBit i) : w.toUInt32 = v := by
  refine UInt32.toNat_inj.mp (Nat.eq_of_testBit_eq fun i => ?_)
  rw [UInt64.toNat_toUInt32, Nat.testBit_mod_two_pow]
  by_cases hi : i < 32
  · rw [decide_eq_true hi, Bool.true_and, h i hi]
  · rw [decide_eq_false hi, Bool.false_and, testBit_eq_false v (Nat.le_of_not_lt hi)]

theorem unpack_pack (d : DeviceNumber) : unpack d.pack = d := by
  have hmajor : (majorBits d.pack).toUInt32 = d.major := by
    refine toUInt32_eq fun i hi => ?_
    rw [testBit_majorBits _ hi, testBit_pack d (by omega), testBit_pack d (by omega)]
    grind
  have hminor : (minorBits d.pack).toUInt32 = d.minor := by
    refine toUInt32_eq fun i hi => ?_
    rw [testBit_minorBits _ hi, testBit_pack d (by omega), testBit_pack d (by omega)]
    grind
  unfold unpack
  rw [hmajor, hminor]

end DeviceNumber

/-! ## Texts -/

/-- The bytes are a well-formed text without NUL that is not longer than `size`, and that has no
blank at its ends. -/
structure FitsField (size : Nat) (bs : Bytes) : Prop where
  nul_not_mem : 0 ∉ bs
  length_le : bs.length ≤ size
  wellFormed : ∃ text, Utf8.decode? bs = some text ∧
    (∀ c, text.toList.head? = some c → isBlank c = false) ∧
    ∀ c, text.toList.getLast? = some c → isBlank c = false

section

variable {size : Nat} {bs : Bytes}

theorem beforeNul_append (h : 0 ∉ bs) (count : Nat) :
    beforeNul (bs ++ List.replicate count 0) = bs := by
  unfold beforeNul
  have hbs : ∀ b ∈ bs, (b != 0) = true := by
    intro b hb
    rw [bne_iff_ne]
    rintro rfl
    exact h hb
  rw [List.takeWhile_append_of_pos hbs, List.takeWhile_replicate]
  exact List.append_nil bs

theorem bytes_ofBytes (h : bs.length ≤ size) :
    (FixedText.ofBytes size bs).bytes = bs ++ List.replicate (size - bs.length) 0 := by
  unfold FixedText.ofBytes
  dsimp only
  rw [List.take_append, List.take_of_length_le h, List.take_replicate]
  congr 2
  omega

/-- A reading without gaps shows no replacement characters. -/
theorem getD_of_gapless {ps : List (Option Char)} {cs : List Char}
    (h : Utf8.gapless ps = some cs) : ps.map (·.getD '\uFFFD') = cs := by
  induction ps generalizing cs with
  | nil =>
    cases h
    rfl
  | cons p rest ih =>
    cases p with
    | none => cases h
    | some c =>
      obtain ⟨cs', hrest, rfl⟩ := Option.map_eq_some_iff.mp h
      rw [List.map_cons, ih hrest]
      rfl

theorem decodeLossy_of_decode? {text : String} (h : Utf8.decode? bs = some text) :
    Utf8.decodeLossy bs = text := by
  obtain ⟨cs, hcs, rfl⟩ := Option.map_eq_some_iff.mp h
  unfold Utf8.decodeLossy
  rw [getD_of_gapless hcs]

/-- A text that fits its field is read as it was written. -/
theorem text_ofBytes (h : FitsField size bs) :
    (FixedText.ofBytes size bs).text = Utf8.decodeLossy bs := by
  obtain ⟨text, hdecode, hhead, hlast⟩ := h.wellFormed
  unfold FixedText.text paddedText
  rw [bytes_ofBytes h.length_le, beforeNul_append h.nul_not_mem, decodeLossy_of_decode? hdecode,
    trim_eq_self hhead hlast, String.ofList_toList]

end

end MediaPairing
