import MediaPairing.Proofs.Machine.Backend
import MediaPairing.Proofs.Machine.Record

/-!
# The number of a node

The kernel reports the number of a node as one packed word, of which the major and the minor
number are read. Neither of them loses a bit, and together they have all bits of the word, so
nodes are told apart by their numbers as well as by their words.

* `DeviceNumber.major_unpack`, `DeviceNumber.minor_unpack`: both numbers fit 32 bits.
* `DeviceNumber.pack_unpack`: beside `unpack_pack`, the other half of the bijection.
* `deviceNumber_identifies_node`: what that means for the nodes behind open handles.
-/

namespace MediaPairing

namespace DeviceNumber

/-! ## No bit is lost -/

/-- A word without high bits passes through 32 bits as it is. -/
theorem toUInt64_toUInt32 {w : UInt64} (h : w.toNat < UInt32.size) :
    w.toUInt32.toUInt64 = w := by
  refine UInt64.toNat_inj.mp ?_
  rw [UInt32.toNat_toUInt64, UInt64.toNat_toUInt32]
  exact Nat.mod_eq_of_lt h

theorem majorBits_lt (w : UInt64) : (majorBits w).toNat < UInt32.size := by
  unfold majorBits
  rw [UInt64.toNat_or, UInt64.toNat_and, UInt64.toNat_and]
  refine Nat.or_lt_two_pow (n := 32) ?_ ?_
  · exact Nat.and_lt_two_pow _ (by decide)
  · exact Nat.and_lt_two_pow _ (by decide)

theorem minorBits_lt (w : UInt64) : (minorBits w).toNat < UInt32.size := by
  unfold minorBits
  rw [UInt64.toNat_or, UInt64.toNat_and, UInt64.toNat_and]
  refine Nat.or_lt_two_pow (n := 32) ?_ ?_
  · exact Nat.and_lt_two_pow _ (by decide)
  · exact Nat.and_lt_two_pow _ (by decide)

theorem major_unpack (w : UInt64) : (unpack w).major.toUInt64 = majorBits w :=
  toUInt64_toUInt32 (majorBits_lt w)

theorem minor_unpack (w : UInt64) : (unpack w).minor.toUInt64 = minorBits w :=
  toUInt64_toUInt32 (minorBits_lt w)

theorem testBit_major_unpack (w : UInt64) {i : Nat} (hi : i < 32) :
    (unpack w).major.toNat.testBit i =
      if i < 12 then w.toNat.testBit (i + 8) else w.toNat.testBit (i + 32) := by
  rw [← UInt32.toNat_toUInt64, major_unpack, testBit_majorBits w hi]

theorem testBit_minor_unpack (w : UInt64) {i : Nat} (hi : i < 32) :
    (unpack w).minor.toNat.testBit i =
      if i < 8 then w.toNat.testBit i else w.toNat.testBit (i + 12) := by
  rw [← UInt32.toNat_toUInt64, minor_unpack, testBit_minorBits w hi]

/-! ## The word from its numbers -/

/-- Packed words are equal if their 64 bits are. -/
theorem packed_eq {w v : UInt64} (h : ∀ i < 64, w.toNat.testBit i = v.toNat.testBit i) :
    w = v := by
  refine UInt64.toNat_inj.mp (Nat.eq_of_testBit_eq fun i => ?_)
  by_cases hi : i < 64
  · exact h i hi
  · have hhigh (u : UInt64) : u.toNat.testBit i = false :=
      Nat.testBit_lt_two_pow (Nat.lt_of_lt_of_le u.toNat_lt
        (Nat.pow_le_pow_right (by decide) (Nat.le_of_not_lt hi)))
    rw [hhigh w, hhigh v]

theorem pack_unpack (w : UInt64) : (unpack w).pack = w := by
  refine packed_eq fun i hi => ?_
  rw [testBit_pack _ hi]
  -- the four ranges of the packed form, from the low bits of the minor number up
  split
  · rw [testBit_minor_unpack w (by omega), if_pos (by omega)]
  split
  · rw [testBit_major_unpack w (by omega), if_pos (by omega)]
    exact congrArg w.toNat.testBit (by omega)
  split
  · rw [testBit_minor_unpack w (by omega), if_neg (by omega)]
    exact congrArg w.toNat.testBit (by omega)
  · rw [testBit_major_unpack w (by omega), if_neg (by omega)]
    exact congrArg w.toNat.testBit (by omega)

theorem unpack_inj {w v : UInt64} : unpack w = unpack v ↔ w = v := by
  constructor
  · intro h
    rw [← pack_unpack w, h, pack_unpack]
  · exact congrArg unpack

end DeviceNumber

/-! ## Nodes -/

/-- What the kernel's interface answers to the question for the number of an open node. -/
theorem kernel_deviceNumber_run {m : Machine} {handle : Nat} {n : NodeNumber}
    (hn : (m.node handle).bind Node.number = .ok n) :
    ((Machine.kernel.deviceNumber handle).run m).1 = .ok (.unpack n.rdev) := by
  have hnumber : (m.node handle).bind Backend.kernel.number = .ok (.unpack n.rdev) := by
    cases hnode : m.node handle with
    | error e =>
      rw [hnode] at hn
      cases hn
    | ok node =>
      rw [hnode] at hn
      change node.number = .ok n at hn
      change node.number.map (fun r => DeviceNumber.unpack r.rdev) = _
      rw [hn]
      rfl
  rw [← hnumber]
  exact congrArg Prod.fst (Backend.kernel.asks_deviceNumber handle m)

/-- The number that is read of an open node holds every bit of the packed word that the kernel
reports, in a major and a minor number of 32 bits; packing it gives the word back, and a word that
was packed gives back what was packed. So two nodes have the same number if and only if they have
the same word. -/
theorem deviceNumber_identifies_node {m m' : Machine} {handle handle' : Nat} {n n' : NodeNumber}
    (hn : (m.node handle).bind Node.number = .ok n)
    (hn' : (m'.node handle').bind Node.number = .ok n') :
    ∃ d d' : DeviceNumber,
      ((Machine.kernel.deviceNumber handle).run m).1 = .ok d ∧
      ((Machine.kernel.deviceNumber handle').run m').1 = .ok d' ∧
      d.major.toUInt64 =
        ((n.rdev >>> (32 : UInt64)) &&& 0xFFFFF000) ||| ((n.rdev >>> (8 : UInt64)) &&& 0xFFF) ∧
      d.minor.toUInt64 =
        ((n.rdev >>> (12 : UInt64)) &&& 0xFFFFFF00) ||| (n.rdev &&& 0xFF) ∧
      ((d.major.toUInt64 &&& 0xFFFFF000) <<< (32 : UInt64)) |||
          ((d.major.toUInt64 &&& 0xFFF) <<< (8 : UInt64)) |||
          ((d.minor.toUInt64 &&& 0xFFFFFF00) <<< (12 : UInt64)) |||
          (d.minor.toUInt64 &&& 0xFF) = n.rdev ∧
      (∀ major minor : UInt32,
        n.rdev = ((major.toUInt64 &&& 0xFFFFF000) <<< (32 : UInt64)) |||
            ((major.toUInt64 &&& 0xFFF) <<< (8 : UInt64)) |||
            ((minor.toUInt64 &&& 0xFFFFFF00) <<< (12 : UInt64)) |||
            (minor.toUInt64 &&& 0xFF) →
          d = ⟨major, minor⟩) ∧
      (d = d' ↔ n.rdev = n'.rdev) := by
  refine ⟨.unpack n.rdev, .unpack n'.rdev, kernel_deviceNumber_run hn,
    kernel_deviceNumber_run hn', DeviceNumber.major_unpack n.rdev,
    DeviceNumber.minor_unpack n.rdev, DeviceNumber.pack_unpack n.rdev, ?_,
    DeviceNumber.unpack_inj⟩
  intro major minor hpacked
  rw [hpacked]
  exact DeviceNumber.unpack_pack ⟨major, minor⟩

/-- A machine with two open video nodes. The major number of the first has bits in both of its
ranges, and so has the minor number of the second; the low 32 bits of their words are the same. -/
def Machine.farNumbered : Machine where
  world :=
    { nodes := [(.ofString "/dev/video0", { number := .ok (.word 0xABCDE00000123456) }),
        (.ofString "/dev/video1", { number := .ok (.pair ⟨0x234, 0xFED00156⟩) })] }
  nextHandle := 2
  handles := [(0, .ofString "/dev/video0"), (1, .ofString "/dev/video1")]

theorem deviceNumber_identifies_node_farNumbered :
    (Machine.farNumbered.node 0).bind Node.number = .ok (.word 0xABCDE00000123456) ∧
      (Machine.farNumbered.node 1).bind Node.number = .ok (.pair ⟨0x234, 0xFED00156⟩) ∧
      ((Machine.kernel.deviceNumber 0).run .farNumbered).1 = .ok ⟨0xABCDE234, 0x156⟩ ∧
      ((Machine.kernel.deviceNumber 1).run .farNumbered).1 ≠ .ok ⟨0xABCDE234, 0x156⟩ := by
  have hfirst : (Machine.farNumbered.node 0).bind Node.number =
      .ok (.word 0xABCDE00000123456) := rfl
  have hsecond : (Machine.farNumbered.node 1).bind Node.number =
      .ok (.pair ⟨0x234, 0xFED00156⟩) := rfl
  obtain ⟨d, d', hd, hd', -, -, -, hpacked, hsame⟩ := deviceNumber_identifies_node hfirst hsecond
  obtain rfl : d = ⟨0xABCDE234, 0x156⟩ := hpacked _ _ (by decide)
  have hne : DeviceNumber.mk 0xABCDE234 0x156 ≠ d' := fun h => absurd (hsame.mp h) (by decide)
  refine ⟨hfirst, hsecond, hd, fun h => ?_⟩
  rw [hd'] at h
  exact hne (Except.ok.inj h).symm

end MediaPairing
