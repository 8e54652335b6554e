import MediaPairing.Interface

/-!
# Kinds of interfaces and their codes

Most kinds of interfaces have a name, and each of these has a code. Any other code is read as a
kind that is nothing but the code, so no code is lost on the way to a kind and back. On the way
from a kind to its code and back something can change: nothing keeps the code of a named kind from
being given as a kind that is just a code. The named kind is its canonical form.

* `InterfaceType.raw_ofRaw`: the code of the kind that is read from a code.
* `InterfaceType.Canonical`: what the canonical form of a kind is.
* `InterfaceType.ofRaw_raw_eq_iff`: reading the code of a kind gives its canonical form.
* `Interface.isVideo_iff`: a video interface is one with the raw type `0x200`.
* `interface_keeps_code`: what a record made of a kind says about it.
-/

namespace MediaPairing

namespace InterfaceType

/-! ## From a code to a kind and back -/

theorem raw_ite {p : Prop} [Decidable p] {r : UInt32} {t u : InterfaceType}
    (ht : p → t.raw = r) (hu : ¬p → u.raw = r) : (if p then t else u).raw = r := by
  by_cases h : p
  · rw [if_pos h]
    exact ht h
  · rw [if_neg h]
    exact hu h

theorem raw_ofRaw (r : UInt32) : (ofRaw r).raw = r := by
  unfold ofRaw
  repeat refine raw_ite Eq.symm fun _ => ?_
  rfl

/-! ## From a kind to a code and back -/

/-- The kind has a name, and is not just a code. -/
def Named (t : InterfaceType) : Prop := ∀ r, t ≠ .other r

theorem exists_eq_other {t : InterfaceType} (h : ¬t.Named) : ∃ r, t = .other r := by
  unfold Named at h
  simpa using h

theorem ofRaw_raw_of_named {t : InterfaceType} (h : t.Named) : ofRaw t.raw = t := by
  cases t with
  | other r => exact absurd rfl (h r)
  | _ => rfl

/-- A code without a named kind stays a code. -/
theorem ofRaw_of_not_named {r : UInt32} (h : ¬(ofRaw r).Named) : ofRaw r = .other r := by
  obtain ⟨r', hr'⟩ := exists_eq_other h
  have hcode : (ofRaw r).raw = r' := congrArg raw hr'
  rw [raw_ofRaw] at hcode
  rw [hr', hcode]

/-- The second kind is the canonical form of the first. -/
inductive Canonical : InterfaceType → InterfaceType → Prop
  /-- The code of a named kind stands for that kind. -/
  | named {u : InterfaceType} (hu : u.Named) : Canonical (.other u.raw) u
  /-- Every other kind stands for itself. -/
  | self {t : InterfaceType} (ht : ∀ u : InterfaceType, u.Named → t ≠ .other u.raw) :
    Canonical t t

theorem canonical_ofRaw_raw (t : InterfaceType) : Canonical t (ofRaw t.raw) := by
  by_cases ht : t.Named
  · rw [ofRaw_raw_of_named ht]
    exact .self fun u _ => ht u.raw
  · obtain ⟨r, rfl⟩ := exists_eq_other ht
    change Canonical (.other r) (ofRaw r)
    by_cases hr : (ofRaw r).Named
    · have hnamed : Canonical (.other (ofRaw r).raw) (ofRaw r) := .named hr
      rwa [raw_ofRaw] at hnamed
    · rw [ofRaw_of_not_named hr]
      refine .self fun u hu h => hr ?_
      have hcode : r = u.raw := other.inj h
      rwa [hcode, ofRaw_raw_of_named hu]

theorem Canonical.ofRaw_raw_eq {t u : InterfaceType} (h : Canonical t u) : ofRaw t.raw = u := by
  cases h with
  | named hu => exact ofRaw_raw_of_named hu
  | self ht =>
    by_cases hnamed : t.Named
    · exact ofRaw_raw_of_named hnamed
    · obtain ⟨r, rfl⟩ := exists_eq_other hnamed
      -- were the code that of a named kind, that kind would contradict `ht`
      exact ofRaw_of_not_named fun hr => ht (ofRaw r) hr (congrArg other (raw_ofRaw r).symm)

theorem ofRaw_raw_eq_iff {t u : InterfaceType} : ofRaw t.raw = u ↔ Canonical t u := by
  constructor
  · rintro rfl
    exact canonical_ofRaw_raw t
  · exact Canonical.ofRaw_raw_eq

end InterfaceType

/-! ## Records -/

namespace Interface

theorem isVideo_iff (i : Interface) : i.isVideo = true ↔ i.rawType = 0x200 := by
  have htype : i.isVideo = true ↔ i.type = .v4lVideo := beq_iff_eq
  rw [htype]
  constructor
  · intro h
    rw [← InterfaceType.raw_ofRaw i.rawType]
    exact congrArg InterfaceType.raw h
  · intro h
    unfold type
    rw [h]
    rfl

example : (ofType 3 (.other 0x200) ⟨81, 4⟩).isVideo = true := by decide

theorem filter_isVideo (is : List Interface) :
    is.filter isVideo = is.filter (·.rawType = 0x200) := by
  refine List.filter_congr fun i _ => ?_
  rw [Bool.eq_iff_iff, isVideo_iff, decide_eq_true_iff]

theorem type_ofType (id : UInt32) (t : InterfaceType) (d : DeviceNumber) :
    t.Canonical (ofType id t d).type := InterfaceType.canonical_ofRaw_raw t

end Interface

/-- Every code is the code of the kind that is read from it. What is read from the code of a kind is
its canonical form: the named kind if it is just the code of one, and otherwise the kind itself. A
record that is made for any kind has the id and the device number that it is given and no flags,
its type is the canonical form of that kind, and it is one of a video interface if and only if the
code of the kind is `0x200`. -/
theorem interface_keeps_code :
    (∀ r : UInt32, (InterfaceType.ofRaw r).raw = r) ∧
    (∀ t u : InterfaceType, InterfaceType.ofRaw t.raw = u ↔ t.Canonical u) ∧
    ∀ (id : UInt32) (t : InterfaceType) (d : DeviceNumber),
      (Interface.ofType id t d).id = id ∧
      (Interface.ofType id t d).devnode = d ∧
      (Interface.ofType id t d).flags = 0 ∧
      t.Canonical (Interface.ofType id t d).type ∧
      ((Interface.ofType id t d).isVideo = true ↔ t.raw = 0x200) := by
  refine ⟨InterfaceType.raw_ofRaw, fun t u => InterfaceType.ofRaw_raw_eq_iff, ?_⟩
  intro id t d
  have hvideo : (Interface.ofType id t d).isVideo = true ↔ t.raw = 0x200 :=
    Interface.isVideo_iff _
  exact ⟨rfl, rfl, rfl, Interface.type_ofType id t d, hvideo⟩

end MediaPairing
