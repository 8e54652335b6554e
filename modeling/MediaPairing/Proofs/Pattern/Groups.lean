import MediaPairing.Pattern.Captures
import MediaPairing.Proofs.Pattern.Positions

/-!
# Matches with their groups

The matches of a pattern that go on from a position, read off its parts, and the one of them that
counts.

* `mem_ways_anchor` and what follows it: the matches of a part.
* `mem_ways_oneOrMore`: a run of characters of a set.
* `captures?_of_first`, `captures?_eq_none`: the groups of the match that counts.
-/

namespace MediaPairing

namespace Pattern

variable {t : Chars} {w w' : Way}

theorem mem_ways_anchor {a : Anchor} :
    w' ∈ (anchor a).ways t w ↔ a.holdsAt t w.position = true ∧ w' = w := by
  rw [ways]
  split <;> simp [*]

theorem mem_ways_literal {text : List Char} :
    w' ∈ (literal text).ways t w ↔
      literalAt t w.position text = true ∧
        w' = { w with position := w.position + text.length } := by
  rw [ways]
  split <;> simp [*]

theorem mem_ways_chars {ranges : CodeRanges} :
    w' ∈ (chars ranges).ways t w ↔
      charAt ranges.contains t w.position = true ∧
        w' = { w with position := w.position + 1 } := by
  rw [ways]
  split <;> simp [*]

theorem mem_ways_seq {p q : Pattern} :
    w' ∈ (seq p q).ways t w ↔ ∃ between ∈ p.ways t w, w' ∈ q.ways t between := by
  rw [ways, List.mem_flatMap]

theorem mem_ways_group {index : Nat} {p : Pattern} :
    w' ∈ (group index p).ways t w ↔ ∃ inner ∈ p.ways t w, inner.record index w.position = w' := by
  rw [ways, List.mem_map]

/-- The characters of a set that are passed over one by one. The bound on the steps is never met:
there are not so many characters. -/
theorem mem_oneOrMore_chars {ranges : CodeRanges} {fuel : Nat}
    (hfuel : t.size < w.position + fuel) :
    w' ∈ Way.oneOrMore ((chars ranges).ways t) fuel w ↔
      w'.groups = w.groups ∧ w.position < w'.position ∧
        ∀ k, w.position ≤ k → k < w'.position → charAt ranges.contains t k = true := by
  induction fuel generalizing w with
  | zero =>
    constructor
    · intro h
      cases h
    · rintro ⟨-, hlt, hall⟩
      have hwithin := charAt_lt (hall _ (Nat.le_refl _) hlt)
      omega
  | succ fuel ih =>
    have hrest : t.size < w.position + 1 + fuel := by omega
    have ih := ih (w := { w with position := w.position + 1 }) hrest
    rw [Way.oneOrMore, List.mem_flatMap]
    constructor
    · rintro ⟨next, hnext, hmem⟩
      obtain ⟨hat, rfl⟩ := mem_ways_chars.mp hnext
      rw [if_pos (Nat.lt_succ_self _), List.mem_append, List.mem_singleton] at hmem
      rcases hmem with hmem | rfl
      · obtain ⟨hgroups, hlt, hall⟩ := ih.mp hmem
        dsimp only at hlt hall
        refine ⟨hgroups, by omega, fun k hk hkj => ?_⟩
        rcases Nat.eq_or_lt_of_le hk with rfl | hk
        · exact hat
        · exact hall k hk hkj
      · refine ⟨rfl, Nat.lt_succ_self _, fun k hk hkj => ?_⟩
        obtain rfl : k = w.position := Nat.le_antisymm (Nat.le_of_lt_succ hkj) hk
        exact hat
    · rintro ⟨hgroups, hlt, hall⟩
      refine ⟨_, mem_ways_chars.mpr ⟨hall _ (Nat.le_refl _) hlt, rfl⟩, ?_⟩
      rw [if_pos (Nat.lt_succ_self _), List.mem_append, List.mem_singleton]
      rcases Nat.eq_or_lt_of_le (Nat.succ_le_of_lt hlt) with heq | hlt
      · right
        cases w'
        cases hgroups
        cases heq
        rfl
      · left
        exact ih.mpr ⟨hgroups, hlt, fun k hk hkj => hall k (Nat.le_of_succ_le hk) hkj⟩

theorem mem_ways_oneOrMore {ranges : CodeRanges} :
    w' ∈ (Pattern.repeat (chars ranges) 1 none).ways t w ↔
      w'.groups = w.groups ∧ w.position < w'.position ∧
        ∀ k, w.position ≤ k → k < w'.position → charAt ranges.contains t k = true := by
  rw [ways, Way.repetitions, Way.exactly, List.flatMap_singleton]
  exact mem_oneOrMore_chars (by omega)

/-! ## The match that counts -/

/-- The match that counts begins where the first one does. -/
theorem captures?_of_first {p : Pattern} {i : Nat} (hi : i ≤ t.size)
    (hsome : p.ways t ⟨i, []⟩ ≠ []) (hearlier : ∀ i' < i, p.ways t ⟨i', []⟩ = []) :
    ∃ w ∈ p.ways t ⟨i, []⟩, p.captures? t = some w.groups := by
  obtain ⟨w, rest, hways⟩ := List.exists_cons_of_ne_nil hsome
  refine ⟨w, hways ▸ List.mem_cons_self, ?_⟩
  unfold captures?
  rw [List.findSome?_eq_some_iff]
  have hrange : List.range (t.size + 1) =
      List.range i ++ i :: List.range' (i + 1) (t.size - i) := by
    have hsize : t.size + 1 = i + (t.size - i + 1) := by omega
    rw [hsize, List.range_add, ← List.range'_eq_map_range, List.range'_succ]
  refine ⟨List.range i, i, _, hrange, ?_, ?_⟩
  · rw [hways]
    rfl
  · intro i' hi'
    rw [hearlier i' (List.mem_range.mp hi')]
    rfl

theorem captures?_eq_none {p : Pattern} (h : ∀ i ≤ t.size, p.ways t ⟨i, []⟩ = []) :
    p.captures? t = none := by
  unfold captures?
  rw [List.findSome?_eq_none_iff]
  intro i hi
  rw [h i (Nat.le_of_lt_succ (List.mem_range.mp hi))]
  rfl

end Pattern

end MediaPairing
