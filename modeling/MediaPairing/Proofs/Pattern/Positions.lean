import MediaPairing.Pattern.Match

/-!
# Positions that a pattern relates

The relation of a pattern is kept as the bits of numbers. This module reads it back: which
positions are related, for each way in which relations are put together, and so for the patterns
that are built in these ways.

* `Reach.Relates r i j`: the relation holds between two positions.
* `relates_ofRows`, `relates_comp`, `relates_union`: the relations that others are made of.
* `Runs p last s c`: the relation leads along characters with a property, at most `c` of them.
* `relates_closure`: any number of steps along such characters.
* `Pattern.Matches p t i j`: the pattern matches the part of the text between two positions;
  `Pattern.MatchesFirst` asks for a match that is the leftmost one.
* `charAt_toArray` and what follows it: the tests on positions, for a text given as a list.
-/

namespace MediaPairing

/-! ## Relations -/

namespace Reach

/-- The relation holds between the positions `i` and `j`. -/
def Relates (r : Reach) (i j : Nat) : Prop := (r[i]?.getD 0).testBit j = true

theorem getElem?_ofRows (last : Nat) (row : Nat → Nat) (i : Nat) :
    (ofRows last row)[i]? = if i ≤ last then some (row i) else none := by
  unfold ofRows
  by_cases hi : i ≤ last
  · simp [hi, Nat.lt_succ_of_le hi]
  · rw [if_neg hi]
    refine Array.getElem?_eq_none ?_
    rw [List.size_toArray, List.length_map, List.length_range]
    omega

theorem relates_ofRows {last : Nat} {row : Nat → Nat} {i j : Nat} :
    (ofRows last row).Relates i j ↔ i ≤ last ∧ (row i).testBit j = true := by
  unfold Relates
  rw [getElem?_ofRows]
  by_cases hi : i ≤ last
  · simp [hi]
  · simp [hi]

theorem relates_id {last i j : Nat} : (id last).Relates i j ↔ i ≤ last ∧ j = i := by
  unfold id
  rw [relates_ofRows, Nat.one_shiftLeft, Nat.testBit_two_pow]
  simp [eq_comm]

/-- The bits that are gathered from the chosen ones of `count` rows. -/
theorem testBit_gathered (chosen : Nat → Bool) (k count : Nat)
    (row : (j : Nat) → j < count → Nat) :
    (count.fold (fun j h bits => if chosen j then bits ||| row j h else bits) 0).testBit k = true ↔
      ∃ j, ∃ h : j < count, chosen j = true ∧ (row j h).testBit k = true := by
  induction count with
  | zero => simp
  | succ n ih =>
    rw [Nat.fold_succ]
    have hrest := ih fun j h => row j (Nat.lt_succ_of_lt h)
    by_cases hn : chosen n = true
    · rw [if_pos hn, Nat.testBit_or, Bool.or_eq_true, hrest]
      constructor
      · rintro (⟨j, h, hj⟩ | hbit)
        · exact ⟨j, Nat.lt_succ_of_lt h, hj⟩
        · exact ⟨n, Nat.lt_succ_self n, hn, hbit⟩
      · rintro ⟨j, h, hj, hbit⟩
        rcases Nat.lt_succ_iff_lt_or_eq.mp h with hlt | rfl
        · exact .inl ⟨j, hlt, hj, hbit⟩
        · exact .inr hbit
    · rw [if_neg hn, hrest]
      constructor
      · rintro ⟨j, h, hj⟩
        exact ⟨j, Nat.lt_succ_of_lt h, hj⟩
      · rintro ⟨j, h, hj, hbit⟩
        rcases Nat.lt_succ_iff_lt_or_eq.mp h with hlt | rfl
        · exact ⟨j, hlt, hj, hbit⟩
        · exact absurd hj hn

/-- First by one relation, then by the other. -/
theorem relates_comp {r s : Reach} {i k : Nat} :
    (comp r s).Relates i k ↔ ∃ j, r.Relates i j ∧ s.Relates j k := by
  unfold comp Relates
  rw [Array.getElem?_map]
  cases hrow : r[i]? with
  | none => simp
  | some row =>
    by_cases hzero : row = 0
    · simp [hzero]
    · simp only [Option.map_some, Option.getD_some, if_neg hzero]
      rw [testBit_gathered (fun j => row.testBit j) k s.size fun j _ => s[j]]
      constructor
      · rintro ⟨j, h, hj, hbit⟩
        refine ⟨j, hj, ?_⟩
        rw [Array.getElem?_eq_getElem h]
        exact hbit
      · rintro ⟨j, hj, hbit⟩
        by_cases h : j < s.size
        · rw [Array.getElem?_eq_getElem h] at hbit
          exact ⟨j, h, hj, hbit⟩
        · rw [Array.getElem?_eq_none (Nat.le_of_not_lt h)] at hbit
          simp at hbit

theorem relates_union {r s : Reach} (hsize : r.size = s.size) {i j : Nat} :
    (union r s).Relates i j ↔ r.Relates i j ∨ s.Relates i j := by
  unfold union Relates
  rw [Array.getElem?_zipWith]
  by_cases hi : i < r.size
  · rw [Array.getElem?_eq_getElem hi, Array.getElem?_eq_getElem (hsize ▸ hi)]
    simp [Nat.testBit_or]
  · have hi' : s.size ≤ i := hsize ▸ Nat.le_of_not_lt hi
    rw [Array.getElem?_eq_none (Nat.le_of_not_lt hi), Array.getElem?_eq_none hi']
    simp

/-! ## Steps along characters -/

/-- From a position up to `last` the relation leads along positions with the property, over at
most `count` of them. -/
def Runs (p : Nat → Prop) (last : Nat) (s : Reach) (count : Nat) : Prop :=
  ∀ i j, s.Relates i j ↔ i ≤ last ∧ i ≤ j ∧ j ≤ i + count ∧ ∀ k, i ≤ k → k < j → p k

section

variable {p : Nat → Prop} {last : Nat} (hp : ∀ k, p k → k < last)

include hp

/-- Twice as many steps: a longer way is cut at the end of the first half. -/
theorem Runs.comp {s : Reach} {count : Nat} (h : Runs p last s count) :
    Runs p last (Reach.comp s s) (count + count) := by
  intro i j
  rw [relates_comp]
  constructor
  · rintro ⟨k, hik, hkj⟩
    obtain ⟨hi, hle, hcount, hall⟩ := (h i k).mp hik
    obtain ⟨-, hle', hcount', hall'⟩ := (h k j).mp hkj
    refine ⟨hi, by omega, by omega, fun l hl hlj => ?_⟩
    by_cases hlk : l < k
    · exact hall l hl hlk
    · exact hall' l (by omega) hlj
  · rintro ⟨hi, hle, hcount, hall⟩
    by_cases hnear : j ≤ i + count
    · refine ⟨i, (h i i).mpr ⟨hi, by omega, by omega, ?_⟩, (h i j).mpr ⟨hi, hle, hnear, hall⟩⟩
      intro k hk hki
      omega
    · have hcut : i + count ≤ last := Nat.le_of_lt (hp _ (hall (i + count) (by omega) (by omega)))
      refine ⟨i + count, (h i _).mpr ⟨hi, by omega, by omega, ?_⟩,
        (h _ j).mpr ⟨hcut, by omega, by omega, ?_⟩⟩
      · exact fun k hk hki => hall k hk (by omega)
      · exact fun k hk hkj => hall k (by omega) hkj

theorem Runs.square {s : Reach} {count : Nat} (h : Runs p last s count) (n : Nat) :
    Runs p last (Reach.square s n) (count <<< n) := by
  induction n generalizing s count with
  | zero => exact h
  | succ n ih =>
    rw [Nat.shiftLeft_succ_inside, Nat.two_mul]
    exact ih (h.comp hp)

/-- Any number of steps, each over one position with the property. -/
theorem relates_closure {r : Reach} (hsize : r.size = last + 1)
    (hr : ∀ i j, r.Relates i j ↔ p i ∧ j = i + 1) {i j : Nat} :
    (closure last r).Relates i j ↔ i ≤ last ∧ i ≤ j ∧ ∀ k, i ≤ k → k < j → p k := by
  have hone : Runs p last (union (id last) r) 1 := by
    intro i j
    rw [relates_union (by rw [hsize]; simp [id, ofRows]), relates_id, hr]
    constructor
    · rintro (⟨hi, rfl⟩ | ⟨hi, rfl⟩)
      · exact ⟨hi, by omega, by omega, fun k hk hkj => absurd hkj (by omega)⟩
      · refine ⟨Nat.le_of_lt (hp i hi), by omega, by omega, fun k hk hkj => ?_⟩
        obtain rfl : k = i := by omega
        exact hi
    · rintro ⟨hi, hle, hcount, hall⟩
      rcases Nat.eq_or_lt_of_le hle with rfl | hlt
      · exact .inl ⟨hi, rfl⟩
      · exact .inr ⟨hall i (Nat.le_refl i) hlt, by omega⟩
  have hmany := hone.square hp (last.log2 + 1)
  unfold closure
  rw [hmany i j, Nat.one_shiftLeft]
  -- there are fewer positions than the steps that are allowed for
  have hlast : last < 2 ^ (last.log2 + 1) := Nat.lt_log2_self
  constructor
  · rintro ⟨hi, hle, -, hall⟩
    exact ⟨hi, hle, hall⟩
  · rintro ⟨hi, hle, hall⟩
    refine ⟨hi, hle, ?_, hall⟩
    by_cases hlt : i < j
    · have hbound := hp (j - 1) (hall (j - 1) (by omega) (by omega))
      omega
    · omega

end

end Reach

/-! ## Patterns -/

namespace Pattern

/-- The pattern matches the part of `t` between the positions `i` and `j`. -/
def Matches (p : Pattern) (t : Chars) (i j : Nat) : Prop := (p.reach t).Relates i j

/-- There is no match that begins further to the left. -/
def MatchesFirst (p : Pattern) (t : Chars) (i j : Nat) : Prop :=
  p.Matches t i j ∧ ∀ i' j', p.Matches t i' j' → i ≤ i'

section

variable {t : Chars} {i j : Nat}

theorem Matches.exists_first {p : Pattern} (h : p.Matches t i j) :
    ∃ i' j', p.MatchesFirst t i' j' := by
  induction i using Nat.strongRecOn generalizing j with
  | ind i ih =>
    by_cases hearlier : ∃ i' j', i' < i ∧ p.Matches t i' j'
    · obtain ⟨i', j', hlt, h'⟩ := hearlier
      exact ih i' hlt h'
    · exact ⟨i, j, h, fun i' j' h' => Nat.le_of_not_lt fun hlt => hearlier ⟨i', j', hlt, h'⟩⟩

theorem matches_anchor {a : Anchor} :
    (anchor a).Matches t i j ↔ i ≤ t.size ∧ a.holdsAt t i = true ∧ j = i := by
  unfold Matches reach
  rw [Reach.relates_ofRows]
  by_cases hholds : a.holdsAt t i = true
  · rw [if_pos hholds, Nat.one_shiftLeft, Nat.testBit_two_pow]
    simp [hholds, eq_comm]
  · rw [if_neg hholds]
    simp [hholds]

theorem matches_literal {text : List Char} :
    (literal text).Matches t i j ↔
      i ≤ t.size ∧ literalAt t i text = true ∧ j = i + text.length := by
  unfold Matches reach
  rw [Reach.relates_ofRows]
  by_cases hat : literalAt t i text = true
  · rw [if_pos hat, Nat.one_shiftLeft, Nat.testBit_two_pow]
    simp [hat, eq_comm]
  · rw [if_neg hat]
    simp [hat]

theorem charAt_lt {p : Char → Bool} (h : charAt p t i = true) : i < t.size := by
  refine Nat.lt_of_not_le fun hle => ?_
  rw [charAt, Array.getElem?_eq_none hle] at h
  cases h

theorem matches_chars {ranges : CodeRanges} :
    (chars ranges).Matches t i j ↔ charAt ranges.contains t i = true ∧ j = i + 1 := by
  unfold Matches reach
  rw [Reach.relates_ofRows]
  by_cases hat : charAt ranges.contains t i = true
  · have hlt := charAt_lt hat
    rw [if_pos hat, Nat.one_shiftLeft, Nat.testBit_two_pow]
    simp [hat, Nat.le_of_lt hlt, eq_comm]
  · rw [if_neg hat]
    simp [hat]

theorem matches_seq {p q : Pattern} :
    (seq p q).Matches t i j ↔ ∃ k, p.Matches t i k ∧ q.Matches t k j := Reach.relates_comp

/-- Parentheses only mark a part. -/
theorem matches_group {n : Nat} {p : Pattern} :
    (group n p).Matches t i j ↔ p.Matches t i j := Iff.rfl

/-- One or more characters of a set. -/
theorem matches_oneOrMore {ranges : CodeRanges} :
    (Pattern.repeat (chars ranges) 1 none).Matches t i j ↔
      i < j ∧ ∀ k, i ≤ k → k < j → charAt ranges.contains t k = true := by
  have hstep : ∀ i j, ((chars ranges).reach t).Relates i j ↔
      charAt ranges.contains t i = true ∧ j = i + 1 := fun i j => matches_chars
  have hclosure := fun k j => Reach.relates_closure (fun i => charAt_lt)
    (show ((chars ranges).reach t).size = t.size + 1 by simp [reach, Reach.ofRows]) hstep
    (i := k) (j := j)
  have hmin : min 1 (t.size + 1) = 1 := by omega
  unfold Matches reach repeatReach
  simp only [hmin, Reach.power, Reach.relates_comp, Reach.relates_id, hstep, hclosure]
  constructor
  · rintro ⟨k, ⟨l, ⟨hi, rfl⟩, -, rfl⟩, -, hle, hall⟩
    refine ⟨by omega, fun k hk hkj => ?_⟩
    rcases Nat.eq_or_lt_of_le hk with rfl | hlt
    · exact hi
    · exact hall k hlt hkj
  · rintro ⟨hlt, hall⟩
    have hi := hall i (Nat.le_refl i) hlt
    have hbound : i + 1 ≤ t.size := charAt_lt hi
    exact ⟨i + 1, ⟨i + 1, ⟨hi, rfl⟩, hbound, rfl⟩, hbound, hlt,
      fun k hk hkj => hall k (by omega) hkj⟩

end

end Pattern

/-! ## Tests on a list of characters -/

section

variable {cs : List Char} {i j : Nat}

theorem charAt_toArray {p : Char → Bool} :
    charAt p cs.toArray i = true ↔ ∃ c, cs[i]? = some c ∧ p c = true := by
  unfold charAt
  rw [List.getElem?_toArray]
  cases cs[i]? with
  | none => simp
  | some c => simp

theorem literalAt_toArray {text : List Char} :
    literalAt cs.toArray i text = true ↔ text <+: cs.drop i := by
  induction text generalizing i with
  | nil => simp [literalAt]
  | cons c rest ih =>
    rw [literalAt, Bool.and_eq_true, charAt_toArray, ih]
    constructor
    · rintro ⟨⟨d, hd, hcd⟩, hrest⟩
      obtain rfl : d = c := beq_iff_eq.mp hcd
      obtain ⟨hlt, rfl⟩ := List.getElem?_eq_some_iff.mp hd
      rw [List.drop_eq_getElem_cons hlt, List.cons_prefix_cons]
      exact ⟨rfl, hrest⟩
    · intro h
      have hlt : i < cs.length := by
        have := h.length_le
        rw [List.length_cons, List.length_drop] at this
        omega
      rw [List.drop_eq_getElem_cons hlt, List.cons_prefix_cons] at h
      exact ⟨⟨c, by rw [List.getElem?_eq_getElem hlt, h.1], beq_self_eq_true c⟩, h.2⟩

/-- A line begins at a position if no other character than a line feed stands before it. -/
theorem lineStart_toArray (hi : i ≤ cs.length) :
    Anchor.lineStart.holdsAt cs.toArray i = true ↔
      ∀ c, (cs.take i).getLast? = some c → c = '\n' := by
  cases i with
  | zero => simp [Anchor.holdsAt]
  | succ n =>
    have hlast : (cs.take (n + 1)).getLast? = some cs[n] := by
      rw [List.take_succ_eq_append_getElem hi, List.getLast?_concat]
    rw [hlast]
    simp [Anchor.holdsAt, charBefore, charAt, List.getElem?_eq_getElem hi]

theorem lineEnd_toArray (hj : j ≤ cs.length) :
    Anchor.lineEnd.holdsAt cs.toArray j = true ↔
      ∀ c, (cs.drop j).head? = some c → c = '\n' := by
  rw [List.head?_drop]
  rcases Nat.eq_or_lt_of_le hj with rfl | hlt
  · simp [Anchor.holdsAt]
  · simp [Anchor.holdsAt, charAt, List.getElem?_eq_getElem hlt, Nat.ne_of_lt hlt]

/-- The characters of a part that is passed over one by one. -/
theorem forall_charAt_toArray {p : Char → Bool} (hij : i < j) :
    (∀ k, i ≤ k → k < j → charAt p cs.toArray k = true) ↔
      j ≤ cs.length ∧ ∀ c ∈ cs.extract i j, p c = true := by
  constructor
  · intro h
    have hlast : j - 1 < cs.length := Pattern.charAt_lt (h (j - 1) (by omega) (by omega))
    refine ⟨by omega, fun c hc => ?_⟩
    obtain ⟨n, hn⟩ := List.mem_iff_getElem?.mp hc
    rw [List.extract_eq_take_drop, List.getElem?_take] at hn
    split at hn
    · rw [List.getElem?_drop] at hn
      obtain ⟨d, hd, hp⟩ := charAt_toArray.mp (h (i + n) (by omega) (by omega))
      rw [hn] at hd
      cases hd
      exact hp
    · cases hn
  · rintro ⟨hj, h⟩ k hk hkj
    have hlt : k < cs.length := by omega
    have hmem : cs[k] ∈ cs.extract i j := by
      rw [List.mem_iff_getElem?]
      refine ⟨k - i, ?_⟩
      rw [List.extract_eq_take_drop, List.getElem?_take_of_lt (by omega), List.getElem?_drop]
      rw [Nat.add_sub_cancel' hk, List.getElem?_eq_getElem hlt]
    exact charAt_toArray.mpr ⟨cs[k], List.getElem?_eq_getElem hlt, h _ hmem⟩

end

end MediaPairing
