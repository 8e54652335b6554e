import Mathlib.Tactic.SplitIfs
import MediaPairing.Text.Utf8

/-!
# Reading what was written as UTF-8

The bytes of a character are one well-formed sequence, so the reading of an encoded text has no
gaps, and gives the text back. There is one lemma for each length of a sequence; the bounds in it
are those between which a value has that length. Conversely a well-formed sequence is that of the
character that it is read as, so no other bytes are read as the text.

* `pieces_utf8EncodeChar`: a character's bytes are read as that character, whatever follows.
* `decode?_encode`: every text is read as it was written.
* `decode?_eq_some_iff`: what is read as a text was written so.
* `zero_mem_encode`: a NUL byte comes from a NUL character alone.
-/

namespace MediaPairing

namespace Utf8

/-! ## Bytes of a sequence -/

theorem between_iff {b low high : UInt8} :
    (low ≤ b && b ≤ high) = true ↔ low.toNat ≤ b.toNat ∧ b.toNat ≤ high.toNat := by
  rw [Bool.and_eq_true, decide_eq_true_iff, decide_eq_true_iff, UInt8.le_iff_toNat_le,
    UInt8.le_iff_toNat_le]

/-- The continuation byte that carries the low six bits of `n`. -/
def tail (n : Nat) : UInt8 := UInt8.ofNat (n % 64 + 128)

theorem toNat_tail (n : Nat) : (tail n).toNat = n % 64 + 128 :=
  UInt8.toNat_ofNat_of_lt' (show _ < 256 by omega)

theorem isTail_tail (n : Nat) : isTail (tail n) = true := by
  rw [isTail, between_iff, toNat_tail]
  show 128 ≤ n % 64 + 128 ∧ n % 64 + 128 ≤ 191
  omega

theorem low6_tail (n : Nat) : low6 (tail n) = n % 64 := by
  rw [low6, toNat_tail]
  omega

/-! ## Reading a sequence -/

section

variable {v : Nat}

theorem pieces_oneByte (hhigh : v ≤ 0x7F) (rest : Bytes) :
    pieces (UInt8.ofNat v :: rest) = some (Char.ofNat v) :: pieces rest := by
  have hlead : (UInt8.ofNat v).toNat = v := UInt8.toNat_ofNat_of_lt' (show v < 256 by omega)
  rw [pieces.eq_def]
  dsimp only
  rw [if_pos, oneByte, hlead]
  simp only [UInt8.lt_iff_toNat_lt, hlead, UInt8.reduceToNat]
  omega

theorem pieces_twoBytes (hlow : 0x7F < v) (hhigh : v ≤ 0x7FF) (rest : Bytes) :
    pieces (UInt8.ofNat (v / 64 % 32 + 192) :: tail v :: rest) =
      some (Char.ofNat v) :: pieces rest := by
  have hlead : (UInt8.ofNat (v / 64 % 32 + 192)).toNat = v / 64 % 32 + 192 :=
    UInt8.toNat_ofNat_of_lt' (show _ < 256 by omega)
  generalize UInt8.ofNat (v / 64 % 32 + 192) = lead at hlead ⊢
  have hchar : twoBytes lead (tail v) = Char.ofNat v := by
    rw [twoBytes, hlead, low6_tail]
    congr 1
    omega
  rw [pieces.eq_def]
  dsimp only
  rw [if_neg, if_pos, if_pos (isTail_tail v), hchar]
  all_goals
    simp only [UInt8.le_iff_toNat_le, UInt8.lt_iff_toNat_lt, hlead, UInt8.reduceToNat]
    omega

/-- The second byte is neither that of an overlong form nor that of a surrogate. -/
theorem isSecondOfThree_tail {lead : UInt8} (hlow : 0x7FF < v) (hvalid : v < 0xD800 ∨ 0xDFFF < v)
    (hhigh : v ≤ 0xFFFF) (hlead : lead.toNat = v / 4096 % 16 + 224) :
    isSecondOfThree lead (tail (v / 64)) = true := by
  unfold isSecondOfThree
  split_ifs with hlowest hsurrogate
  · simp only [← UInt8.toNat_inj, hlead, UInt8.reduceToNat] at hlowest
    simp only [between_iff, toNat_tail, UInt8.reduceToNat]
    omega
  · simp only [← UInt8.toNat_inj, hlead, UInt8.reduceToNat] at hsurrogate
    simp only [between_iff, toNat_tail, UInt8.reduceToNat]
    omega
  · exact isTail_tail _

theorem pieces_threeBytes (hlow : 0x7FF < v) (hvalid : v < 0xD800 ∨ 0xDFFF < v)
    (hhigh : v ≤ 0xFFFF) (rest : Bytes) :
    pieces (UInt8.ofNat (v / 4096 % 16 + 224) :: tail (v / 64) :: tail v :: rest) =
      some (Char.ofNat v) :: pieces rest := by
  have hlead : (UInt8.ofNat (v / 4096 % 16 + 224)).toNat = v / 4096 % 16 + 224 :=
    UInt8.toNat_ofNat_of_lt' (show _ < 256 by omega)
  generalize UInt8.ofNat (v / 4096 % 16 + 224) = lead at hlead ⊢
  have hchar : threeBytes lead (tail (v / 64)) (tail v) = Char.ofNat v := by
    rw [threeBytes, hlead, low6_tail, low6_tail]
    congr 1
    omega
  rw [pieces.eq_def]
  dsimp only
  rw [if_neg, if_neg, if_pos, if_pos (isSecondOfThree_tail hlow hvalid hhigh hlead),
    if_pos (isTail_tail v), hchar]
  all_goals
    simp only [UInt8.le_iff_toNat_le, UInt8.lt_iff_toNat_lt, hlead, UInt8.reduceToNat]
    omega

/-- The second byte is neither that of an overlong form nor that of a value above `10FFFF`. -/
theorem isSecondOfFour_tail {lead : UInt8} (hlow : 0xFFFF < v) (hhigh : v ≤ 0x10FFFF)
    (hlead : lead.toNat = v / 262144 % 8 + 240) :
    isSecondOfFour lead (tail (v / 4096)) = true := by
  unfold isSecondOfFour
  split_ifs with hlowest hhighest
  · simp only [← UInt8.toNat_inj, hlead, UInt8.reduceToNat] at hlowest
    simp only [between_iff, toNat_tail, UInt8.reduceToNat]
    omega
  · simp only [← UInt8.toNat_inj, hlead, UInt8.reduceToNat] at hhighest
    simp only [between_iff, toNat_tail, UInt8.reduceToNat]
    omega
  · exact isTail_tail _

theorem pieces_fourBytes (hlow : 0xFFFF < v) (hhigh : v ≤ 0x10FFFF) (rest : Bytes) :
    pieces (UInt8.ofNat (v / 262144 % 8 + 240) :: tail (v / 4096) :: tail (v / 64) :: tail v ::
      rest) = some (Char.ofNat v) :: pieces rest := by
  have hlead : (UInt8.ofNat (v / 262144 % 8 + 240)).toNat = v / 262144 % 8 + 240 :=
    UInt8.toNat_ofNat_of_lt' (show _ < 256 by omega)
  generalize UInt8.ofNat (v / 262144 % 8 + 240) = lead at hlead ⊢
  have hchar : fourBytes lead (tail (v / 4096)) (tail (v / 64)) (tail v) = Char.ofNat v := by
    rw [fourBytes, hlead, low6_tail, low6_tail, low6_tail]
    congr 1
    omega
  rw [pieces.eq_def]
  dsimp only
  rw [if_neg, if_neg, if_neg, if_pos, if_pos (isSecondOfFour_tail hlow hhigh hlead),
    if_pos (isTail_tail _), if_pos (isTail_tail _), hchar]
  all_goals
    simp only [UInt8.le_iff_toNat_le, UInt8.lt_iff_toNat_lt, hlead, UInt8.reduceToNat]
    omega

end

/-! ## Reading a text -/

/-- The bytes of a character are read as that character. -/
theorem pieces_utf8EncodeChar (c : Char) (rest : Bytes) :
    pieces (String.utf8EncodeChar c ++ rest) = some c :: pieces rest := by
  have hvalid : c.val.toNat < 0xD800 ∨ 0xDFFF < c.val.toNat ∧ c.val.toNat < 0x110000 := c.valid
  have hchar : Char.ofNat c.val.toNat = c := Char.ofNat_toNat c
  unfold String.utf8EncodeChar
  generalize c.val.toNat = v at hvalid hchar ⊢
  subst hchar
  dsimp only
  split_ifs with hone htwo hthree
  · exact pieces_oneByte hone rest
  · exact pieces_twoBytes (by omega) htwo rest
  · exact pieces_threeBytes (by omega) (by omega) hthree rest
  · exact pieces_fourBytes (by omega) (by omega) rest

theorem pieces_encode (s : String) : pieces (encode s) = s.toList.map some := by
  unfold encode
  induction s.toList with
  | nil => rfl
  | cons c rest ih => rw [List.flatMap_cons, pieces_utf8EncodeChar, ih, List.map_cons]

theorem gapless_map_some (cs : List Char) : gapless (cs.map some) = some cs := by
  induction cs with
  | nil => rfl
  | cons c rest ih => rw [List.map_cons, gapless, ih, Option.map_some]

theorem decode?_encode (s : String) : decode? (encode s) = some s := by
  rw [decode?, pieces_encode, gapless_map_some, Option.map_some, String.ofList_toList]

theorem encode_inj {s t : String} (h : encode s = encode t) : s = t :=
  Option.some.inj (by rw [← decode?_encode, h, decode?_encode])

/-! ## Writing what was read -/

theorem toNat_val_ofNat {v : Nat} (h : v < 0xD800 ∨ 0xDFFF < v ∧ v < 0x110000) :
    (Char.ofNat v).val.toNat = v := by
  have hvalid : v.isValidChar := h
  rw [Char.ofNat, dif_pos hvalid]
  rfl

theorem isTail_iff {b : UInt8} : isTail b = true ↔ 128 ≤ b.toNat ∧ b.toNat ≤ 191 := between_iff

theorem bounds_of_isSecondOfThree {b c : UInt8} (h : isSecondOfThree b c = true) :
    128 ≤ c.toNat ∧ c.toNat ≤ 191 ∧ (b.toNat = 0xE0 → 0xA0 ≤ c.toNat) ∧
      (b.toNat = 0xED → c.toNat ≤ 0x9F) := by
  unfold isSecondOfThree isTail at h
  split_ifs at h with hlowest hsurrogate
  all_goals
    simp only [between_iff, UInt8.reduceToNat] at h
    simp only [← UInt8.toNat_inj, UInt8.reduceToNat] at *
    omega

theorem bounds_of_isSecondOfFour {b c : UInt8} (h : isSecondOfFour b c = true) :
    128 ≤ c.toNat ∧ c.toNat ≤ 191 ∧ (b.toNat = 0xF0 → 0x90 ≤ c.toNat) ∧
      (b.toNat = 0xF4 → c.toNat ≤ 0x8F) := by
  unfold isSecondOfFour isTail at h
  split_ifs at h with hlowest hhighest
  all_goals
    simp only [between_iff, UInt8.reduceToNat] at h
    simp only [← UInt8.toNat_inj, UInt8.reduceToNat] at *
    omega

section

variable {b c d e : UInt8}

theorem utf8EncodeChar_oneByte (hb : b < 0x80) : String.utf8EncodeChar (oneByte b) = [b] := by
  simp only [UInt8.lt_iff_toNat_lt, UInt8.reduceToNat] at hb
  unfold String.utf8EncodeChar oneByte
  rw [toNat_val_ofNat (by omega)]
  dsimp only
  rw [if_pos (by omega), UInt8.ofNat_toNat]

theorem utf8EncodeChar_twoBytes (hb : 0xC2 ≤ b ∧ b ≤ 0xDF) (hc : isTail c = true) :
    String.utf8EncodeChar (twoBytes b c) = [b, c] := by
  simp only [UInt8.le_iff_toNat_le, UInt8.reduceToNat] at hb
  rw [isTail_iff] at hc
  unfold String.utf8EncodeChar twoBytes low6
  rw [toNat_val_ofNat (by omega)]
  dsimp only
  rw [if_neg (by omega), if_pos (by omega)]
  simp only [List.cons.injEq, ← UInt8.toNat_inj, UInt8.toNat_ofNat', and_true]
  omega

theorem utf8EncodeChar_threeBytes (hb : 0xE0 ≤ b ∧ b ≤ 0xEF) (hc : isSecondOfThree b c = true)
    (hd : isTail d = true) : String.utf8EncodeChar (threeBytes b c d) = [b, c, d] := by
  simp only [UInt8.le_iff_toNat_le, UInt8.reduceToNat] at hb
  have hsecond := bounds_of_isSecondOfThree hc
  rw [isTail_iff] at hd
  unfold String.utf8EncodeChar threeBytes low6
  rw [toNat_val_ofNat (by omega)]
  dsimp only
  rw [if_neg (by omega), if_neg (by omega), if_pos (by omega)]
  simp only [List.cons.injEq, ← UInt8.toNat_inj, UInt8.toNat_ofNat', and_true]
  omega

theorem utf8EncodeChar_fourBytes (hb : 0xF0 ≤ b ∧ b ≤ 0xF4) (hc : isSecondOfFour b c = true)
    (hd : isTail d = true) (he : isTail e = true) :
    String.utf8EncodeChar (fourBytes b c d e) = [b, c, d, e] := by
  simp only [UInt8.le_iff_toNat_le, UInt8.reduceToNat] at hb
  have hsecond := bounds_of_isSecondOfFour hc
  rw [isTail_iff] at hd he
  unfold String.utf8EncodeChar fourBytes low6
  rw [toNat_val_ofNat (by omega)]
  dsimp only
  rw [if_neg (by omega), if_neg (by omega), if_neg (by omega)]
  simp only [List.cons.injEq, ← UInt8.toNat_inj, UInt8.toNat_ofNat', and_true]
  omega

end

/-- The bytes of a first character, and those of the rest. -/
theorem append_eq_flatMap {c : Char} {head rest : Bytes} {cs : List Char}
    (h : gapless (some c :: pieces rest) = some cs) (hhead : String.utf8EncodeChar c = head)
    (hrest : ∀ cs', gapless (pieces rest) = some cs' → rest = cs'.flatMap String.utf8EncodeChar) :
    head ++ rest = cs.flatMap String.utf8EncodeChar := by
  obtain ⟨cs', hread, rfl⟩ := Option.map_eq_some_iff.mp h
  rw [List.flatMap_cons, hhead, ← hrest cs' hread]

/-- Without a gap, the bytes are those of the characters that are read. -/
theorem eq_flatMap_of_gapless {bs : Bytes} {cs : List Char} (h : gapless (pieces bs) = some cs) :
    bs = cs.flatMap String.utf8EncodeChar := by
  fun_induction pieces bs generalizing cs with
  | case1 =>
    cases h
    rfl
  | case2 b rest hb ih => exact append_eq_flatMap h (utf8EncodeChar_oneByte hb) fun _ => ih
  | case4 b hnot hb c rest hc ih =>
    exact append_eq_flatMap h (utf8EncodeChar_twoBytes hb hc) fun _ => ih
  | case9 b hone htwo hb c d rest hc hd ih =>
    exact append_eq_flatMap h (utf8EncodeChar_threeBytes hb hc hd) fun _ => ih
  | case18 b hone htwo hthree hb c d e rest hc hd he ih =>
    exact append_eq_flatMap h (utf8EncodeChar_fourBytes hb hc hd he) fun _ => ih
  | _ => cases h

/-- The bytes that hold a text are those that it is written in, and no others. -/
theorem decode?_eq_some_iff {bs : Bytes} {s : String} : decode? bs = some s ↔ bs = encode s := by
  constructor
  · intro h
    obtain ⟨cs, hread, rfl⟩ := Option.map_eq_some_iff.mp h
    rw [eq_flatMap_of_gapless hread, encode, String.toList_ofList]
  · rintro rfl
    exact decode?_encode s

/-! ## NUL -/

theorem zero_mem_utf8EncodeChar {c : Char} (h : 0 ∈ String.utf8EncodeChar c) : c = '\x00' := by
  have hchar : Char.ofNat c.val.toNat = c := Char.ofNat_toNat c
  unfold String.utf8EncodeChar at h
  generalize c.val.toNat = v at h hchar
  subst hchar
  have hzero : v = 0 := by
    dsimp only at h
    -- a byte of a longer sequence is at least 128
    split_ifs at h with hone htwo hthree
    all_goals
      simp only [List.mem_cons, List.not_mem_nil, or_false, ← UInt8.toNat_inj,
        UInt8.reduceToNat, UInt8.toNat_ofNat'] at h
      omega
  rw [hzero]

/-- Only a NUL character brings a NUL byte with it. -/
theorem zero_mem_encode {s : String} (h : 0 ∈ encode s) : '\x00' ∈ s.toList := by
  obtain ⟨c, hc, hzero⟩ := List.mem_flatMap.mp h
  rwa [← zero_mem_utf8EncodeChar hzero]

end Utf8

end MediaPairing
