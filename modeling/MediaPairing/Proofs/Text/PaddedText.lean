import MediaPairing.Proofs.Machine.Record
import MediaPairing.Proofs.Text.Encoding

/-!
# Texts in padded fields

What stands in a padded field may be any bytes: text in another encoding, a character that was
cut in the middle, anything at all after the NUL. Whatever it is, a clean text is read from it.
The reading and the trimming do not get in each other's way: a gap is shown by a character that
is neither blank nor NUL, and a text that is clean passes both as it is.

* `Utf8.mem_of_mem_pieces`: a character is read from bytes that were there, so a NUL character
  comes from a NUL byte alone.
* `paddedText_encode`: the text that is read of well-formed bytes.
* `paddedText_clean`: what can be said of the text that is read of any bytes.
-/

namespace MediaPairing

/-! ## The bytes before the NUL -/

theorem beforeNul_eq_self {bs : Bytes} (h : 0 ∉ bs) : beforeNul bs = bs := by
  have happend := beforeNul_append h 0
  rw [List.replicate_zero, List.append_nil] at happend
  exact happend

theorem zero_not_mem_beforeNul (bs : Bytes) : 0 ∉ beforeNul bs := by
  intro hzero
  have hkept := List.mem_takeWhile_imp hzero
  simp at hkept

/-! ## What is read -/

namespace Utf8

/-- The first character that is read, or one after it, with the bytes that it is read from. -/
theorem mem_of_mem_cons_pieces {c c' : Char} {head rest : Bytes}
    (h : some c ∈ some c' :: pieces rest) (hhead : String.utf8EncodeChar c' = head)
    (hrest : some c ∈ pieces rest → ∀ byte ∈ String.utf8EncodeChar c, byte ∈ rest) :
    ∀ byte ∈ String.utf8EncodeChar c, byte ∈ head ++ rest := by
  intro byte hbyte
  rcases List.mem_cons.mp h with heq | hmem
  · cases heq
    rw [hhead] at hbyte
    exact List.mem_append_left rest hbyte
  · exact List.mem_append_right head (hrest hmem byte hbyte)

/-- A character comes from its own bytes. -/
theorem mem_of_mem_pieces {bs : Bytes} {c : Char} (h : some c ∈ pieces bs) :
    ∀ byte ∈ String.utf8EncodeChar c, byte ∈ bs := by
  fun_induction pieces bs with
  | case1 => cases h
  | case2 b rest hb ih => exact mem_of_mem_cons_pieces h (utf8EncodeChar_oneByte hb) ih
  | case4 b hnot hb c rest hc ih =>
    exact mem_of_mem_cons_pieces h (utf8EncodeChar_twoBytes hb hc) ih
  | case9 b hone htwo hb c d rest hc hd ih =>
    exact mem_of_mem_cons_pieces h (utf8EncodeChar_threeBytes hb hc hd) ih
  | case18 b hone htwo hthree hb c d e rest hc hd he ih =>
    exact mem_of_mem_cons_pieces h (utf8EncodeChar_fourBytes hb hc hd he) ih
  | _ =>
    -- at a gap the reading goes on with a later part of the bytes
    intro byte hbyte
    grind

theorem zero_not_mem_decodeLossy {bs : Bytes} (h : 0 ∉ bs) :
    '\x00' ∉ (decodeLossy bs).toList := by
  intro hnul
  rw [decodeLossy, String.toList_ofList] at hnul
  obtain ⟨p, hp, hshown⟩ := List.mem_map.mp hnul
  cases p with
  | none => exact absurd hshown (by decide)
  | some c =>
    obtain rfl : c = '\x00' := hshown
    exact h (mem_of_mem_pieces hp 0 (by decide))

end Utf8

/-! ## What is kept -/

theorem mem_of_mem_trim {cs : List Char} {c : Char} (h : c ∈ trim cs) : c ∈ cs := by
  obtain ⟨before, after, hcs, -, -⟩ := (isTrimmed_trim cs).between
  rw [hcs]
  exact List.mem_append_left after (List.mem_append_right before h)

theorem trim_trim (cs : List Char) : trim (trim cs) = trim cs :=
  trim_eq_self (isTrimmed_trim cs).head (isTrimmed_trim cs).last

theorem toList_paddedText (bs : Bytes) :
    (paddedText bs).toList = trim (Utf8.decodeLossy (beforeNul bs)).toList :=
  String.toList_ofList

theorem zero_not_mem_paddedText (bs : Bytes) : '\x00' ∉ (paddedText bs).toList := by
  rw [toList_paddedText]
  intro hnul
  exact Utf8.zero_not_mem_decodeLossy (zero_not_mem_beforeNul bs) (mem_of_mem_trim hnul)

theorem paddedText_of_beforeNul {bs : Bytes} {s : String} (h : beforeNul bs = Utf8.encode s) :
    paddedText bs = String.ofList (trim s.toList) := by
  rw [paddedText, h, decodeLossy_of_decode? (Utf8.decode?_encode s)]

/-- A text without NUL is trimmed, whether or not there is a NUL after it. -/
theorem paddedText_encode {s : String} (h : '\x00' ∉ s.toList) :
    paddedText (Utf8.encode s) = String.ofList (trim s.toList) := by
  apply paddedText_of_beforeNul
  apply beforeNul_eq_self
  intro hzero
  exact h (Utf8.zero_mem_encode hzero)

theorem paddedText_encode_paddedText (bs : Bytes) :
    paddedText (Utf8.encode (paddedText bs)) = paddedText bs := by
  rw [paddedText_encode (zero_not_mem_paddedText bs), toList_paddedText, trim_trim]
  rfl

/-- The text that is read of a padded field is the same whatever stands after the first NUL. There
is no NUL in it and no blank at its ends. It is the text in the field up to blanks around it, if
there is a well-formed one before the NUL, and when written into a field itself it is read from
there again. -/
theorem paddedText_clean (bs : Bytes) :
    (∀ bs' : Bytes, bs'.takeWhile (· != 0) = bs.takeWhile (· != 0) →
      paddedText bs' = paddedText bs) ∧
    '\x00' ∉ (paddedText bs).toList ∧
    (∀ c, (paddedText bs).toList.head? = some c → isBlank c = false) ∧
    (∀ c, (paddedText bs).toList.getLast? = some c → isBlank c = false) ∧
    (∀ s, bs.takeWhile (· != 0) = Utf8.encode s →
      paddedText bs = String.ofList (trim s.toList) ∧
        IsTrimmed s.toList (paddedText bs).toList) ∧
    paddedText (Utf8.encode (paddedText bs)) = paddedText bs := by
  refine ⟨?_, zero_not_mem_paddedText bs, ?_, ?_, ?_, paddedText_encode_paddedText bs⟩
  · intro bs' h
    change beforeNul bs' = beforeNul bs at h
    rw [paddedText, paddedText, h]
  · rw [toList_paddedText]
    exact (isTrimmed_trim _).head
  · rw [toList_paddedText]
    exact (isTrimmed_trim _).last
  · intro s h
    have htext := paddedText_of_beforeNul h
    refine ⟨htext, ?_⟩
    rw [htext, String.toList_ofList]
    exact isTrimmed_trim s.toList

/-- A field with a character that is cut in the middle, and blanks around it. Before the NUL of
another field with the same beginning there is a well-formed text. -/
theorem paddedText_clean_cut :
    paddedText [0x20, 0x61, 0xE2, 0x82, 0x20, 0xC2, 0xA0] = "a\uFFFD" ∧
    paddedText [0x20, 0x61, 0xE2, 0x82, 0x20, 0xC2, 0xA0, 0x00, 0x62] =
      paddedText [0x20, 0x61, 0xE2, 0x82, 0x20, 0xC2, 0xA0] ∧
    paddedText (Utf8.encode "a\uFFFD") = "a\uFFFD" ∧
    paddedText [0x20, 0x61, 0xC2, 0xA0, 0x00, 0xE2, 0x82] = "a" := by
  have hread : paddedText [0x20, 0x61, 0xE2, 0x82, 0x20, 0xC2, 0xA0] = "a\uFFFD" := by decide
  obtain ⟨hcut, -, -, -, -, hagain⟩ :=
    paddedText_clean [0x20, 0x61, 0xE2, 0x82, 0x20, 0xC2, 0xA0]
  rw [hread] at hagain
  obtain ⟨-, -, -, -, htext, -⟩ := paddedText_clean [0x20, 0x61, 0xC2, 0xA0, 0x00, 0xE2, 0x82]
  exact ⟨hread, hcut _ rfl, hagain, (htext " a\u00A0" (by decide)).1⟩

end MediaPairing
