import MediaPairing.PairingError
import MediaPairing.Proofs.Text.Encoding

/-!
# Pixel format codes as texts and as numbers

A text of one to four ASCII characters is read as a code, with spaces after it. A code is shown
as four characters, with full stops for the bytes that cannot be shown. Each way loses
something, the reading how many spaces there were and the showing what the stops stand for, so
that a code comes back from its text exactly if all its bytes can be shown. The number form
loses nothing.

* `FourCc.SpellsCode`, `FourCc.padded`: the texts that are read, and the bytes that they give.
* `FourCc.parse_eq_ok_iff`, `FourCc.parse_eq_error_iff`: which texts are read, and as what.
* `FourCc.readable`: the code that is read from the text of a code (`FourCc.parse_text`).
* `FourCc.text_reads_back`: how the forms of a code are connected.
-/

namespace MediaPairing

namespace FourCc

/-! ## Reading -/

/-- The text has one to four bytes, all of them ASCII. -/
structure SpellsCode (s : String) : Prop where
  length_pos : 0 < (Utf8.encode s).length
  length_le : (Utf8.encode s).length ≤ 4
  ascii : ∀ byte ∈ Utf8.encode s, byte < 0x80

/-- The bytes of a text, with spaces after them up to four. -/
def padded (s : String) : Bytes :=
  Utf8.encode s ++ List.replicate (4 - (Utf8.encode s).length) 0x20

theorem bytes_inj {f g : FourCc} : f.bytes = g.bytes ↔ f = g := by
  constructor
  · intro h
    obtain ⟨a, b, c, d⟩ := f
    obtain ⟨a', b', c', d'⟩ := g
    simpa [bytes] using h
  · intro h
    rw [h]

theorem ofBytes?_eq_some_iff {bs : Bytes} {f : FourCc} :
    ofBytes? bs = some f ↔
      0 < bs.length ∧ bs.length ≤ 4 ∧ f.bytes = bs ++ List.replicate (4 - bs.length) 0x20 := by
  have hpad : ∀ g : FourCc, some g = some f ↔ f.bytes = g.bytes := by
    intro g
    rw [Option.some_inj, bytes_inj, eq_comm]
  match bs with
  | [] => simp [ofBytes?]
  | [a] => simp [ofBytes?, hpad, bytes, List.replicate]
  | [a, b] => simp [ofBytes?, hpad, bytes, List.replicate]
  | [a, b, c] => simp [ofBytes?, hpad, bytes]
  | [a, b, c, d] => simp [ofBytes?, hpad, bytes]
  | a :: b :: c :: d :: e :: rest => simp [ofBytes?]

theorem ofString?_eq_some_iff {s : String} {f : FourCc} :
    ofString? s = some f ↔ SpellsCode s ∧ f.bytes = padded s := by
  unfold ofString? padded
  dsimp only
  by_cases hascii : (Utf8.encode s).all (· < 0x80) = true
  · have hbytes : ∀ byte ∈ Utf8.encode s, byte < 0x80 := by simpa using hascii
    rw [if_pos hascii, ofBytes?_eq_some_iff]
    constructor
    · rintro ⟨hpos, hle, hf⟩
      exact ⟨⟨hpos, hle, hbytes⟩, hf⟩
    · rintro ⟨hs, hf⟩
      exact ⟨hs.length_pos, hs.length_le, hf⟩
  · rw [if_neg hascii]
    constructor
    · intro h
      cases h
    · rintro ⟨hs, -⟩
      exact absurd (by simpa using hs.ascii) hascii

theorem length_padded {s : String} (h : SpellsCode s) : (padded s).length = 4 := by
  have hle := h.length_le
  rw [padded, List.length_append, List.length_replicate]
  omega

/-- Four bytes are those of a code. -/
theorem exists_bytes_eq {bs : Bytes} (h : bs.length = 4) : ∃ f : FourCc, f.bytes = bs := by
  match bs with
  | [a, b, c, d] => exact ⟨⟨a, b, c, d⟩, rfl⟩

theorem parse_eq_ok_iff {s : String} {f : FourCc} :
    parse s = .ok f ↔ SpellsCode s ∧ f.bytes = padded s := by
  rw [← ofString?_eq_some_iff]
  unfold parse
  cases ofString? s <;> simp

theorem exists_parse_eq_ok_iff {s : String} : (∃ f, parse s = .ok f) ↔ SpellsCode s := by
  constructor
  · rintro ⟨f, hf⟩
    exact (parse_eq_ok_iff.mp hf).1
  · intro hs
    obtain ⟨f, hf⟩ := exists_bytes_eq (length_padded hs)
    exact ⟨f, parse_eq_ok_iff.mpr ⟨hs, hf⟩⟩

/-- What is not read is complained of. -/
theorem parse_eq_error_iff {s : String} {e : PairingError} :
    parse s = .error e ↔ ¬SpellsCode s ∧ e = .invalidFourCc s := by
  rw [← exists_parse_eq_ok_iff]
  unfold parse
  cases ofString? s with
  | none => simp [eq_comm]
  | some f => simp

/-! ## Numbers -/

theorem toWord_ofWord (w : UInt32) : (ofWord w).toWord = w := by
  have hw : w.toNat < 4294967296 := w.toNat_lt
  apply UInt32.toNat_inj.mp
  simp only [ofWord, toWord, UInt8.toNat_ofNat', UInt32.toNat_ofNat']
  omega

theorem ofWord_toWord (f : FourCc) : ofWord f.toWord = f := by
  obtain ⟨a, b, c, d⟩ := f
  have ha : a.toNat < 256 := a.toNat_lt
  have hb : b.toNat < 256 := b.toNat_lt
  have hc : c.toNat < 256 := c.toNat_lt
  have hd : d.toNat < 256 := d.toNat_lt
  simp only [ofWord, toWord, UInt32.toNat_ofNat', mk.injEq, ← UInt8.toNat_inj,
    UInt8.toNat_ofNat']
  omega

/-! ## Showing -/

/-- A byte as it is shown: itself, or a full stop. -/
def shownByte (b : UInt8) : UInt8 := if isShown b then b else 0x2E

/-- The code with full stops in place of the bytes that cannot be shown. -/
def readable (f : FourCc) : FourCc where
  byte₀ := shownByte f.byte₀
  byte₁ := shownByte f.byte₁
  byte₂ := shownByte f.byte₂
  byte₃ := shownByte f.byte₃

theorem isShown_iff {b : UInt8} : isShown b = true ↔ 0x20 ≤ b ∧ b ≤ 0x7E := by
  rw [isShown, Bool.and_eq_true, decide_eq_true_iff, decide_eq_true_iff]

theorem isShown_shownByte (b : UInt8) : isShown (shownByte b) = true := by
  unfold shownByte
  by_cases h : isShown b = true
  · rw [if_pos h]
    exact h
  · rw [if_neg h]
    rfl

theorem shownByte_eq_iff {b : UInt8} : shownByte b = b ↔ 0x20 ≤ b ∧ b ≤ 0x7E := by
  rw [← isShown_iff]
  constructor
  · intro h
    rw [← h]
    exact isShown_shownByte b
  · intro h
    rw [shownByte, if_pos h]

/-- What stands for a byte is an ASCII character. -/
theorem shownByte_lt (b : UInt8) : shownByte b < 0x80 := by
  have hle := (isShown_iff.mp (isShown_shownByte b)).2
  simp only [UInt8.le_iff_toNat_le, UInt8.lt_iff_toNat_lt, UInt8.reduceToNat] at hle ⊢
  omega

theorem shown_eq (b : UInt8) : shown b = Utf8.oneByte (shownByte b) := by
  unfold shown shownByte
  by_cases h : isShown b = true
  · rw [if_pos h, if_pos h]
    rfl
  · rw [if_neg h, if_neg h]
    rfl

theorem utf8EncodeChar_shown (b : UInt8) : String.utf8EncodeChar (shown b) = [shownByte b] := by
  rw [shown_eq]
  exact Utf8.utf8EncodeChar_oneByte (shownByte_lt b)

theorem encode_text (f : FourCc) : Utf8.encode f.text = f.readable.bytes := by
  simp [Utf8.encode, text, bytes, readable, utf8EncodeChar_shown]

/-- The text of a code spells a code. -/
theorem spellsCode_text (f : FourCc) : SpellsCode f.text where
  length_pos := by
    rw [encode_text]
    exact Nat.succ_pos 3
  length_le := by
    rw [encode_text]
    exact Nat.le_refl 4
  ascii := by
    intro byte hbyte
    rw [encode_text] at hbyte
    simp only [bytes, readable, List.mem_cons, List.not_mem_nil, or_false] at hbyte
    rcases hbyte with rfl | rfl | rfl | rfl
    all_goals exact shownByte_lt _

theorem parse_text (f : FourCc) : parse f.text = .ok f.readable := by
  apply parse_eq_ok_iff.mpr
  refine ⟨spellsCode_text f, ?_⟩
  rw [padded, encode_text]
  exact (List.append_nil _).symm

theorem readable_eq_iff {f : FourCc} :
    f.readable = f ↔ ∀ byte ∈ f.bytes, 0x20 ≤ byte ∧ byte ≤ 0x7E := by
  obtain ⟨a, b, c, d⟩ := f
  simp only [readable, bytes, mk.injEq, shownByte_eq_iff, List.forall_mem_cons,
    List.not_mem_nil, false_implies, implies_true, and_true]

theorem text_readable (f : FourCc) : f.readable.text = f.text := by
  have hshown : ∀ b, shown (shownByte b) = shown b := by
    intro b
    rw [shown_eq, shown_eq, shownByte_eq_iff.mpr (isShown_iff.mp (isShown_shownByte b))]
  simp [text, bytes, readable, hshown]

/-! ## All forms -/

/-- A text is read as a code if it has one to four bytes, all of them ASCII, and the code is
those bytes with spaces after them; any other text is complained of. Two texts give the same
code exactly if they are the same with the spaces. The number form and the code determine each
other. The text of a code can always be read. It gives the code back exactly if all its bytes
lie between a space and a tilde, and in any case a code with the same text. -/
theorem text_reads_back :
    (∀ s, (∃ f, parse s = .ok f) ↔ SpellsCode s) ∧
    (∀ s f, parse s = .ok f → f.bytes = padded s) ∧
    (∀ s e, parse s = .error e → e = .invalidFourCc s) ∧
    (∀ s t f g, parse s = .ok f → parse t = .ok g → (f = g ↔ padded s = padded t)) ∧
    (∀ w, (ofWord w).toWord = w) ∧ (∀ f : FourCc, ofWord f.toWord = f) ∧
    ∀ f : FourCc, ∃ g, parse f.text = .ok g ∧
      (g = f ↔ ∀ byte ∈ f.bytes, 0x20 ≤ byte ∧ byte ≤ 0x7E) ∧ g.text = f.text := by
  refine ⟨fun s => exists_parse_eq_ok_iff, fun s f hf => (parse_eq_ok_iff.mp hf).2,
    fun s e he => (parse_eq_error_iff.mp he).2, ?_, toWord_ofWord, ofWord_toWord, fun f => ?_⟩
  · intro s t f g hf hg
    rw [← bytes_inj, (parse_eq_ok_iff.mp hf).2, (parse_eq_ok_iff.mp hg).2]
  · exact ⟨f.readable, parse_text f, readable_eq_iff, text_readable f⟩

/-- A code with a control byte and a byte that is not ASCII comes back with two stops. -/
theorem text_reads_back_unshown :
    parse "Y8" = .ok ⟨0x59, 0x38, 0x20, 0x20⟩ ∧
    parse "Y8 " = .ok ⟨0x59, 0x38, 0x20, 0x20⟩ ∧
    padded "Y8" = padded "Y8 " ∧
    ∃ g, parse (text ⟨0x59, 0x0A, 0xE9, 0x20⟩) = .ok g ∧
      g ≠ ⟨0x59, 0x0A, 0xE9, 0x20⟩ ∧ g.text = "Y.. " := by
  obtain ⟨-, -, -, hequal, -, -, hread⟩ := text_reads_back
  have hshort : parse "Y8" = .ok ⟨0x59, 0x38, 0x20, 0x20⟩ := rfl
  have hlong : parse "Y8 " = .ok ⟨0x59, 0x38, 0x20, 0x20⟩ := rfl
  obtain ⟨g, hg, hsame, htext⟩ := hread ⟨0x59, 0x0A, 0xE9, 0x20⟩
  refine ⟨hshort, hlong, (hequal _ _ _ _ hshort hlong).mp rfl, g, hg, ?_, htext⟩
  intro h
  exact absurd (hsame.mp h) (by decide)

end FourCc

end MediaPairing
