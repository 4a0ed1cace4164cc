import ProfileFilter.Text.Percent
import ProfileFilter.Proofs.Text.Utf8

/-!
# Percent encoding is a bijection

Encoding goes from the texts without lone surrogates onto the *canonical* texts:
unreserved characters and escapes in capitals, no escape where an unreserved character
would do, and well-formed UTF-8 underneath. Decoding is its inverse there.

`IsSpelling` relates a text to the bytes it spells without mentioning either direction.
It determines the text from the bytes and the bytes from the text, which is what both
round trips come down to.
-/

namespace ProfileFilter

namespace Percent

/-- The characters that stand for themselves. -/
def unreserved : Text :=
  "ABCDEFGHIJKLMNOPQRSTUVWXYZabcdefghijklmnopqrstuvwxyz0123456789-_.!~*'()"

/-- The text spells the bytes: unreserved characters stand for themselves, every other byte
is escaped. -/
inductive IsSpelling : Text → List UInt8 → Prop where
  /-- nothing -/
  | nil : IsSpelling [] []
  /-- an unreserved character -/
  | safe {c : CodePoint} {t : Text} {bytes : List UInt8} : c ∈ unreserved →
      IsSpelling t bytes → IsSpelling (c :: t) (c.val.toUInt8 :: bytes)
  /-- an escape of a byte that is not the code of an unreserved character -/
  | escape {b : UInt8} {t : Text} {bytes : List UInt8} :
      Fin.ofNat _ b.toNat ∉ unreserved → IsSpelling t bytes →
      IsSpelling ('%' :: CodePoint.hexDigit (b.toNat / 16) :: CodePoint.hexDigit (b.toNat % 16)
        :: t) (b :: bytes)

/-- A text that spells well-formed UTF-8. -/
def IsCanonical (t : Text) : Prop := ∃ bytes, IsSpelling t bytes ∧ Utf8.WellFormed bytes

/-! ## Safe characters -/

/-- The codes of the safe characters. -/
theorem isSafe_iff {c : CodePoint} :
    isSafe c = true ↔
      (0x41 ≤ c.val ∧ c.val ≤ 0x5A) ∨ (0x61 ≤ c.val ∧ c.val ≤ 0x7A) ∨
        (0x30 ≤ c.val ∧ c.val ≤ 0x39) ∨
        c.val ∈ [0x2D, 0x5F, 0x2E, 0x21, 0x7E, 0x2A, 0x27, 0x28, 0x29] := by
  have hmarks : safeMarks.contains c = true ↔
      c.val ∈ [0x2D, 0x5F, 0x2E, 0x21, 0x7E, 0x2A, 0x27, 0x28, 0x29] := by
    rw [show safeMarks = [0x2D, 0x5F, 0x2E, 0x21, 0x7E, 0x2A, 0x27, 0x28, 0x29] from rfl]
    simp only [List.contains_iff_mem, List.mem_cons, List.not_mem_nil, or_false, Fin.ext_iff]
    exact Iff.rfl
  simp only [isSafe, CodePoint.isAsciiLetter, CodePoint.isAsciiUpper, CodePoint.isAsciiLower,
    CodePoint.isAsciiDigit, Bool.or_eq_true, Bool.and_eq_true, decide_eq_true_eq, hmarks]
  tauto

theorem val_lt_of_isSafe {c : CodePoint} (h : isSafe c = true) : c.val < 0x80 := by
  rw [isSafe_iff] at h
  simp only [List.mem_cons, List.not_mem_nil, or_false] at h
  omega

/-- The safe characters are the unreserved ones; the table below U+0080 is checked. -/
theorem isSafe_iff_mem {c : CodePoint} : isSafe c = true ↔ c ∈ unreserved := by
  have htable : ∀ n < 0x80, isSafe (Fin.ofNat _ n) = unreserved.contains (Fin.ofNat _ n) := by
    decide +kernel
  have hascii : unreserved.all (fun d => decide (d.val < 0x80)) = true := by
    decide +kernel
  rcases Nat.lt_or_ge c.val 0x80 with h | h
  · have hc := htable c.val h
    rw [Fin.ofNat_val_eq_self] at hc
    rw [hc, List.contains_iff_mem]
  · constructor
    · intro hsafe
      exact absurd (val_lt_of_isSafe hsafe) (Nat.not_lt.mpr h)
    · intro hmem
      exact absurd (of_decide_eq_true (List.all_eq_true.mp hascii c hmem)) (Nat.not_lt.mpr h)

theorem isSafe_eq_false_iff {c : CodePoint} : isSafe c = false ↔ c ∉ unreserved := by
  rw [← Bool.not_eq_true, isSafe_iff_mem]

theorem ne_percent_of_isSafe {c : CodePoint} (h : isSafe c = true) : c ≠ ('%' : CodePoint) := by
  rintro rfl
  exact absurd h (by decide)

theorem hexDigit_safe : ∀ n < 16, isSafe (CodePoint.hexDigit n) = true := by
  decide

theorem hexValue?_hexDigit : ∀ n < 16, (CodePoint.hexDigit n).hexValue? = some n := by
  decide

/-- The code of a safe character is that character. -/
theorem ofNat_toUInt8 {c : CodePoint} (h : c.val < 0x80) :
    (Fin.ofNat _ c.val.toUInt8.toNat : CodePoint) = c :=
  Utf8.ofNat_eq_of_val (Utf8.toNat_toUInt8 (by omega))

/-! ## The spelling of bytes -/

/-- The spelling of one byte. -/
def spellByte (b : UInt8) : Text :=
  if isSafe (Fin.ofNat _ b.toNat) then [Fin.ofNat _ b.toNat] else escapeByte b

theorem spellByte_toUInt8 {c : CodePoint} (h : isSafe c = true) :
    spellByte c.val.toUInt8 = [c] := by
  rw [spellByte, ofNat_toUInt8 (val_lt_of_isSafe h), if_pos h]

theorem spellByte_of_not_safe {b : UInt8} (h : isSafe (Fin.ofNat _ b.toNat) = false) :
    spellByte b = escapeByte b := by
  rw [spellByte, h, if_neg Bool.false_ne_true]

theorem isSpelling_spellByte {t : Text} {bytes : List UInt8} (b : UInt8)
    (h : IsSpelling t bytes) : IsSpelling (spellByte b ++ t) (b :: bytes) := by
  cases hsafe : isSafe (Fin.ofNat _ b.toNat) with
  | false =>
    rw [spellByte_of_not_safe hsafe]
    exact .escape (isSafe_eq_false_iff.mp hsafe) h
  | true =>
    rw [spellByte, hsafe, if_pos rfl]
    have hb : (Fin.ofNat _ b.toNat : CodePoint).val = b.toNat :=
      Nat.mod_eq_of_lt (lt_trans b.toNat_lt (by decide))
    have hspell := IsSpelling.safe (isSafe_iff_mem.mp hsafe) h
    rwa [hb, Utf8.eq_toUInt8 rfl] at hspell

/-- **Bytes have exactly one spelling.** -/
theorem isSpelling_iff {t : Text} {bytes : List UInt8} :
    IsSpelling t bytes ↔ t = bytes.flatMap spellByte := by
  constructor
  · intro h
    induction h with
    | nil => rfl
    | safe hc _ ih =>
      rw [List.flatMap_cons, spellByte_toUInt8 (isSafe_iff_mem.mpr hc), ih, List.singleton_append]
    | escape hb _ ih =>
      rw [List.flatMap_cons, spellByte_of_not_safe (isSafe_eq_false_iff.mpr hb), ih]
      rfl
  · rintro rfl
    induction bytes with
    | nil => exact .nil
    | cons b rest ih => exact isSpelling_spellByte b ih

/-! ## Encoding spells the bytes of the text -/

/-- The bytes of a code point that takes more than one are no codes of safe characters. -/
theorem not_safe_of_mem_encodeCodePoint {c : CodePoint} (hc : 0x80 ≤ c.val) {b : UInt8}
    (hb : b ∈ Utf8.encodeCodePoint c) : isSafe (Fin.ofNat _ b.toNat) = false := by
  have hc' := c.isLt
  -- lead bytes and tail bytes both have their top bit set
  have high : 0x80 ≤ b.toNat := by
    have toNat : ∀ n : Nat, 0x80 ≤ n → n < 0x100 → b = n.toUInt8 → 0x80 ≤ b.toNat := by
      rintro n hn hn' rfl
      rwa [Utf8.toNat_toUInt8 hn']
    rcases Nat.lt_or_ge c.val 0x800 with h₂ | h₂
    · rw [Utf8.encodeCodePoint_two hc h₂] at hb
      simp only [List.mem_cons, List.not_mem_nil, or_false] at hb
      rcases hb with hb | hb <;> exact toNat _ (by omega) (by omega) hb
    rcases Nat.lt_or_ge c.val 0x10000 with h₃ | h₃
    · rw [Utf8.encodeCodePoint_three h₂ h₃] at hb
      simp only [List.mem_cons, List.not_mem_nil, or_false] at hb
      rcases hb with hb | hb | hb <;> exact toNat _ (by omega) (by omega) hb
    · rw [Utf8.encodeCodePoint_four h₃] at hb
      simp only [List.mem_cons, List.not_mem_nil, or_false] at hb
      rcases hb with hb | hb | hb | hb <;> exact toNat _ (by omega) (by omega) hb
  rw [← Bool.not_eq_true]
  intro hsafe
  have hlt := val_lt_of_isSafe hsafe
  have hval : (Fin.ofNat _ b.toNat : CodePoint).val = b.toNat :=
    Nat.mod_eq_of_lt (lt_trans b.toNat_lt (by decide))
  omega

theorem encodeCodePoint_eq (c : CodePoint) :
    encodeCodePoint c = (Utf8.encodeCodePoint c).flatMap spellByte := by
  rw [encodeCodePoint]
  split_ifs with hsafe
  · rw [Utf8.encodeCodePoint_one (val_lt_of_isSafe hsafe), List.flatMap_singleton,
      spellByte_toUInt8 hsafe]
  · refine List.flatMap_congr fun b hb => ?_
    rw [spellByte_of_not_safe]
    rcases Nat.lt_or_ge c.val 0x80 with h | h
    · rw [Utf8.encodeCodePoint_one h] at hb
      rw [List.mem_singleton.mp hb, ofNat_toUInt8 h]
      exact Bool.eq_false_iff.mpr hsafe
    · exact not_safe_of_mem_encodeCodePoint h hb

/-- **Encoding spells the UTF-8 bytes.** -/
theorem isSpelling_encode (t : Text) :
    IsSpelling (encode t) (t.flatMap Utf8.encodeCodePoint) := by
  rw [isSpelling_iff, List.flatMap_assoc, encode]
  exact List.flatMap_congr fun c _ => encodeCodePoint_eq c

/-! ## Decoding reads the bytes off -/

/-- Anything but a percent sign stands for its own code. -/
theorem unescape_cons {c : CodePoint} (h : c ≠ ('%' : CodePoint)) (t : Text) :
    unescape (c :: t) = c.val.toUInt8 :: unescape t := by
  match t with
  | [] => rfl
  | [_] => rfl
  | a :: b :: rest => rw [unescape, if_neg (by simpa using h)]

theorem unescape_escape (b : UInt8) (t : Text) :
    unescape ('%' :: CodePoint.hexDigit (b.toNat / 16) :: CodePoint.hexDigit (b.toNat % 16) :: t)
      = b :: unescape t := by
  have hb := b.toNat_lt
  rw [unescape, if_pos (beq_self_eq_true _), hexValue?_hexDigit _ (by omega),
    hexValue?_hexDigit _ (by omega)]
  exact List.cons_eq_cons.mpr ⟨Utf8.eq_toUInt8 (by omega), rfl⟩

theorem IsSpelling.unescape_eq {t : Text} {bytes : List UInt8} (h : IsSpelling t bytes) :
    unescape t = bytes := by
  induction h with
  | nil => rfl
  | safe hc _ ih => rw [unescape_cons (ne_percent_of_isSafe (isSafe_iff_mem.mpr hc)), ih]
  | escape _ _ ih => rw [unescape_escape, ih]

/-- A spelling is made of safe characters and percent signs. -/
theorem IsSpelling.forall_mem {t : Text} {bytes : List UInt8} (h : IsSpelling t bytes) :
    ∀ c ∈ t, isSafe c = true ∨ c = ('%' : CodePoint) := by
  induction h with
  | nil => exact fun c hc => absurd hc List.not_mem_nil
  | safe hd _ ih => exact List.forall_mem_cons.mpr ⟨.inl (isSafe_iff_mem.mpr hd), ih⟩
  | @escape b t bytes _ _ ih =>
    have hb := b.toNat_lt
    exact List.forall_mem_cons.mpr ⟨.inr rfl, List.forall_mem_cons.mpr
      ⟨.inl (hexDigit_safe _ (by omega)), List.forall_mem_cons.mpr
        ⟨.inl (hexDigit_safe _ (by omega)), ih⟩⟩⟩

/-- Whatever the text, its encoded form can be encoded: it is ASCII. -/
theorem isEncodable_encode (t : Text) : (encode t).isEncodable = true := by
  rw [Text.isEncodable_iff]
  intro c hc
  rw [CodePoint.isSurrogate_eq_false_iff]
  rcases (isSpelling_encode t).forall_mem c hc with hsafe | rfl
  · have hlt := val_lt_of_isSafe hsafe
    omega
  · exact .inl (by decide)

/-- A text of ASCII characters is decoded as a single run. -/
theorem decodeFrom_of_ascii {t : Text} (h : ∀ c ∈ t, c.isAscii = true) (run : Text) :
    decodeFrom run t = Utf8.decodeReplacing (unescape (run.reverse ++ t)) := by
  induction t generalizing run with
  | nil => rw [decodeFrom, List.append_nil]
  | cons c rest ih =>
    obtain ⟨hc, hrest⟩ := List.forall_mem_cons.mp h
    rw [decodeFrom, if_pos hc, ih hrest, List.reverse_cons, List.append_assoc,
      List.singleton_append]

/-- Decoding a spelling decodes the bytes it spells. -/
theorem IsSpelling.decode_eq {t : Text} {bytes : List UInt8} (h : IsSpelling t bytes) :
    decode t = Utf8.decodeReplacing bytes := by
  have hascii : ∀ c ∈ t, c.isAscii = true := by
    intro c hc
    rcases h.forall_mem c hc with hsafe | rfl
    · exact decide_eq_true (val_lt_of_isSafe hsafe)
    · rfl
  rw [decode, decodeFrom_of_ascii hascii, List.reverse_nil, List.nil_append, h.unescape_eq]

/-! ## The round trips -/

theorem encode?_eq_some_iff {s e : Text} :
    encode? s = some e ↔ s.isEncodable = true ∧ encode s = e := by
  rw [encode?]
  split_ifs with h
  · rw [Option.some.injEq, h]
    exact ⟨fun he => ⟨rfl, he⟩, And.right⟩
  · exact ⟨fun he => absurd he (by simp), fun he => absurd he.1 h⟩

/-- **Decoding undoes encoding.** -/
theorem decode_encode {s : Text} (h : s.isEncodable = true) : decode (encode s) = s := by
  rw [(isSpelling_encode s).decode_eq, Utf8.decodeReplacing_encode h]

/-- The canonical texts are the encoded ones. -/
theorem isCanonical_iff {e : Text} : IsCanonical e ↔ ∃ s, encode? s = some e := by
  simp only [encode?_eq_some_iff]
  constructor
  · rintro ⟨bytes, hspell, hwell⟩
    obtain ⟨s, hs, rfl⟩ := Utf8.wellFormed_iff.mp hwell
    refine ⟨s, hs, ?_⟩
    rw [isSpelling_iff.mp hspell, isSpelling_iff.mp (isSpelling_encode s)]
  · rintro ⟨s, hs, rfl⟩
    exact ⟨_, isSpelling_encode s, Utf8.wellFormed_iff.mpr ⟨s, hs, rfl⟩⟩

/-- The characters that delimit parts of a query or of a quoted shell word. -/
def delimiters : Text := "&=#+\"$\\`"

/-- No delimiter and no blank is safe, or a percent sign. -/
theorem not_safe_of_delimiter {c : CodePoint} (h : c ∈ delimiters ∨ c.isBlank = true) :
    isSafe c = false ∧ c ≠ ('%' : CodePoint) := by
  rcases h with h | h
  · have hall : delimiters.all (fun d => !isSafe d && d != ('%' : CodePoint)) = true := by
      decide
    simpa using List.all_eq_true.mp hall c h
  · refine ⟨?_, ?_⟩
    · rw [← Bool.not_eq_true, isSafe_iff]
      simp only [CodePoint.isBlank, Bool.or_eq_true, Bool.and_eq_true, decide_eq_true_eq,
        beq_iff_eq] at h
      simp only [List.mem_cons, List.not_mem_nil, or_false]
      omega
    · rintro rfl
      exact absurd h (by decide)

/-- **Percent encoding is a bijection onto the canonical texts.** It is undefined exactly on
the texts with a lone surrogate; decoding undoes it; the encoded texts are the canonical
ones, and decoding and encoding one of them again gives it back. So no two texts share
their encoded form, and no delimiter or blank occurs in one. -/
theorem encode?_bijective :
    (∀ s : Text, encode? s = none ↔ ∃ c ∈ s, c.isSurrogate = true) ∧
      (∀ s e : Text, encode? s = some e → decode e = s) ∧
      (∀ e : Text, (∃ s, encode? s = some e) ↔ IsCanonical e) ∧
      (∀ e : Text, IsCanonical e → encode? (decode e) = some e) ∧
      (∀ s s' e : Text, encode? s = some e → encode? s' = some e → s = s') ∧
      ∀ s e : Text, encode? s = some e → ∀ c ∈ e, c ∉ delimiters ∧ c.isBlank = false := by
  have undo : ∀ s e : Text, encode? s = some e → decode e = s := by
    intro s e he
    obtain ⟨hs, rfl⟩ := encode?_eq_some_iff.mp he
    exact decode_encode hs
  refine ⟨fun s => ?_, undo, fun e => isCanonical_iff.symm, ?_, ?_, ?_⟩
  · rw [← Text.not_isEncodable_iff, encode?]
    split_ifs with h <;> simp [h]
  · intro e he
    obtain ⟨s, hs⟩ := isCanonical_iff.mp he
    rw [undo s e hs, hs]
  · intro s s' e hs hs'
    rw [← undo s e hs, undo s' e hs']
  · intro s e he c hc
    obtain ⟨-, rfl⟩ := encode?_eq_some_iff.mp he
    have hkind := (isSpelling_encode s).forall_mem c hc
    by_contra hbad
    have hdelim : c ∈ delimiters ∨ c.isBlank = true := by
      rw [not_and_or, not_not, Bool.not_eq_false] at hbad
      exact hbad
    obtain ⟨hsafe, hpercent⟩ := not_safe_of_delimiter hdelim
    rcases hkind with h | h
    · rw [hsafe] at h
      cases h
    · exact hpercent h

example : encode? "50% é" = some "50%25%20%C3%A9" := by decide +kernel

end Percent

end ProfileFilter
