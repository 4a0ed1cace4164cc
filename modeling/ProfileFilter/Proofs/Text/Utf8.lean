import ProfileFilter.Text.Utf8
import ProfileFilter.Proofs.Text.Encodable
import Mathlib.Data.Nat.Basic
import Mathlib.Tactic.SplitIfs

/-!
# Well-formed UTF-8

The byte sequences that stand for a code point, as a table: a range for the first byte,
and for each first byte the ranges of the bytes after it. The table says nothing about
how code points are computed.

Main statements: the bytes of texts are exactly the well-formed ones (`wellFormed_iff`),
and the replacing decoder, which never fails, undoes encoding (`decodeReplacing_encode`).
-/

namespace ProfileFilter

namespace Utf8

/-- A byte that only continues a sequence. -/
def IsTail (b : UInt8) : Prop := 0x80 ≤ b.toNat ∧ b.toNat ≤ 0xBF

/-- The byte sequences that stand for one code point. -/
inductive IsSequence : List UInt8 → Prop where
  /-- one byte -/
  | one {a : UInt8} : a.toNat < 0x80 → IsSequence [a]
  /-- two bytes -/
  | two {a b : UInt8} : 0xC2 ≤ a.toNat → a.toNat ≤ 0xDF → IsTail b → IsSequence [a, b]
  /-- three bytes, the least code points -/
  | threeLow {a b c : UInt8} : a.toNat = 0xE0 → 0xA0 ≤ b.toNat → b.toNat ≤ 0xBF → IsTail c →
      IsSequence [a, b, c]
  /-- three bytes below the surrogates -/
  | threeBelow {a b c : UInt8} : 0xE1 ≤ a.toNat → a.toNat ≤ 0xEC → IsTail b → IsTail c →
      IsSequence [a, b, c]
  /-- three bytes, the last ones before the surrogates -/
  | threeEdge {a b c : UInt8} : a.toNat = 0xED → 0x80 ≤ b.toNat → b.toNat ≤ 0x9F → IsTail c →
      IsSequence [a, b, c]
  /-- three bytes above the surrogates -/
  | threeAbove {a b c : UInt8} : 0xEE ≤ a.toNat → a.toNat ≤ 0xEF → IsTail b → IsTail c →
      IsSequence [a, b, c]
  /-- four bytes, the least code points -/
  | fourLow {a b c d : UInt8} : a.toNat = 0xF0 → 0x90 ≤ b.toNat → b.toNat ≤ 0xBF → IsTail c →
      IsTail d → IsSequence [a, b, c, d]
  /-- four bytes in between -/
  | fourMiddle {a b c d : UInt8} : 0xF1 ≤ a.toNat → a.toNat ≤ 0xF3 → IsTail b → IsTail c →
      IsTail d → IsSequence [a, b, c, d]
  /-- four bytes, the greatest code points -/
  | fourHigh {a b c d : UInt8} : a.toNat = 0xF4 → 0x80 ≤ b.toNat → b.toNat ≤ 0x8F → IsTail c →
      IsTail d → IsSequence [a, b, c, d]

/-- Bytes that are sequences of the table one after the other. -/
inductive WellFormed : List UInt8 → Prop where
  /-- no bytes -/
  | nil : WellFormed []
  /-- one sequence, and well-formed bytes after it -/
  | append {s rest : List UInt8} : IsSequence s → WellFormed rest → WellFormed (s ++ rest)

/-! ## One code point -/

theorem toNat_toUInt8 {n : Nat} (h : n < 256) : n.toUInt8.toNat = n :=
  UInt8.toNat_ofNat_of_lt' h

theorem eq_toUInt8 {n : Nat} {b : UInt8} (h : n = b.toNat) : n.toUInt8 = b := by
  subst h
  exact UInt8.ofNat_toNat

theorem encodeCodePoint_one {c : CodePoint} (h : c.val < 0x80) :
    encodeCodePoint c = [c.val.toUInt8] := by
  rw [encodeCodePoint, if_pos h]

theorem encodeCodePoint_two {c : CodePoint} (h₁ : 0x80 ≤ c.val) (h₂ : c.val < 0x800) :
    encodeCodePoint c =
      [(0xC0 + c.val / 0x40).toUInt8, (0x80 + c.val % 0x40).toUInt8] := by
  rw [encodeCodePoint, if_neg (by omega), if_pos h₂]

theorem encodeCodePoint_three {c : CodePoint} (h₁ : 0x800 ≤ c.val) (h₂ : c.val < 0x10000) :
    encodeCodePoint c =
      [(0xE0 + c.val / 0x1000).toUInt8, (0x80 + c.val / 0x40 % 0x40).toUInt8,
        (0x80 + c.val % 0x40).toUInt8] := by
  rw [encodeCodePoint, if_neg (by omega), if_neg (by omega), if_pos h₂]

theorem encodeCodePoint_four {c : CodePoint} (h : 0x10000 ≤ c.val) :
    encodeCodePoint c =
      [(0xF0 + c.val / 0x40000).toUInt8, (0x80 + c.val / 0x1000 % 0x40).toUInt8,
        (0x80 + c.val / 0x40 % 0x40).toUInt8, (0x80 + c.val % 0x40).toUInt8] := by
  rw [encodeCodePoint, if_neg (by omega), if_neg (by omega), if_neg (by omega)]

/-- What is not a surrogate is encoded by a sequence of the table. -/
theorem isSequence_encodeCodePoint {c : CodePoint} (h : c.isSurrogate = false) :
    IsSequence (encodeCodePoint c) := by
  have hc := c.isLt
  rw [CodePoint.isSurrogate_eq_false_iff] at h
  have tail : ∀ n : Nat, IsTail (0x80 + n % 0x40).toUInt8 := by
    intro n
    rw [IsTail, toNat_toUInt8 (by omega)]
    omega
  rcases Nat.lt_or_ge c.val 0x80 with h₁ | h₁
  · rw [encodeCodePoint_one h₁]
    exact .one (by rw [toNat_toUInt8 (by omega)]; exact h₁)
  rcases Nat.lt_or_ge c.val 0x800 with h₂ | h₂
  · rw [encodeCodePoint_two h₁ h₂]
    have ha := toNat_toUInt8 (show 0xC0 + c.val / 0x40 < 256 by omega)
    exact .two (by omega) (by omega) (tail _)
  rcases Nat.lt_or_ge c.val 0x10000 with h₃ | h₃
  · rw [encodeCodePoint_three h₂ h₃]
    have ha := toNat_toUInt8 (show 0xE0 + c.val / 0x1000 < 256 by omega)
    have hb := toNat_toUInt8 (show 0x80 + c.val / 0x40 % 0x40 < 256 by omega)
    -- the lead byte decides which row of the table applies
    rcases Nat.lt_or_ge c.val 0x1000 with h₄ | h₄
    · exact .threeLow (by omega) (by omega) (by omega) (tail _)
    rcases Nat.lt_or_ge c.val 0xD000 with h₅ | h₅
    · exact .threeBelow (by omega) (by omega) (tail _) (tail _)
    rcases Nat.lt_or_ge c.val 0xE000 with h₆ | h₆
    · exact .threeEdge (by omega) (by omega) (by omega) (tail _)
    · exact .threeAbove (by omega) (by omega) (tail _) (tail _)
  · rw [encodeCodePoint_four h₃]
    have ha := toNat_toUInt8 (show 0xF0 + c.val / 0x40000 < 256 by omega)
    have hb := toNat_toUInt8 (show 0x80 + c.val / 0x1000 % 0x40 < 256 by omega)
    rcases Nat.lt_or_ge c.val 0x40000 with h₄ | h₄
    · exact .fourLow (by omega) (by omega) (by omega) (tail _) (tail _)
    rcases Nat.lt_or_ge c.val 0x100000 with h₅ | h₅
    · exact .fourMiddle (by omega) (by omega) (tail _) (tail _) (tail _)
    · exact .fourHigh (by omega) (by omega) (by omega) (tail _) (tail _)

/-! Conversely, the number collected from the bytes of a sequence is encoded by them. -/

theorem exists_encode_eq_two {a b : UInt8} (ha : 0xC2 ≤ a.toNat) (ha' : a.toNat ≤ 0xDF)
    (hb : IsTail b) :
    ∃ p : CodePoint, p.val = (a.toNat - 0xC0) * 0x40 + (b.toNat - 0x80) ∧
      encodeCodePoint p = [a, b] := by
  obtain ⟨hb₁, hb₂⟩ := hb
  refine ⟨⟨(a.toNat - 0xC0) * 0x40 + (b.toNat - 0x80), by omega⟩, rfl, ?_⟩
  rw [encodeCodePoint_two (by simp only; omega) (by simp only; omega),
    eq_toUInt8 (show _ = a.toNat by simp only; omega),
    eq_toUInt8 (show _ = b.toNat by simp only; omega)]

theorem exists_encode_eq_three {a b c : UInt8} (ha : 0xE0 ≤ a.toNat) (ha' : a.toNat ≤ 0xEF)
    (hb : IsTail b) (hc : IsTail c) (hlow : a.toNat = 0xE0 → 0xA0 ≤ b.toNat) :
    ∃ p : CodePoint,
      p.val = (a.toNat - 0xE0) * 0x1000 + (b.toNat - 0x80) * 0x40 + (c.toNat - 0x80) ∧
      encodeCodePoint p = [a, b, c] := by
  obtain ⟨hb₁, hb₂⟩ := hb
  obtain ⟨hc₁, hc₂⟩ := hc
  refine ⟨⟨(a.toNat - 0xE0) * 0x1000 + (b.toNat - 0x80) * 0x40 + (c.toNat - 0x80), by omega⟩,
    rfl, ?_⟩
  rw [encodeCodePoint_three (by simp only; omega) (by simp only; omega),
    eq_toUInt8 (show _ = a.toNat by simp only; omega),
    eq_toUInt8 (show _ = b.toNat by simp only; omega),
    eq_toUInt8 (show _ = c.toNat by simp only; omega)]

theorem exists_encode_eq_four {a b c d : UInt8} (ha : 0xF0 ≤ a.toNat) (ha' : a.toNat ≤ 0xF4)
    (hb : IsTail b) (hc : IsTail c) (hd : IsTail d) (hlow : a.toNat = 0xF0 → 0x90 ≤ b.toNat)
    (hhigh : a.toNat = 0xF4 → b.toNat ≤ 0x8F) :
    ∃ p : CodePoint,
      p.val = (a.toNat - 0xF0) * 0x40000 + (b.toNat - 0x80) * 0x1000 +
        (c.toNat - 0x80) * 0x40 + (d.toNat - 0x80) ∧
      encodeCodePoint p = [a, b, c, d] := by
  obtain ⟨hb₁, hb₂⟩ := hb
  obtain ⟨hc₁, hc₂⟩ := hc
  obtain ⟨hd₁, hd₂⟩ := hd
  refine ⟨⟨(a.toNat - 0xF0) * 0x40000 + (b.toNat - 0x80) * 0x1000 + (c.toNat - 0x80) * 0x40 +
    (d.toNat - 0x80), by omega⟩, rfl, ?_⟩
  rw [encodeCodePoint_four (by simp only; omega),
    eq_toUInt8 (show _ = a.toNat by simp only; omega),
    eq_toUInt8 (show _ = b.toNat by simp only; omega),
    eq_toUInt8 (show _ = c.toNat by simp only; omega),
    eq_toUInt8 (show _ = d.toNat by simp only; omega)]

/-- Every sequence of the table encodes a code point that is not a surrogate. -/
theorem IsSequence.exists_encodeCodePoint {s : List UInt8} (h : IsSequence s) :
    ∃ p : CodePoint, p.isSurrogate = false ∧ encodeCodePoint p = s := by
  simp only [CodePoint.isSurrogate_eq_false_iff]
  -- row by row; the range of the second byte keeps the number clear of the surrogates
  cases h with
  | @one a ha =>
    refine ⟨⟨a.toNat, by omega⟩, .inl (by simp only; omega), ?_⟩
    rw [encodeCodePoint_one (by simp only; omega), eq_toUInt8 rfl]
  | two ha ha' hb =>
    obtain ⟨p, hp, he⟩ := exists_encode_eq_two ha ha' hb
    obtain ⟨hb₁, hb₂⟩ := hb
    exact ⟨p, by omega, he⟩
  | @threeLow a b c ha hb hb' hc =>
    obtain ⟨p, hp, he⟩ := exists_encode_eq_three (show 0xE0 ≤ a.toNat by omega) (by omega)
      ⟨by omega, hb'⟩ hc (fun _ => hb)
    obtain ⟨hc₁, hc₂⟩ := hc
    exact ⟨p, by omega, he⟩
  | @threeBelow a b c ha ha' hb hc =>
    obtain ⟨p, hp, he⟩ := exists_encode_eq_three (show 0xE0 ≤ a.toNat by omega) (by omega) hb hc
      (by omega)
    obtain ⟨hb₁, hb₂⟩ := hb
    obtain ⟨hc₁, hc₂⟩ := hc
    exact ⟨p, by omega, he⟩
  | @threeEdge a b c ha hb hb' hc =>
    obtain ⟨p, hp, he⟩ := exists_encode_eq_three (show 0xE0 ≤ a.toNat by omega) (by omega)
      ⟨hb, by omega⟩ hc (by omega)
    obtain ⟨hc₁, hc₂⟩ := hc
    exact ⟨p, by omega, he⟩
  | @threeAbove a b c ha ha' hb hc =>
    obtain ⟨p, hp, he⟩ := exists_encode_eq_three (show 0xE0 ≤ a.toNat by omega) ha' hb hc
      (by omega)
    obtain ⟨hb₁, hb₂⟩ := hb
    obtain ⟨hc₁, hc₂⟩ := hc
    exact ⟨p, by omega, he⟩
  | @fourLow a b c d ha hb hb' hc hd =>
    obtain ⟨p, hp, he⟩ := exists_encode_eq_four (show 0xF0 ≤ a.toNat by omega) (by omega)
      ⟨by omega, hb'⟩ hc hd (fun _ => hb) (by omega)
    exact ⟨p, by omega, he⟩
  | @fourMiddle a b c d ha ha' hb hc hd =>
    obtain ⟨p, hp, he⟩ := exists_encode_eq_four (show 0xF0 ≤ a.toNat by omega) (by omega) hb hc hd
      (by omega) (by omega)
    exact ⟨p, by omega, he⟩
  | @fourHigh a b c d ha hb hb' hc hd =>
    obtain ⟨p, hp, he⟩ := exists_encode_eq_four (show 0xF0 ≤ a.toNat by omega) (by omega)
      ⟨hb, by omega⟩ hc hd (by omega) (fun _ => hb')
    exact ⟨p, by omega, he⟩

/-! ## Decoding one code point -/

theorem lead_one {b : UInt8} (h : b.toNat < 0x80) :
    lead false b = .single (Fin.ofNat _ b.toNat) := by
  simp only [lead]
  rw [if_pos h]

theorem lead_two {b : UInt8} (h : 0xC2 ≤ b.toNat) (h' : b.toNat ≤ 0xDF) :
    lead false b = .opens ⟨1, 0x80, 0xBF, b.toNat - 0xC0⟩ := by
  simp only [lead]
  rw [if_neg (by omega), if_neg (by omega), if_pos (by omega)]

/-- The first of three bytes; the range of the second one excludes what has a shorter form
and the surrogates. -/
theorem lead_three {b : UInt8} (h : 0xE0 ≤ b.toNat) (h' : b.toNat ≤ 0xEF) :
    lead false b = .opens ⟨2, if b.toNat = 0xE0 then 0xA0 else 0x80,
      if b.toNat = 0xED then 0x9F else 0xBF, b.toNat - 0xE0⟩ := by
  simp only [lead]
  rw [if_neg (by omega), if_neg (by omega), if_neg (by omega)]
  rcases eq_or_ne b.toNat 0xE0 with hE0 | hE0
  · simp [hE0]
  rcases eq_or_ne b.toNat 0xED with hED | hED
  · simp [hED]
  · simp [hE0, hED, show b.toNat < 0xF0 by omega]

/-- The first of four bytes; the range of the second one excludes what has a shorter form
and what is beyond the last code point. -/
theorem lead_four {b : UInt8} (h : 0xF0 ≤ b.toNat) (h' : b.toNat ≤ 0xF4) :
    lead false b = .opens ⟨3, if b.toNat = 0xF0 then 0x90 else 0x80,
      if b.toNat = 0xF4 then 0x8F else 0xBF, b.toNat - 0xF0⟩ := by
  simp only [lead]
  rw [if_neg (by omega), if_neg (by omega), if_neg (by omega)]
  rcases eq_or_ne b.toNat 0xF0 with hF0 | hF0
  · simp [hF0]
  rcases eq_or_ne b.toNat 0xF4 with hF4 | hF4
  · simp [hF4]
  · simp [hF0, hF4, show b.toNat ≠ 0xE0 by omega, show b.toNat ≠ 0xED by omega,
      show ¬ b.toNat < 0xF0 by omega, show b.toNat < 0xF4 by omega]

theorem decodeReplacingFrom_opens {b : UInt8} {p : Pending} (h : lead false b = .opens p)
    (rest : List UInt8) :
    decodeReplacingFrom none (b :: rest) = decodeReplacingFrom (some p) rest := by
  rw [decodeReplacingFrom, h]

theorem decodeReplacingFrom_last {b : UInt8} {p : Pending} (h : p.accepts b = true)
    (hmissing : p.missing ≤ 1) (rest : List UInt8) :
    decodeReplacingFrom (some p) (b :: rest) =
      Fin.ofNat _ (p.push b) :: decodeReplacingFrom none rest := by
  rw [decodeReplacingFrom, if_pos h, if_pos hmissing]

theorem decodeReplacingFrom_more {b : UInt8} {p : Pending} (h : p.accepts b = true)
    (hmissing : 1 < p.missing) (rest : List UInt8) :
    decodeReplacingFrom (some p) (b :: rest) =
      decodeReplacingFrom (some ⟨p.missing - 1, 0x80, 0xBF, p.push b⟩) rest := by
  rw [decodeReplacingFrom, if_pos h, if_neg (by omega)]

theorem accepts_iff {p : Pending} {b : UInt8} :
    p.accepts b = true ↔ p.low ≤ b.toNat ∧ b.toNat ≤ p.high := by
  simp [Pending.accepts]

theorem push_mk (missing low high bits : Nat) (b : UInt8) :
    Pending.push ⟨missing, low, high, bits⟩ b = bits * 0x40 + (b.toNat - 0x80) := rfl

/-- A number below the last code point is the code point it is taken for. -/
theorem ofNat_eq_of_val {c : CodePoint} {n : Nat} (h : n = c.val) :
    (Fin.ofNat _ n : CodePoint) = c := by
  subst h
  exact Fin.ofNat_val_eq_self c

/-- **One code point is read back**, whatever bytes follow it. -/
theorem decodeReplacingFrom_encodeCodePoint {c : CodePoint} (h : c.isSurrogate = false)
    (rest : List UInt8) :
    decodeReplacingFrom none (encodeCodePoint c ++ rest) = c :: decodeReplacingFrom none rest := by
  have hc := c.isLt
  rw [CodePoint.isSurrogate_eq_false_iff] at h
  -- one case for each length: the lead byte opens, the last tail byte yields the code point
  rcases Nat.lt_or_ge c.val 0x80 with h₁ | h₁
  · have ha := toNat_toUInt8 (show c.val < 256 by omega)
    rw [encodeCodePoint_one h₁, List.singleton_append, decodeReplacingFrom,
      lead_one (by omega)]
    simp only [ofNat_eq_of_val ha]
  rcases Nat.lt_or_ge c.val 0x800 with h₂ | h₂
  · have ha := toNat_toUInt8 (show 0xC0 + c.val / 0x40 < 256 by omega)
    have hb := toNat_toUInt8 (show 0x80 + c.val % 0x40 < 256 by omega)
    rw [encodeCodePoint_two h₁ h₂, List.cons_append, List.singleton_append,
      decodeReplacingFrom_opens (lead_two (by omega) (by omega)),
      decodeReplacingFrom_last (accepts_iff.mpr (by simp only; omega)) le_rfl]
    refine List.cons_eq_cons.mpr ⟨ofNat_eq_of_val ?_, rfl⟩
    rw [push_mk]
    omega
  rcases Nat.lt_or_ge c.val 0x10000 with h₃ | h₃
  · have ha := toNat_toUInt8 (show 0xE0 + c.val / 0x1000 < 256 by omega)
    have hb := toNat_toUInt8 (show 0x80 + c.val / 0x40 % 0x40 < 256 by omega)
    have hd := toNat_toUInt8 (show 0x80 + c.val % 0x40 < 256 by omega)
    rw [encodeCodePoint_three h₂ h₃, List.cons_append, List.cons_append, List.singleton_append,
      decodeReplacingFrom_opens (lead_three (by omega) (by omega)),
      decodeReplacingFrom_more (accepts_iff.mpr (by simp only; split_ifs <;> omega)) Nat.one_lt_two,
      decodeReplacingFrom_last (accepts_iff.mpr (by simp only; omega)) le_rfl]
    refine List.cons_eq_cons.mpr ⟨ofNat_eq_of_val ?_, rfl⟩
    rw [push_mk, push_mk]
    omega
  · have ha := toNat_toUInt8 (show 0xF0 + c.val / 0x40000 < 256 by omega)
    have hb := toNat_toUInt8 (show 0x80 + c.val / 0x1000 % 0x40 < 256 by omega)
    have hd := toNat_toUInt8 (show 0x80 + c.val / 0x40 % 0x40 < 256 by omega)
    have he := toNat_toUInt8 (show 0x80 + c.val % 0x40 < 256 by omega)
    rw [encodeCodePoint_four h₃, List.cons_append, List.cons_append, List.cons_append,
      List.singleton_append, decodeReplacingFrom_opens (lead_four (by omega) (by omega)),
      decodeReplacingFrom_more (accepts_iff.mpr (by simp only; split_ifs <;> omega))
        (show 1 < 3 by decide),
      decodeReplacingFrom_more (accepts_iff.mpr (by simp only; omega)) Nat.one_lt_two,
      decodeReplacingFrom_last (accepts_iff.mpr (by simp only; omega)) le_rfl]
    refine List.cons_eq_cons.mpr ⟨ofNat_eq_of_val ?_, rfl⟩
    rw [push_mk, push_mk, push_mk]
    omega

/-! ## Texts -/

/-- **The replacing decoder undoes encoding**: nothing is replaced in the bytes of a text
without lone surrogates. -/
theorem decodeReplacing_encode {t : Text} (h : t.isEncodable = true) :
    decodeReplacing (t.flatMap encodeCodePoint) = t := by
  induction t with
  | nil => rfl
  | cons c rest ih =>
    rw [Text.isEncodable_cons, Bool.and_eq_true, Bool.not_eq_true'] at h
    rw [List.flatMap_cons, decodeReplacing, decodeReplacingFrom_encodeCodePoint h.1]
    exact congrArg (c :: ·) (ih h.2)

/-- **The bytes of texts are the well-formed bytes.** -/
theorem wellFormed_iff {bytes : List UInt8} :
    WellFormed bytes ↔ ∃ t : Text, t.isEncodable = true ∧ t.flatMap encodeCodePoint = bytes := by
  constructor
  · intro h
    induction h with
    | nil => exact ⟨[], rfl, rfl⟩
    | append hs _ ih =>
      obtain ⟨c, hc, rfl⟩ := hs.exists_encodeCodePoint
      obtain ⟨t, ht, rfl⟩ := ih
      exact ⟨c :: t, by rw [Text.isEncodable_cons, hc, ht]; rfl, rfl⟩
  · rintro ⟨t, ht, rfl⟩
    induction t with
    | nil => exact .nil
    | cons c rest ih =>
      rw [Text.isEncodable_cons, Bool.and_eq_true, Bool.not_eq_true'] at ht
      exact .append (isSequence_encodeCodePoint ht.1) (ih ht.2)

end Utf8

end ProfileFilter
