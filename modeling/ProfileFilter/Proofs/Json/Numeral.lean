import ProfileFilter.Json.Read
import ProfileFilter.Json.Print
import ProfileFilter.Proofs.Number.Integer
import ProfileFilter.Proofs.Number.Rounding

/-!
# JSON numerals

A `Numeral` is a JSON number taken apart: sign, integer digits, fraction digits, exponent.
It has a text and a value, and `IsValid` is JSON's grammar for it. The reader takes
exactly a valid numeral off the front of a text (`scanNumber_eq`), and the token of an
integer is a valid numeral with that value (`value_ofInt`).
-/

namespace ProfileFilter

namespace Json

/-! ## What may follow a token -/

/-- The text is over, or goes on with a blank, a comma or a closing bracket. -/
def Closes (rest : Text) : Prop :=
  ∀ c, rest.head? = some c → isSpace c = true ∨ c ∈ Text.ofString ",]\x7d"

/-- The code points a token may be followed by, in numbers. -/
theorem Closes.val_mem {c : CodePoint} {rest : Text} (h : Closes (c :: rest)) :
    c.val ∈ [0x20, 0x09, 0x0A, 0x0D, 0x2C, 0x5D, 0x7D] := by
  rcases h c rfl with hspace | hmem
  · simp only [isSpace, Bool.or_eq_true, beq_iff_eq] at hspace
    rcases hspace with ((rfl | rfl) | rfl) | rfl <;> decide
  · rw [show Text.ofString ",]\x7d" = [0x2C, 0x5D, 0x7D] from rfl] at hmem
    simp only [List.mem_cons, List.not_mem_nil, or_false] at hmem
    rcases hmem with rfl | rfl | rfl <;> decide

theorem Closes.not_digit {c : CodePoint} {rest : Text} (h : Closes (c :: rest)) :
    c.isAsciiDigit = false := by
  have hval := h.val_mem
  rw [← Bool.not_eq_true, Text.isAsciiDigit_iff]
  simp only [List.mem_cons, List.not_mem_nil, or_false] at hval
  omega

/-! ## Numerals -/

/-- A JSON number taken apart. -/
structure Numeral where
  /-- does it have a minus sign? -/
  negative : Bool
  /-- the digits of the integer part -/
  whole : Text
  /-- the digits after the point; none means no point -/
  fraction : Text
  /-- the letter `e` with an optional sign, and the digits of the exponent -/
  exponent : Option (Text × Text)

namespace Numeral

/-- What an exponent may start with. -/
def exponentMarks : List Text := ["e", "E", "e+", "E+", "e-", "E-"]

/-- A fraction as it is written. -/
def fractionText : Text → Text
  | [] => []
  | c :: digits => '.' :: c :: digits

/-- An exponent as it is written. -/
def exponentText : Option (Text × Text) → Text
  | none => []
  | some (mark, digits) => mark ++ digits

/-- The value of an exponent. -/
def exponentValue : Option (Text × Text) → Int
  | none => 0
  | some (mark, digits) => signedInt (mark.contains '-') digits.digitsValue

/-- The numeral without its sign. -/
def magnitude (n : Numeral) : Text := n.whole ++ (fractionText n.fraction ++ exponentText n.exponent)

/-- The numeral as it is written. -/
def text (n : Numeral) : Text := if n.negative then '-' :: n.magnitude else n.magnitude

/-- Is it an integer, with neither a fraction nor an exponent? -/
def isInteger (n : Numeral) : Bool := n.fraction.isEmpty && n.exponent.isNone

/-- The value of a numeral: an integer, or the float nearest to it. -/
def value (n : Numeral) : Value :=
  if n.isInteger then .int (signedInt n.negative n.whole.digitsValue)
  else .float (Binary64.ofDecimal n.negative (n.whole ++ n.fraction).digitsValue
    (exponentValue n.exponent - n.fraction.length))

/-- JSON's grammar for numbers; integers have no more digits than can be read. -/
structure IsValid (n : Numeral) : Prop where
  /-- the integer part is made of digits -/
  whole : n.whole.AllDigits
  /-- it is a single zero, or does not start with one -/
  leading : n.whole = ['0'] ∨ ∃ c rest, n.whole = c :: rest ∧ c ≠ ('0' : CodePoint)
  /-- the fraction is made of digits -/
  fraction : n.fraction.AllDigits
  /-- the exponent is a mark and at least one digit -/
  exponent : ∀ mark digits, n.exponent = some (mark, digits) →
    mark ∈ exponentMarks ∧ digits.AllDigits ∧ digits ≠ []
  /-- an integer is not too long -/
  short : n.isInteger = true → n.whole.length ≤ maxIntegerDigits

/-! ## Reading a numeral -/

/-- A run of digits is taken whole. -/
theorem spanAsciiDigits_append {digits rest : Text} (hdigits : digits.AllDigits)
    (hrest : ∀ c, rest.head? = some c → c.isAsciiDigit = false) :
    spanAsciiDigits (digits ++ rest) = (digits, rest) := by
  have hstop : rest.takeWhile (·.isAsciiDigit) = [] ∧ rest.dropWhile (·.isAsciiDigit) = rest := by
    cases rest with
    | nil => exact ⟨rfl, rfl⟩
    | cons c tail =>
      have hc := hrest c rfl
      exact ⟨List.takeWhile_cons_of_neg (by simp [hc]), List.dropWhile_cons_of_neg (by simp [hc])⟩
  rw [spanAsciiDigits, List.takeWhile_append_of_pos hdigits, List.dropWhile_append_of_pos hdigits,
    hstop.1, hstop.2, List.append_nil]

theorem integerPart_append {n : Numeral} (hn : n.IsValid) {rest : Text}
    (hrest : ∀ c, rest.head? = some c → c.isAsciiDigit = false) :
    integerPart (n.whole ++ rest) = (n.whole, rest) := by
  rcases hn.leading with hzero | ⟨c, tail, hcons, hc⟩
  · rw [hzero]
    rfl
  · have hspan := spanAsciiDigits_append hn.whole hrest
    rw [hcons, List.cons_append] at hspan ⊢
    rw [integerPart, if_neg (by simpa using hc), hspan]

theorem fractionPart_append {fraction rest : Text} (hfraction : fraction.AllDigits)
    (hrest : ∀ c, rest.head? = some c → c.isAsciiDigit = false ∧ c ≠ ('.' : CodePoint)) :
    fractionPart (fractionText fraction ++ rest) = (fraction, rest) := by
  cases fraction with
  | nil =>
    rw [fractionText, List.nil_append]
    cases rest with
    | nil => rfl
    | cons c tail => rw [fractionPart, if_neg (by simpa using (hrest c rfl).2)]
  | cons d digits =>
    have hspan := spanAsciiDigits_append hfraction (fun c hc => (hrest c hc).1)
    rw [fractionText, List.cons_append, fractionPart, if_pos (beq_self_eq_true _), hspan]
    rfl

/-- A mark is the letter and what `splitSign` makes of the rest of it. -/
theorem exists_of_mem_exponentMarks {mark digits : Text} (h : mark ∈ exponentMarks)
    (hdigits : digits.AllDigits) (hne : digits ≠ []) (rest : Text) :
    ∃ c tail, mark = c :: tail ∧ c.toLower = ('e' : CodePoint) ∧
      splitSign (tail ++ (digits ++ rest)) = (mark.contains '-', digits ++ rest) := by
  have hplain := splitSign_of_digits hdigits hne rest
  simp only [exponentMarks, List.mem_cons, List.not_mem_nil, or_false] at h
  rcases h with rfl | rfl | rfl | rfl | rfl | rfl
  · exact ⟨'e', [], rfl, rfl, hplain⟩
  · exact ⟨'E', [], rfl, rfl, hplain⟩
  · exact ⟨'e', ['+'], rfl, rfl, rfl⟩
  · exact ⟨'E', ['+'], rfl, rfl, rfl⟩
  · exact ⟨'e', ['-'], rfl, rfl, rfl⟩
  · exact ⟨'E', ['-'], rfl, rfl, rfl⟩

theorem exponentPart_none {rest : Text}
    (hrest : ∀ c, rest.head? = some c → c.toLower ≠ ('e' : CodePoint)) :
    exponentPart rest = (none, rest) := by
  cases rest with
  | nil => rfl
  | cons c tail => rw [exponentPart, if_neg (by simpa using hrest c rfl)]

theorem exponentPart_some {mark digits rest : Text} (hmark : mark ∈ exponentMarks)
    (hdigits : digits.AllDigits) (hne : digits ≠ [])
    (hrest : ∀ c, rest.head? = some c → c.isAsciiDigit = false) :
    exponentPart (mark ++ digits ++ rest) =
      (some (signedInt (mark.contains '-') digits.digitsValue), rest) := by
  obtain ⟨c, tail, rfl, hc, hsplit⟩ := exists_of_mem_exponentMarks hmark hdigits hne rest
  obtain ⟨d, others, hcons⟩ := List.exists_cons_of_ne_nil hne
  have hread : readDigits 0 digits = some digits.digitsValue := Text.readDigits_eq hdigits 0
  rw [List.append_assoc, List.cons_append, exponentPart, if_pos (beq_iff_eq.mpr hc), hsplit]
  simp only [spanAsciiDigits_append hdigits hrest, hread]
  rw [hcons]

/-- What follows the digits of an exponent or of a fraction. -/
theorem head_exponentText {e : Option (Text × Text)} {rest : Text} (hrest : Closes rest)
    (he : ∀ mark digits, e = some (mark, digits) →
      mark ∈ exponentMarks ∧ digits.AllDigits ∧ digits ≠ []) :
    ∀ c, (exponentText e ++ rest).head? = some c →
      c.isAsciiDigit = false ∧ c ≠ ('.' : CodePoint) := by
  intro c hc
  cases e with
  | none =>
    rw [exponentText, List.nil_append] at hc
    obtain ⟨tail, rfl⟩ := List.head?_eq_some_iff.mp hc
    refine ⟨hrest.not_digit, fun hdot => ?_⟩
    exact absurd (hdot ▸ hrest.val_mem) (by decide)
  | some e =>
    obtain ⟨mark, digits⟩ := e
    obtain ⟨hmark, -, -⟩ := he mark digits rfl
    simp only [exponentMarks, List.mem_cons, List.not_mem_nil, or_false] at hmark
    rcases hmark with rfl | rfl | rfl | rfl | rfl | rfl <;> cases hc <;> decide

/-- The exponent that the reader finds. -/
def readExponent (e : Option (Text × Text)) : Option Int :=
  e.map fun e => signedInt (e.1.contains '-') e.2.digitsValue

theorem getD_readExponent (e : Option (Text × Text)) :
    (readExponent e).getD 0 = exponentValue e := by
  cases e <;> rfl

theorem exponentPart_append {e : Option (Text × Text)} {rest : Text} (hrest : Closes rest)
    (he : ∀ mark digits, e = some (mark, digits) →
      mark ∈ exponentMarks ∧ digits.AllDigits ∧ digits ≠ []) :
    exponentPart (exponentText e ++ rest) = (readExponent e, rest) := by
  cases e with
  | none =>
    refine exponentPart_none fun c hc => ?_
    obtain ⟨tail, rfl⟩ := List.head?_eq_some_iff.mp hc
    have hval := hrest.val_mem
    intro hlower
    rw [CodePoint.toLower] at hlower
    have hupper : c.isAsciiUpper = false := by
      rw [← Bool.not_eq_true, CodePoint.isAsciiUpper, Bool.and_eq_true, decide_eq_true_eq,
        decide_eq_true_eq]
      simp only [List.mem_cons, List.not_mem_nil, or_false] at hval
      omega
    rw [hupper, if_neg Bool.false_ne_true] at hlower
    exact absurd (hlower ▸ hval) (by decide)
  | some e =>
    obtain ⟨mark, digits⟩ := e
    obtain ⟨hmark, hdigits, hne⟩ := he mark digits rfl
    refine exponentPart_some hmark hdigits hne fun c hc => ?_
    obtain ⟨tail, rfl⟩ := List.head?_eq_some_iff.mp hc
    exact hrest.not_digit

/-- **A valid numeral is read off the front of a text**, up to what closes it. -/
theorem scanNumber_eq {n : Numeral} (hn : n.IsValid) {rest : Text} (hrest : Closes rest)
    (from_ : Text) :
    scanNumber n.negative from_ (n.magnitude ++ rest) = .ok (n.value, rest) := by
  have hexponent := exponentPart_append hrest hn.exponent
  have hhead := head_exponentText hrest hn.exponent
  have hfraction := fractionPart_append hn.fraction hhead
  -- what follows the integer digits starts with a point, with `e`, or closes the token
  have hwhole : integerPart (n.magnitude ++ rest) =
      (n.whole, fractionText n.fraction ++ (exponentText n.exponent ++ rest)) := by
    rw [magnitude, List.append_assoc, List.append_assoc]
    refine integerPart_append hn fun c hc => ?_
    cases hf : n.fraction with
    | nil =>
      rw [hf, fractionText, List.nil_append] at hc
      exact (hhead c hc).1
    | cons d digits =>
      rw [hf, fractionText] at hc
      cases hc
      rfl
  have hne : n.whole.isEmpty = false := by
    rcases hn.leading with h | ⟨c, tail, h, -⟩ <;> rw [h] <;> rfl
  have hvalue : readDigits 0 n.whole = some n.whole.digitsValue := Text.readDigits_eq hn.whole 0
  have hdigits : readDigits 0 (n.whole ++ n.fraction) =
      some (n.whole ++ n.fraction).digitsValue :=
    Text.readDigits_eq (hn.whole.append hn.fraction) 0
  have hnone : (readExponent n.exponent).isNone = n.exponent.isNone := Option.isNone_map
  simp only [scanNumber, hwhole, hne, Bool.false_eq_true, if_false, hfraction, hexponent, hvalue,
    hdigits, Option.getD_some, getD_readExponent, hnone]
  rw [value, isInteger]
  split_ifs with hint hlong
  · exact absurd hlong (Nat.not_lt.mpr (hn.short hint))
  · rfl
  · rfl

/-! ## The token of an integer -/

/-- The numeral of an integer. -/
def ofInt (n : Int) : Numeral := ⟨decide (n < 0), Text.ofNat n.natAbs, [], none⟩

theorem text_ofInt (n : Int) : (ofInt n).text = Text.ofInt n := by
  cases n with
  | ofNat n =>
    rw [text, if_neg (by simp [ofInt])]
    exact List.append_nil _
  | negSucc n =>
    have hnegative : (ofInt (Int.negSucc n)).negative = true :=
      decide_eq_true (Int.negSucc_lt_zero n)
    rw [text, if_pos hnegative]
    exact congrArg (List.cons _) (List.append_nil _)

theorem leading_ofNat (n : Nat) :
    Text.ofNat n = ['0'] ∨ ∃ c rest, Text.ofNat n = c :: rest ∧ c ≠ ('0' : CodePoint) := by
  rcases Nat.eq_zero_or_pos n with rfl | hpos
  · exact .inl rfl
  · exact .inr (Text.exists_ofNat_eq_cons hpos)

theorem isValid_ofInt {n : Int} (h : Value.isWritableInt n = true) : (ofInt n).IsValid where
  whole := Text.allDigits_ofNat _
  leading := leading_ofNat _
  fraction := fun c hc => absurd hc List.not_mem_nil
  exponent := fun mark digits hnone => by cases hnone
  short := fun _ => of_decide_eq_true h

theorem value_ofInt (n : Int) : (ofInt n).value = .int n := by
  have hvalue : (ofInt n).value =
      .int (signedInt (decide (n < 0)) (Text.ofNat n.natAbs).digitsValue) := rfl
  rw [hvalue, Text.digitsValue_ofNat, signedInt_natAbs]

end Numeral

end Json

end ProfileFilter
