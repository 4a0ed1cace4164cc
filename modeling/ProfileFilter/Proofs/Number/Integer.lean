import ProfileFilter.Proofs.Text.Digits
import ProfileFilter.Proofs.Text.Trimming
import Mathlib.Data.List.Forall2
import Mathlib.Data.Nat.Digits.Defs

/-!
# Integers as text

Which texts spell an integer, said without the reader (`SpellsInteger`): blanks, a sign or none,
and a numeral, one to 4300 decimal digits of any script. The reader reads exactly these texts, as
the number they spell (`readInteger?_eq_some_iff`), and what the printer writes is one of them
(`readInteger?_ofInt`).
-/

namespace ProfileFilter

/-! ## Numerals -/

/-- The text is a numeral of the number: one to 4300 decimal digits of any script, with the most
significant first. -/
structure IsNumeral (digits : Text) (n : Nat) : Prop where
  /-- there is a digit -/
  ne_nil : digits ≠ []
  /-- there are not too many -/
  length_le : digits.length ≤ 4300
  /-- the number is the base-ten value of the digits -/
  value : ∃ values : List Nat,
    List.Forall₂ (fun c d => c.decimalValue? = some d) digits values ∧
      n = Nat.ofDigits 10 values.reverse

/-- **Reading digits** adds their base-ten value to what was read before. -/
theorem readDigits_eq_some_iff {t : Text} {acc n : Nat} : readDigits acc t = some n ↔
    ∃ values : List Nat, List.Forall₂ (fun c d => c.decimalValue? = some d) t values ∧
      n = acc * 10 ^ t.length + Nat.ofDigits 10 values.reverse := by
  induction t generalizing acc with
  | nil =>
    simp [List.forall₂_nil_left_iff, readDigits, eq_comm]
  | cons c rest ih =>
    rw [readDigits]
    constructor
    · intro h
      split at h
      · next d hd =>
        obtain ⟨values, hvalues, rfl⟩ := ih.mp h
        refine ⟨d :: values, .cons hd hvalues, ?_⟩
        rw [List.reverse_cons, Nat.ofDigits_append, Nat.ofDigits_singleton, List.length_reverse,
          ← hvalues.length_eq, List.length_cons]
        ring
      · cases h
    · rintro ⟨values, hvalues, rfl⟩
      obtain ⟨d, others, hd, hothers, rfl⟩ := List.forall₂_cons_left_iff.mp hvalues
      simp only [hd]
      refine ih.mpr ⟨others, hothers, ?_⟩
      rw [List.reverse_cons, Nat.ofDigits_append, Nat.ofDigits_singleton, List.length_reverse,
        ← hothers.length_eq, List.length_cons]
      ring

theorem isNumeral_iff {digits : Text} {n : Nat} : IsNumeral digits n ↔
    digits ≠ [] ∧ digits.length ≤ maxIntegerDigits ∧ readDigits 0 digits = some n := by
  rw [readDigits_eq_some_iff]
  simp only [Nat.zero_mul, Nat.zero_add]
  exact ⟨fun h => ⟨h.ne_nil, h.length_le, h.value⟩, fun h => ⟨h.1, h.2.1, h.2.2⟩⟩

/-! ## Signs -/

/-- A digit of any script is no sign. -/
theorem splitSign_of_decimalValue? {c : CodePoint} {d : Nat} (h : c.decimalValue? = some d)
    (rest : Text) : splitSign (c :: rest) = (false, c :: rest) := by
  have hsign : ∀ sign : CodePoint, sign.decimalValue? = none → (c == sign) = false := by
    intro sign hnone
    rw [beq_eq_false_iff_ne]
    rintro rfl
    rw [hnone] at h
    cases h
  simp only [splitSign, hsign '-' rfl, hsign '+' rfl, Bool.false_eq_true, if_false]

theorem IsNumeral.splitSign_eq {digits : Text} {n : Nat} (h : IsNumeral digits n) :
    splitSign digits = (false, digits) := by
  obtain ⟨values, hvalues, -⟩ := h.value
  cases hvalues with
  | nil => exact absurd rfl h.ne_nil
  | cons hd _ => exact splitSign_of_decimalValue? hd _

theorem splitSign_of_digits {digits : Text} (hdigits : digits.AllDigits) (hne : digits ≠ [])
    (rest : Text) : splitSign (digits ++ rest) = (false, digits ++ rest) := by
  obtain ⟨d, tail, rfl⟩ := List.exists_cons_of_ne_nil hne
  exact splitSign_of_decimalValue?
    (Text.decimalValue?_of_isAsciiDigit (hdigits d List.mem_cons_self)) _

theorem signedInt_natAbs (n : Int) : signedInt (decide (n < 0)) n.natAbs = n := by
  unfold signedInt
  split_ifs with h
  · rw [decide_eq_true_eq] at h
    omega
  · rw [decide_eq_true_eq] at h
    omega

/-! ## Reading -/

/-- The text spells the integer: a numeral between blanks, perhaps with a sign in front of it. -/
inductive SpellsInteger (t : Text) : Int → Prop where
  /-- no sign -/
  | unsigned {n : Nat} : IsNumeral t.trim n → SpellsInteger t n
  /-- a plus sign -/
  | plus {digits : Text} {n : Nat} : t.trim = ('+' : CodePoint) :: digits → IsNumeral digits n →
    SpellsInteger t n
  /-- a minus sign -/
  | minus {digits : Text} {n : Nat} : t.trim = ('-' : CodePoint) :: digits → IsNumeral digits n →
    SpellsInteger t (-n)

theorem readInteger?_eq_some_of_splitSign {t digits : Text} {negative : Bool} {n : Int}
    (h : splitSign t.trim = (negative, digits)) :
    readInteger? t = some n ↔ ∃ m, IsNumeral digits m ∧ n = signedInt negative m := by
  simp only [readInteger?, h, isNumeral_iff]
  split_ifs with hlength
  · refine iff_of_false (fun hnone => by cases hnone) ?_
    rintro ⟨m, ⟨hne, hle, -⟩, -⟩
    rw [Bool.or_eq_true, List.isEmpty_iff, decide_eq_true_eq] at hlength
    exact hlength.elim hne fun hlt => absurd hle (Nat.not_le.mpr hlt)
  · rw [Bool.or_eq_true, List.isEmpty_iff, decide_eq_true_eq, not_or, Nat.not_lt] at hlength
    rw [Option.map_eq_some_iff]
    exact exists_congr fun m =>
      ⟨fun ⟨hm, hn⟩ => ⟨⟨hlength.1, hlength.2, hm⟩, hn.symm⟩, fun ⟨⟨_, _, hm⟩, hn⟩ => ⟨hm, hn.symm⟩⟩

/-- **The reader reads exactly the texts that spell an integer.** -/
theorem readInteger?_eq_some_iff {t : Text} {n : Int} :
    readInteger? t = some n ↔ SpellsInteger t n := by
  constructor
  · intro h
    cases htrim : t.trim with
    | nil =>
      obtain ⟨m, hm, -⟩ := (readInteger?_eq_some_of_splitSign (congrArg splitSign htrim)).mp h
      exact absurd rfl hm.ne_nil
    | cons c rest =>
      by_cases hminus : c = '-'
      · subst hminus
        obtain ⟨m, hm, rfl⟩ := (readInteger?_eq_some_of_splitSign (congrArg splitSign htrim)).mp h
        exact .minus htrim hm
      · by_cases hplus : c = '+'
        · subst hplus
          obtain ⟨m, hm, rfl⟩ := (readInteger?_eq_some_of_splitSign (congrArg splitSign htrim)).mp h
          exact .plus htrim hm
        · have hsplit : splitSign t.trim = (false, t.trim) := by
            rw [htrim, splitSign, if_neg (by simpa using hminus), if_neg (by simpa using hplus)]
          obtain ⟨m, hm, rfl⟩ := (readInteger?_eq_some_of_splitSign hsplit).mp h
          exact .unsigned hm
  · intro h
    cases h with
    | unsigned hm => exact (readInteger?_eq_some_of_splitSign hm.splitSign_eq).mpr ⟨_, hm, rfl⟩
    | plus htrim hm =>
      exact (readInteger?_eq_some_of_splitSign (congrArg splitSign htrim)).mpr ⟨_, hm, rfl⟩
    | minus htrim hm =>
      exact (readInteger?_eq_some_of_splitSign (congrArg splitSign htrim)).mpr ⟨_, hm, rfl⟩

/-! ## Printing -/

/-- An integer is written in digits, perhaps after a minus sign. -/
theorem isAsciiDigit_of_mem_ofInt {n : Int} {c : CodePoint} (h : c ∈ Text.ofInt n) :
    c.isAsciiDigit = true ∨ c = '-' := by
  cases n with
  | ofNat n => exact .inl (Text.allDigits_ofNat n c h)
  | negSucc n =>
    rcases List.mem_cons.mp h with rfl | h
    · exact .inr rfl
    · exact .inl (Text.allDigits_ofNat (n + 1) c h)

theorem notMem_ofInt {c : CodePoint} (hdigit : c.isAsciiDigit = false)
    (hminus : c ≠ ('-' : CodePoint)) (n : Int) : c ∉ Text.ofInt n := by
  intro hmem
  rcases isAsciiDigit_of_mem_ofInt hmem with h | h
  · rw [hdigit] at h
    cases h
  · exact hminus h

theorem trim_ofInt (n : Int) : (Text.ofInt n).trim = Text.ofInt n := by
  refine Text.trim_of_forall fun c hc => ?_
  rcases isAsciiDigit_of_mem_ofInt hc with hdigit | rfl
  · rw [Text.isAsciiDigit_iff] at hdigit
    rw [← Bool.not_eq_true]
    simp only [CodePoint.isBlank, Bool.or_eq_true, Bool.and_eq_true, decide_eq_true_eq,
      beq_iff_eq]
    omega
  · decide

theorem splitSign_ofInt (n : Int) :
    splitSign (Text.ofInt n) = (decide (n < 0), Text.ofNat n.natAbs) := by
  cases n with
  | ofNat n =>
    have hdigits := splitSign_of_digits (Text.allDigits_ofNat n) (Text.ofNat_ne_nil n) []
    rw [List.append_nil] at hdigits
    rw [Text.ofInt, hdigits]
    rfl
  | negSucc n =>
    rw [decide_eq_true (Int.negSucc_lt_zero n)]
    rfl

theorem isNumeral_ofNat {n : Nat} (h : (Text.ofNat n).length ≤ 4300) : IsNumeral (Text.ofNat n) n :=
  isNumeral_iff.mpr ⟨Text.ofNat_ne_nil n, h, by
    rw [Text.readDigits_eq (Text.allDigits_ofNat n)]
    exact congrArg some (Text.digitsValue_ofNat n)⟩

/-- **What is printed reads back**, whatever blanks are put around it. -/
theorem readInteger?_ofInt {n : Int} (h : (Text.ofNat n.natAbs).length ≤ 4300) {u v : Text}
    (hu : u.AllBlank) (hv : v.AllBlank) : readInteger? (u ++ Text.ofInt n ++ v) = some n := by
  have hsplit : splitSign (u ++ Text.ofInt n ++ v).trim =
      (decide (n < 0), Text.ofNat n.natAbs) := by
    rw [Text.trim_append_blanks hu hv, trim_ofInt, splitSign_ofInt]
  exact (readInteger?_eq_some_of_splitSign hsplit).mpr
    ⟨n.natAbs, isNumeral_ofNat h, (signedInt_natAbs n).symm⟩

end ProfileFilter
