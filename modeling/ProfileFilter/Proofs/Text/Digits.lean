import ProfileFilter.Number.Read
import ProfileFilter.Value.Shown
import Mathlib.Data.List.TakeWhile
import Mathlib.Tactic.Ring

/-!
# Decimal digits and the numbers they spell

`digitsValue` is the base-ten value of a text of ASCII digits. Reading digits computes
it, printing a natural number inverts it, and it turns appending into arithmetic: zeros
in front change nothing, zeros at the end multiply.
-/

namespace ProfileFilter

namespace Text

/-- The ASCII digit for a number below ten. -/
def digit (d : Nat) : CodePoint := Fin.ofNat _ (0x30 + d)

/-- Is this a text of ASCII digits? -/
def AllDigits (t : Text) : Prop := ∀ c ∈ t, c.isAsciiDigit = true

/-- The base-ten value of a text of digits, on top of `acc`. -/
def digitsValueFrom (acc : Nat) (t : Text) : Nat :=
  t.foldl (fun acc c => acc * 10 + (c.val - 0x30)) acc

/-- The base-ten value of a text of digits. -/
def digitsValue (t : Text) : Nat := digitsValueFrom 0 t

theorem isAsciiDigit_iff {c : CodePoint} :
    c.isAsciiDigit = true ↔ 0x30 ≤ c.val ∧ c.val ≤ 0x39 := by
  simp [CodePoint.isAsciiDigit]

theorem val_digit {d : Nat} (h : d < 10) : (digit d).val = 0x30 + d :=
  Nat.mod_eq_of_lt (by omega)

theorem isAsciiDigit_digit {d : Nat} (h : d < 10) : (digit d).isAsciiDigit = true := by
  rw [isAsciiDigit_iff, val_digit h]
  omega

theorem AllDigits.append {s t : Text} (hs : s.AllDigits) (ht : t.AllDigits) :
    AllDigits (s ++ t) :=
  List.forall_mem_append.mpr ⟨hs, ht⟩

theorem allDigits_replicate (n : Nat) : AllDigits (List.replicate n ('0' : CodePoint)) := by
  intro c hc
  rw [List.eq_of_mem_replicate hc]
  rfl

/-! ## Reading -/

/-- The digits of the other scripts are not ASCII, so the first run of the table decides. -/
theorem decimalValue?_of_isAsciiDigit {c : CodePoint} (h : c.isAsciiDigit = true) :
    c.decimalValue? = some (c.val - 0x30) := by
  rw [isAsciiDigit_iff] at h
  have hfirst : (decide (0x30 ≤ c.val) && decide (c.val ≤ 0x30 + 9)) = true := by
    simpa using h
  have hzeros : digitZeros = 0x30 :: digitZeros.tail := rfl
  rw [CodePoint.decimalValue?, hzeros, List.find?_cons, hfirst]
  rfl

theorem readDigits_eq {t : Text} (h : t.AllDigits) (acc : Nat) :
    readDigits acc t = some (digitsValueFrom acc t) := by
  induction t generalizing acc with
  | nil => rfl
  | cons c rest ih =>
    obtain ⟨hc, hrest⟩ := List.forall_mem_cons.mp h
    rw [readDigits, decimalValue?_of_isAsciiDigit hc]
    exact ih hrest _

theorem decimalValue?_lt {c : CodePoint} {d : Nat} (h : c.decimalValue? = some d) : d < 10 := by
  obtain ⟨start, hfind, rfl⟩ := Option.map_eq_some_iff.mp h
  have hrun := List.find?_some hfind
  rw [Bool.and_eq_true, decide_eq_true_eq, decide_eq_true_eq] at hrun
  omega

/-- A number is below a power of ten with as many zeros as it has digits, of whatever script. -/
theorem lt_of_readDigits {t : Text} {acc n : Nat} (h : readDigits acc t = some n) :
    n < (acc + 1) * 10 ^ t.length := by
  induction t generalizing acc with
  | nil =>
    obtain rfl := Option.some.inj h
    rw [List.length_nil, Nat.pow_zero, Nat.mul_one]
    exact Nat.lt_succ_self acc
  | cons c rest ih =>
    rw [readDigits] at h
    split at h
    · next d hd =>
      have hdigit := decimalValue?_lt hd
      calc n < (acc * 10 + d + 1) * 10 ^ rest.length := ih h
        _ ≤ (acc + 1) * 10 * 10 ^ rest.length := Nat.mul_le_mul_right _ (by omega)
        _ = (acc + 1) * 10 ^ (c :: rest).length := by rw [List.length_cons]; ring
    · cases h

/-! ## Appending -/

theorem digitsValueFrom_append (acc : Nat) (s t : Text) :
    digitsValueFrom acc (s ++ t) = digitsValueFrom (digitsValueFrom acc s) t :=
  List.foldl_append

theorem digitsValueFrom_eq (acc : Nat) (t : Text) :
    digitsValueFrom acc t = acc * 10 ^ t.length + digitsValue t := by
  induction t generalizing acc with
  | nil => simp [digitsValueFrom, digitsValue]
  | cons c rest ih =>
    have hcons : ∀ n, digitsValueFrom n (c :: rest) =
        digitsValueFrom (n * 10 + (c.val - 0x30)) rest := fun _ => rfl
    rw [digitsValue, hcons acc, hcons 0, ih (acc * 10 + _), ih (0 * 10 + _), List.length_cons]
    ring

theorem digitsValue_append (s t : Text) :
    digitsValue (s ++ t) = digitsValue s * 10 ^ t.length + digitsValue t := by
  rw [digitsValue, digitsValueFrom_append, digitsValueFrom_eq]
  rfl

theorem digitsValue_replicate (n : Nat) :
    digitsValue (List.replicate n ('0' : CodePoint)) = 0 := by
  induction n with
  | zero => rfl
  | succ n ih => rw [List.replicate_succ]; exact ih

theorem digitsValue_zeros_append (n : Nat) (t : Text) :
    digitsValue (List.replicate n ('0' : CodePoint) ++ t) = digitsValue t := by
  rw [digitsValue_append, digitsValue_replicate, Nat.zero_mul, Nat.zero_add]

theorem digitsValue_append_zeros (t : Text) (n : Nat) :
    digitsValue (t ++ List.replicate n ('0' : CodePoint)) = digitsValue t * 10 ^ n := by
  rw [digitsValue_append, digitsValue_replicate, List.length_replicate, Nat.add_zero]

theorem digitsValue_singleton_digit {d : Nat} (h : d < 10) : digitsValue [digit d] = d := by
  show 0 * 10 + ((digit d).val - 0x30) = d
  rw [val_digit h]
  omega

/-! ## Printing -/

theorem ofChar_digitChar : ∀ d < 10, CodePoint.ofChar (Nat.digitChar d) = digit d := by
  decide

theorem ofNat_of_lt {n : Nat} (h : n < 10) : ofNat n = [digit n] := by
  rw [ofNat, Nat.toDigits_of_lt_base h, List.map_singleton, ofChar_digitChar n h]

theorem ofNat_of_le {n : Nat} (h : 10 ≤ n) : ofNat n = ofNat (n / 10) ++ [digit (n % 10)] := by
  rw [ofNat, Nat.toDigits_of_base_le (by decide) h, List.map_append, List.map_singleton,
    ofChar_digitChar _ (Nat.mod_lt _ (by decide))]
  rfl

theorem ofNat_ne_nil (n : Nat) : ofNat n ≠ [] := by
  rw [ofNat, Ne, List.map_eq_nil_iff]
  exact Nat.toDigits_ne_nil

theorem ofInt_ne_nil (n : Int) : ofInt n ≠ [] := by
  cases n with
  | ofNat n => exact ofNat_ne_nil n
  | negSucc n => exact List.cons_ne_nil _ _

theorem allDigits_ofNat (n : Nat) : (ofNat n).AllDigits := by
  induction n using Nat.strong_induction_on with
  | _ n ih =>
    rcases Nat.lt_or_ge n 10 with h | h
    · rw [ofNat_of_lt h]
      exact List.forall_mem_singleton.mpr (isAsciiDigit_digit h)
    · rw [ofNat_of_le h]
      exact (ih (n / 10) (by omega)).append
        (List.forall_mem_singleton.mpr (isAsciiDigit_digit (by omega)))

/-- **A printed number has its own value.** -/
theorem digitsValue_ofNat (n : Nat) : digitsValue (ofNat n) = n := by
  induction n using Nat.strong_induction_on with
  | _ n ih =>
    rcases Nat.lt_or_ge n 10 with h | h
    · rw [ofNat_of_lt h, digitsValue_singleton_digit h]
    · rw [ofNat_of_le h, digitsValue_append, ih (n / 10) (by omega),
        digitsValue_singleton_digit (by omega), List.length_singleton]
      omega

/-- The first digit of a positive number is not zero. -/
theorem exists_ofNat_eq_cons {n : Nat} (h : 0 < n) :
    ∃ c rest, ofNat n = c :: rest ∧ c ≠ ('0' : CodePoint) := by
  induction n using Nat.strong_induction_on with
  | _ n ih =>
    rcases Nat.lt_or_ge n 10 with hlt | hge
    · refine ⟨digit n, [], ofNat_of_lt hlt, fun hzero => ?_⟩
      have hval := congrArg Fin.val hzero
      rw [val_digit hlt, show (('0' : CodePoint)).val = 0x30 from rfl] at hval
      omega
    · obtain ⟨c, rest, hcons, hc⟩ := ih (n / 10) (by omega) (by omega)
      exact ⟨c, rest ++ [digit (n % 10)], by rw [ofNat_of_le hge, hcons]; rfl, hc⟩

theorem digitsValue_lt_pow {t : Text} (h : t.AllDigits) : t.digitsValue < 10 ^ t.length := by
  have hlt := lt_of_readDigits (readDigits_eq h 0)
  rwa [Nat.zero_add, Nat.one_mul] at hlt

/-- A number below a power of ten has no more digits than the power has zeros. -/
theorem length_ofNat_le {n k : Nat} (hk : 0 < k) (h : n < 10 ^ k) : (ofNat n).length ≤ k := by
  induction k generalizing n with
  | zero => exact absurd hk (Nat.lt_irrefl 0)
  | succ k ih =>
    rcases Nat.lt_or_ge n 10 with hlt | hge
    · rw [ofNat_of_lt hlt]
      exact Nat.succ_le_succ (Nat.zero_le k)
    · have hshort : n / 10 < 10 ^ k := by
        rw [Nat.pow_succ] at h
        omega
      have hpos : 0 < k := by
        rcases Nat.eq_zero_or_pos k with rfl | hpos
        · rw [Nat.pow_zero] at hshort
          omega
        · exact hpos
      rw [ofNat_of_le hge, List.length_append]
      exact Nat.succ_le_succ (ih hpos hshort)

theorem length_toDigits_mul_pow {d : Nat} (h : 0 < d) (j : Nat) :
    (Nat.toDigits 10 (d * 10 ^ j)).length = (Nat.toDigits 10 d).length + j := by
  induction j with
  | zero => rw [Nat.pow_zero, Nat.mul_one, Nat.add_zero]
  | succ j ih =>
    have hpos : 0 < d * 10 ^ j := Nat.mul_pos h (Nat.pow_pos (by decide))
    rw [Nat.pow_succ, ← Nat.mul_assoc, Nat.toDigits_of_base_le (by decide) (by omega),
      Nat.mul_div_cancel _ (by decide), List.length_append, ih]
    rfl

/-! ## Zeros at the end -/

/-- A text is what is left of it without the copies of `c` at its end, and those copies. -/
theorem eq_dropTrailing_append (c : CodePoint) (t : Text) :
    ∃ n, t = dropTrailing c t ++ List.replicate n c := by
  refine ⟨(t.reverse.takeWhile (· == c)).length, ?_⟩
  have hsplit : t.reverse = t.reverse.takeWhile (· == c) ++ t.reverse.dropWhile (· == c) :=
    List.takeWhile_append_dropWhile.symm
  have hrun : t.reverse.takeWhile (· == c) =
      List.replicate (t.reverse.takeWhile (· == c)).length c := by
    rw [List.eq_replicate_iff]
    exact ⟨rfl, fun d hd => by simpa using List.mem_takeWhile_imp hd⟩
  have := congrArg List.reverse hsplit
  rw [List.reverse_reverse, List.reverse_append] at this
  rw [hrun, List.reverse_replicate] at this
  simpa [dropTrailing] using this

end Text

/-! ## Integers -/

/-- An integer below a power of ten with as many zeros as an integer may have digits can be
written. -/
theorem Value.isWritableInt_signedInt {n : Nat} (h : n < 10 ^ maxIntegerDigits) (negative : Bool) :
    isWritableInt (signedInt negative n) = true := by
  have hvalue : (signedInt negative n).natAbs = n := by
    cases negative
    · exact Int.natAbs_natCast _
    · exact (Int.natAbs_neg _).trans (Int.natAbs_natCast _)
  rw [isWritableInt, hvalue, decide_eq_true_eq]
  exact Text.length_ofNat_le (by decide) h

end ProfileFilter
