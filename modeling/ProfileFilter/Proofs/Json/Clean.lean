import ProfileFilter.Proofs.Json.Printing

/-!
# No control characters

Whatever is in a value, its compact text holds no code point below U+0020: strings escape
them, and no token or punctuation is one (`isClean_of_compactWith`).
-/

namespace ProfileFilter

namespace Json

/-- No control character occurs in the text. -/
def IsClean (t : Text) : Prop := ∀ c ∈ t, 0x20 ≤ c.val

instance decidableIsClean (t : Text) : Decidable (IsClean t) :=
  List.decidableBAll _ t

theorem isClean_cons {c : CodePoint} {t : Text} : IsClean (c :: t) ↔ 0x20 ≤ c.val ∧ IsClean t :=
  List.forall_mem_cons

theorem isClean_append {s t : Text} : IsClean (s ++ t) ↔ IsClean s ∧ IsClean t :=
  List.forall_mem_append

theorem isClean_join {texts : List Text} (h : ∀ t ∈ texts, IsClean t) :
    IsClean (Text.join [0x2C] texts) := by
  induction texts with
  | nil => exact fun _ hc => absurd hc List.not_mem_nil
  | cons t rest ih =>
    obtain ⟨ht, hrest⟩ := List.forall_mem_cons.mp h
    cases rest with
    | nil => exact ht
    | cons u rest =>
      rw [Text.join_cons_cons, isClean_append, isClean_append]
      exact ⟨⟨ht, by decide⟩, ih hrest⟩

theorem isClean_escape (c : CodePoint) : IsClean (escape c) := by
  rcases escape_cases c with ⟨e, he, hmem⟩ | ⟨hlt, he⟩ | ⟨hge, -, -, he⟩
  · have hall : shortEscapes.all (fun p => decide (0x20 ≤ p.1.val)) = true := by decide
    have hletter := of_decide_eq_true (List.all_eq_true.mp hall _ hmem)
    rw [he]
    exact isClean_cons.mpr ⟨by decide, List.forall_mem_singleton.mpr hletter⟩
  · have hall : ∀ n < 0x20, IsClean (0x5C :: ('u' : CodePoint) :: Text.hexPadded 4 n) := by
      decide
    rw [he]
    exact hall _ hlt
  · rw [he]
    exact List.forall_mem_singleton.mpr hge

theorem isClean_string (t : Text) : IsClean (string t) := by
  rw [string_eq, isClean_cons, isClean_append]
  refine ⟨by decide, fun c hc => ?_, by decide⟩
  obtain ⟨d, -, hd⟩ := List.mem_flatMap.mp hc
  exact isClean_escape d c hd

/-! ## Tokens -/

/-- The text consists of ASCII characters that are printed. -/
def IsToken (t : Text) : Prop := ∀ c ∈ t, 0x20 ≤ c.val ∧ c.val < 0x7F

instance decidableIsToken (t : Text) : Decidable (IsToken t) :=
  List.decidableBAll _ t

theorem IsToken.isClean {t : Text} (h : IsToken t) : IsClean t := fun c hc => (h c hc).1

theorem IsToken.append {s t : Text} (hs : IsToken s) (ht : IsToken t) : IsToken (s ++ t) :=
  List.forall_mem_append.mpr ⟨hs, ht⟩

theorem isToken_of_allDigits {t : Text} (h : t.AllDigits) : IsToken t := by
  intro c hc
  have hdigit := Text.isAsciiDigit_iff.mp (h c hc)
  omega

theorem Numeral.isToken_text {n : Numeral} (hn : n.IsValid) : IsToken n.text := by
  have hfraction : IsToken (fractionText n.fraction) := by
    cases hf : n.fraction with
    | nil => exact fun _ hc => absurd hc List.not_mem_nil
    | cons c digits =>
      exact IsToken.append (s := ".") (by decide) (isToken_of_allDigits (hf ▸ hn.fraction))
  have hexponent : IsToken (exponentText n.exponent) := by
    cases he : n.exponent with
    | none => exact fun _ hc => absurd hc List.not_mem_nil
    | some e =>
      obtain ⟨mark, digits⟩ := e
      obtain ⟨hmark, hdigits, -⟩ := hn.exponent mark digits he
      have hall : ∀ mark ∈ exponentMarks, IsToken mark := by decide
      exact (hall mark hmark).append (isToken_of_allDigits hdigits)
  have hmagnitude : IsToken n.magnitude :=
    (isToken_of_allDigits hn.whole).append (hfraction.append hexponent)
  unfold text
  split_ifs
  · exact IsToken.append (s := "-") (by decide) hmagnitude
  · exact hmagnitude

theorem isToken_of_integerToken {n : Int} {s : Text} (h : integerToken n = .ok s) : IsToken s := by
  obtain ⟨hwritable, rfl⟩ := integerToken_eq_ok.mp h
  exact Numeral.isToken_text (Numeral.isValid_ofInt hwritable)

theorem isToken_of_floatToken {rule : NumberRule} {x : Binary64} {s : Text}
    (h : floatToken rule x = .ok s) : IsToken s := by
  cases x with
  | finite negative mantissa exponent =>
    obtain ⟨n, hn, -, rfl⟩ := exists_of_floatToken (x := .finite negative mantissa exponent) h
    exact Numeral.isToken_text hn
  | nan =>
    simp only [floatToken] at h
    split_ifs at h
    obtain rfl := Except.ok.inj h
    decide
  | infinite negative =>
    simp only [floatToken] at h
    split_ifs at h <;>
    · obtain rfl := Except.ok.inj h
      decide

/-! ## Values -/

theorem isClean_scalar {v : Value} {s : Text} (h : scalar .strict v = .ok s) : IsClean s := by
  have hstring : ∀ t, Except.ok (string t) = (Except.ok s : Except Unprintable Text) →
      IsClean s := by
    intro t ht
    rw [← Except.ok.inj ht]
    exact isClean_string t
  cases v with
  | null =>
    obtain rfl := Except.ok.inj h
    decide
  | bool b =>
    obtain rfl := Except.ok.inj h
    cases b <;> decide
  | int n => exact (isToken_of_integerToken h).isClean
  | float x => exact (isToken_of_floatToken h).isClean
  | _ => exact hstring _ h

mutual

/-- **No control character is ever printed.** -/
theorem isClean_of_compactWith : ∀ {v : Value} {s : Text},
    compactWith .strict v = .ok s → IsClean s
  | .list items, s, h => by
    obtain ⟨texts, htexts, rfl⟩ := compactWith_list_eq_ok.mp h
    rw [isClean_cons, isClean_append]
    exact ⟨by decide, isClean_join (isClean_of_compactItems htexts), by decide⟩
  | .tuple items, s, h => by
    rw [compactWith_tuple] at h
    obtain ⟨texts, htexts, rfl⟩ := compactWith_list_eq_ok.mp h
    rw [isClean_cons, isClean_append]
    exact ⟨by decide, isClean_join (isClean_of_compactItems htexts), by decide⟩
  | .mapping entries, s, h => by
    obtain ⟨texts, htexts, rfl⟩ := compactWith_mapping_eq_ok.mp h
    rw [isClean_cons, isClean_append]
    exact ⟨by decide, isClean_join (isClean_of_compactEntries htexts), by decide⟩
  | .null, s, h => @isClean_scalar .null s h
  | .bool b, s, h => @isClean_scalar (.bool b) s h
  | .int n, s, h => @isClean_scalar (.int n) s h
  | .float x, s, h => @isClean_scalar (.float x) s h
  | .text t, s, h => @isClean_scalar (.text t) s h
  | .date d, s, h => @isClean_scalar (.date d) s h
  | .dateTime d, s, h => @isClean_scalar (.dateTime d) s h

theorem isClean_of_compactItems : ∀ {items : List Value} {texts : List Text},
    compactItems .strict items = .ok texts → ∀ t ∈ texts, IsClean t
  | [], texts, h => by
    obtain rfl := Except.ok.inj h
    exact fun _ ht => absurd ht List.not_mem_nil
  | v :: rest, texts, h => by
    obtain ⟨first, others, hfirst, hothers, rfl⟩ := compactItems_cons_eq_ok.mp h
    exact List.forall_mem_cons.mpr
      ⟨isClean_of_compactWith hfirst, isClean_of_compactItems hothers⟩

theorem isClean_of_compactEntries : ∀ {entries : Entries} {texts : List Text},
    compactEntries .strict entries = .ok texts → ∀ t ∈ texts, IsClean t
  | [], texts, h => by
    obtain rfl := Except.ok.inj h
    exact fun _ ht => absurd ht List.not_mem_nil
  | (k, v) :: rest, texts, h => by
    obtain ⟨key, value, others, -, hvalue, hothers, rfl⟩ := compactEntries_cons_eq_ok.mp h
    refine List.forall_mem_cons.mpr ⟨?_, isClean_of_compactEntries hothers⟩
    rw [isClean_append, isClean_cons]
    exact ⟨isClean_string key, by decide, isClean_of_compactWith hvalue⟩

end

end Json

end ProfileFilter
