import ProfileFilter.Condition.Coercion
import ProfileFilter.Proofs.Value.Tellable

/-!
# What coercion can hide

Explanations tell the values of items as they were entered, nodes hold them coerced. So a
lone surrogate could be told although no node holds it, if coercion could make it vanish.
It cannot: a text that spells a number or a truth value holds none, and all that is lost
of other values is blanks and commas.

Main statement: `isTellable_of_coerceValue`.
-/

namespace ProfileFilter

/-! ## Numbers -/

namespace CodePoint

/-- The runs of decimal digits lie before and after the surrogates. -/
theorem isSurrogate_of_decimalValue? {c : CodePoint} {d : Nat} (h : c.decimalValue? = some d) :
    c.isSurrogate = false := by
  obtain ⟨start, hfind, -⟩ := Option.map_eq_some_iff.mp h
  have hruns : ∀ start ∈ digitZeros, start + 9 < 0xD800 ∨ 0xDFFF < start := by decide
  have hrun := hruns start (List.mem_of_find?_eq_some hfind)
  have hc := List.find?_some hfind
  rw [Bool.and_eq_true, decide_eq_true_eq, decide_eq_true_eq] at hc
  rw [isSurrogate_eq_false_iff]
  omega

theorem isSurrogate_toLower (c : CodePoint) : c.toLower.isSurrogate = c.isSurrogate := by
  unfold toLower
  split_ifs with h
  · simp only [isAsciiUpper, Bool.and_eq_true, decide_eq_true_eq] at h
    have hval : (Fin.ofNat 0x110000 (c.val + 32)).val = c.val + 32 :=
      Nat.mod_eq_of_lt (by omega)
    have hsmall : isSurrogate (Fin.ofNat 0x110000 (c.val + 32)) = false :=
      isSurrogate_eq_false_iff.mpr (.inl (by omega))
    have hcapital : c.isSurrogate = false := isSurrogate_eq_false_iff.mpr (.inl (by omega))
    exact hsmall.trans hcapital.symm
  · rfl

end CodePoint

theorem Text.isEncodable_lower (t : Text) : t.lower.isEncodable = t.isEncodable := by
  rw [lower, isEncodable, List.all_map, isEncodable]
  congr 1
  funext c
  exact congrArg (!·) c.isSurrogate_toLower

/-- A text is encodable if its small form is one of the words of the library. -/
theorem Text.isEncodable_of_lower {t : Text} {word : String} (h : (t.lower == word) = true) :
    t.isEncodable = true := by
  rw [← isEncodable_lower, beq_iff_eq.mp h]
  exact isEncodable_ofString word

theorem isEncodable_splitSign (t : Text) : (splitSign t).2.isEncodable = t.isEncodable := by
  cases t with
  | nil => rfl
  | cons c rest =>
    simp only [splitSign]
    split_ifs with hminus hplus
    · rw [beq_iff_eq.mp hminus]
      rfl
    · rw [beq_iff_eq.mp hplus]
      rfl
    · rfl

theorem isEncodable_of_readDigits {t : Text} {acc n : Nat} (h : readDigits acc t = some n) :
    t.isEncodable = true := by
  induction t generalizing acc with
  | nil => rfl
  | cons c rest ih =>
    rw [readDigits] at h
    split at h
    · next d hd =>
      rw [Text.isEncodable_cons, CodePoint.isSurrogate_of_decimalValue? hd, ih h]
      rfl
    · cases h

theorem isEncodable_of_readInteger? {t : Text} {n : Int} (h : readInteger? t = some n) :
    t.isEncodable = true := by
  simp only [readInteger?] at h
  split_ifs at h
  obtain ⟨m, hm, -⟩ := Option.map_eq_some_iff.mp h
  rw [← Text.isEncodable_trim, ← isEncodable_splitSign]
  exact isEncodable_of_readDigits hm

theorem isEncodable_spanDigits (t : Text) : (spanDigits t).2.isEncodable = t.isEncodable := by
  induction t with
  | nil => rfl
  | cons c rest ih =>
    rw [spanDigits]
    split
    · next d hd =>
      rw [Text.isEncodable_cons, CodePoint.isSurrogate_of_decimalValue? hd, ← ih]
      rfl
    · rfl

theorem isEncodable_of_readExponent? {t : Text} {e : Int} (h : readExponent? t = some e) :
    t.isEncodable = true := by
  cases t with
  | nil => rfl
  | cons c rest =>
    simp only [readExponent?] at h
    split_ifs at h with hmark
    have hc : c.isSurrogate = false := by
      rw [← CodePoint.isSurrogate_toLower, beq_iff_eq.mp hmark]
      rfl
    rw [Text.isEncodable_cons, hc, ← isEncodable_splitSign, ← isEncodable_spanDigits]
    split at h
    · cases h
    · next digits hspan =>
      rw [hspan]
      rfl
    · cases h

theorem isEncodable_of_readUnsignedDecimal? {t : Text} {negative : Bool} {x : Binary64}
    (h : readUnsignedDecimal? negative t = some x) : t.isEncodable = true := by
  simp only [readUnsignedDecimal?] at h
  split_ifs at h
  obtain ⟨e, he, -⟩ := Option.map_eq_some_iff.mp h
  -- what is left after the digits and the point was read as an exponent
  have hrest := isEncodable_of_readExponent? he
  rw [← isEncodable_spanDigits]
  split at hrest
  · next c after hspan =>
    split_ifs at hrest with hpoint
    · rw [hspan, beq_iff_eq.mp hpoint, Text.isEncodable_cons, ← isEncodable_spanDigits after,
        hrest]
      rfl
    · exact hrest
  · next hspan =>
    rw [hspan]
    rfl

theorem isEncodable_of_readDecimal? {t : Text} {x : Binary64} (h : readDecimal? t = some x) :
    t.isEncodable = true := by
  rw [← Text.isEncodable_trim, ← isEncodable_splitSign]
  simp only [readDecimal?, readTrimmedDecimal?] at h
  split_ifs at h with hinfinite hnan
  · rw [Bool.or_eq_true] at hinfinite
    rcases hinfinite with hword | hword <;> exact Text.isEncodable_of_lower hword
  · exact Text.isEncodable_of_lower hnan
  · exact isEncodable_of_readUnsignedDecimal? h

theorem isEncodable_of_readBool? {t : Text} {b : Bool} (h : readBool? t = some b) :
    t.isEncodable = true := by
  rw [← Text.isEncodable_trim]
  simp only [readBool?] at h
  split_ifs at h with hyes hno
  · simp only [Bool.or_eq_true] at hyes
    rcases hyes with (hword | hword) | hword <;> exact Text.isEncodable_of_lower hword
  · simp only [Bool.or_eq_true] at hno
    rcases hno with (hword | hword) | hword <;> exact Text.isEncodable_of_lower hword

/-- **A text that spells a value of some type is encodable.** -/
theorem isEncodable_of_readAs? {type : AttributeType} {t : Text} {v : Value}
    (h : readAs? type t = some v) : t.isEncodable = true := by
  cases type with
  | integer =>
    obtain ⟨n, hn, -⟩ := Option.map_eq_some_iff.mp h
    exact isEncodable_of_readInteger? hn
  | decimal =>
    obtain ⟨x, hx, -⟩ := Option.map_eq_some_iff.mp h
    exact isEncodable_of_readDecimal? (Option.filter_eq_some_iff.mp hx).1
  | boolean =>
    obtain ⟨b, hb, -⟩ := Option.map_eq_some_iff.mp h
    exact isEncodable_of_readBool? hb
  | _ => cases h

/-! ## Values -/

variable {v : Value}

theorem isTellable_of_coerceScalar {type : Option AttributeType}
    (h : (coerceScalar type v).isTellable = true) : v.isTellable = true := by
  unfold coerceScalar at h
  split at h
  · next type t =>
    cases hread : readAs? type t with
    | none =>
      rw [hread] at h
      exact h
    | some w => exact isEncodable_of_readAs? hread
  · exact h

/-- A piece that is dropped is blank, and a text that is trimmed loses blanks only. -/
theorem isTellable_of_trimPiece? (h : ∀ piece, trimPiece? v = some piece → piece.isTellable = true) :
    v.isTellable = true := by
  cases v with
  | text t =>
    show t.isEncodable = true
    rw [← Text.isEncodable_trim]
    simp only [trimPiece?] at h
    split_ifs at h with hblank
    · rw [List.isEmpty_iff.mp hblank]
      rfl
    · exact h _ rfl
  | _ => exact h _ rfl

theorem isTellable_of_splitListValue
    (h : ∀ piece ∈ splitListValue v, piece.isTellable = true) : v.isTellable = true := by
  have hpieces : ∀ items : List Value,
      (∀ piece ∈ items.filterMap trimPiece?, piece.isTellable = true) →
        ∀ w ∈ items, w.isTellable = true := by
    intro items hitems w hw
    refine isTellable_of_trimPiece? fun piece hpiece => ?_
    exact hitems piece (List.mem_filterMap.mpr ⟨w, hw, hpiece⟩)
  cases v with
  | null => rfl
  | text t =>
    show t.isEncodable = true
    rw [← Text.all_isEncodable_splitOn (show CodePoint.isSurrogate ',' = false from rfl),
      List.all_eq_true]
    intro part hpart
    exact hpieces _ h (.text part) (List.mem_map_of_mem hpart)
  | list items => exact Value.isTellable_list.mpr (hpieces items h)
  | tuple items => exact Value.isTellable_list.mpr (hpieces items h)
  | _ => exact h _ (List.mem_singleton_self _)

/-- **Coercion hides nothing**: a value can be told if what coercion makes of it can. -/
theorem isTellable_of_coerceValue {type : Option AttributeType} {operator : Option Text}
    (h : (coerceValue type operator v).isTellable = true) : v.isTellable = true := by
  unfold coerceValue at h
  split_ifs at h
  · refine isTellable_of_splitListValue fun piece hpiece => ?_
    exact isTellable_of_coerceScalar
      (Value.isTellable_list.mp h _ (List.mem_map_of_mem hpiece))
  · exact isTellable_of_coerceScalar h

end ProfileFilter
