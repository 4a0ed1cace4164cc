import ProfileFilter.Proofs.Json.Grammar
import Mathlib.Data.List.Basic

/-!
# Reading JSON

The reader takes every text of the grammar for the value it denotes (`parse_of_denotes`).
The induction is on the derivation; its statement says what the reader does with the text
when more text follows, which must close the token, and with any fuel that is not less
than the length of the text.

So texts of the grammar delimit themselves: two of them that begin the same text, with
something that closes a token after each, are equal (`append_inj_of_denotes`).
-/

namespace ProfileFilter

namespace Json

/-! ## Strings -/

theorem simpleEscape?_of_mem {e c : CodePoint} (h : (e, c) ∈ shortEscapes) :
    simpleEscape? e = some c ∧ e ≠ 'u' := by
  simp only [shortEscapes, List.mem_cons, List.not_mem_nil, or_false, Prod.mk.injEq] at h
  rcases h with ⟨rfl, rfl⟩ | ⟨rfl, rfl⟩ | ⟨rfl, rfl⟩ | ⟨rfl, rfl⟩ | ⟨rfl, rfl⟩ | ⟨rfl, rfl⟩ |
    ⟨rfl, rfl⟩ | ⟨rfl, rfl⟩ <;> decide

theorem Quoted.ne_nil {t : Text} {pieces : List Piece} (h : Quoted t pieces) : t ≠ [] := by
  cases h <;> exact List.cons_ne_nil _ _

/-- The pieces of a string are read up to its closing quote. -/
theorem scanPieces_append {t : Text} {pieces : List Piece} (h : Quoted t pieces)
    (whole rest : Text) : scanPieces whole (t ++ rest) = .ok (pieces, rest) := by
  induction h with
  | close => rw [List.singleton_append, scanPieces.eq_def]; rfl
  | plain hge hquote hslash _ ih =>
    rw [List.cons_append, scanPieces.eq_def]
    simp only [beq_iff_eq, hquote, hslash, if_false, Nat.not_lt.mpr hge, ih]
    rfl
  | short hmem _ ih =>
    obtain ⟨hescape, hu⟩ := simpleEscape?_of_mem hmem
    rw [List.cons_append, List.cons_append, scanPieces.eq_def]
    simp only [beq_iff_eq, hu, if_false, hescape, ih]
    rfl
  | unit hhex ht ih =>
    rename_i t' _
    rw [List.cons_append, List.cons_append, List.cons_append, List.cons_append, List.cons_append,
      List.cons_append, scanPieces.eq_def]
    have hne : (t' ++ rest).isEmpty = false :=
      List.isEmpty_eq_false_iff.mpr (List.append_ne_nil_of_left_ne_nil ht.ne_nil rest)
    simp only [hhex, hne, ih]
    rfl

theorem scanString_append {t : Text} {pieces : List Piece} (h : Quoted t pieces)
    (whole rest : Text) : scanString whole (t ++ rest) = .ok (spell pieces, rest) := by
  rw [scanString, scanPieces_append h]
  rfl

/-! ## Blanks -/

/-- Blanks are skipped, up to anything else. -/
theorem skipSpace_append {w : Text} (hw : IsBlank w) {c : CodePoint} (hc : isSpace c = false)
    (rest : Text) : skipSpace (w ++ c :: rest) = c :: rest := by
  rw [skipSpace, List.dropWhile_append_of_pos hw, List.dropWhile_cons_of_neg (by simp [hc])]

/-- Blanks and a comma or a bracket close a token. -/
theorem closes_append {w : Text} (hw : IsBlank w) {c : CodePoint}
    (hc : c ∈ Text.ofString ",]\x7d") (rest : Text) : Closes (w ++ c :: rest) := by
  cases w with
  | nil => exact fun d hd => .inr (Option.some.inj hd ▸ hc)
  | cons b w => exact fun d hd => .inl (Option.some.inj hd ▸ hw b List.mem_cons_self)

/-! ## Numbers and words -/

/-- A numeral without its sign begins with a digit. -/
theorem Numeral.exists_magnitude_eq {n : Numeral} (hn : n.IsValid) :
    ∃ d t, n.magnitude = d :: t ∧ d.isAsciiDigit = true := by
  have hcons : ∃ d t, n.whole = d :: t := by
    rcases hn.leading with h | ⟨d, t, h, -⟩
    · exact ⟨'0', [], h⟩
    · exact ⟨d, t, h⟩
  obtain ⟨d, t, h⟩ := hcons
  exact ⟨d, _, by rw [magnitude, h, List.cons_append], hn.whole d (h ▸ List.mem_cons_self)⟩

/-- A numeral begins with a minus sign or a digit. -/
theorem Numeral.exists_text_eq {n : Numeral} (hn : n.IsValid) :
    ∃ c t, n.text = c :: t ∧ 0x2D ≤ c.val ∧ c.val ≤ 0x39 := by
  obtain ⟨d, t, hmagnitude, hd⟩ := Numeral.exists_magnitude_eq hn
  unfold Numeral.text
  split_ifs
  · exact ⟨_, _, rfl, by decide, by decide⟩
  · rw [Text.isAsciiDigit_iff] at hd
    exact ⟨d, t, hmagnitude, by omega, hd.2⟩

theorem afterHead?_cons_of_ne {a c : CodePoint} (h : a ≠ c) (head t : Text) :
    Text.afterHead? (a :: head) (c :: t) = none := by
  rw [Text.afterHead?, if_neg (by simpa using h)]

/-- No word begins with a digit, with or without a sign before it. -/
theorem scanWord?_of_digit {d : CodePoint} (hd : d.isAsciiDigit = true) (t : Text) :
    scanWord? (d :: t) = none ∧ scanWord? ('-' :: d :: t) = none := by
  have hne : ∀ c : CodePoint, c.isAsciiDigit = false → c ≠ d := by
    rintro c hc rfl
    rw [hc] at hd
    cases hd
  simp only [scanWord?, List.findSome?_eq_none_iff, words, List.forall_mem_cons,
    Option.map_eq_none_iff]
  refine ⟨⟨?_, ?_, ?_, ?_, ?_, ?_⟩, ?_, ?_, ?_, ?_, ?_, ?_⟩
  · exact afterHead?_cons_of_ne (hne 'n' rfl) ..
  · exact afterHead?_cons_of_ne (hne 't' rfl) ..
  · exact afterHead?_cons_of_ne (hne 'f' rfl) ..
  · exact afterHead?_cons_of_ne (hne 'N' rfl) ..
  · exact afterHead?_cons_of_ne (hne 'I' rfl) ..
  · exact ⟨afterHead?_cons_of_ne (hne '-' rfl) .., fun _ h => absurd h List.not_mem_nil⟩
  · rfl
  · rfl
  · rfl
  · rfl
  · rfl
  · exact ⟨afterHead?_cons_of_ne (hne 'I' rfl) .., fun _ h => absurd h List.not_mem_nil⟩

theorem parseValue_word {fuel : Nat} {word : Text} {v : Value} (h : (word, v) ∈ words)
    (rest : Text) : parseValue (fuel + 1) (word ++ rest) = .ok (v, rest) := by
  simp only [words, List.mem_cons, List.not_mem_nil, or_false, Prod.mk.injEq] at h
  rcases h with ⟨rfl, rfl⟩ | ⟨rfl, rfl⟩ | ⟨rfl, rfl⟩ | ⟨rfl, rfl⟩ | ⟨rfl, rfl⟩ | ⟨rfl, rfl⟩ <;> rfl

theorem parseValue_number {fuel : Nat} {n : Numeral} (hn : n.IsValid) {rest : Text}
    (hrest : Closes rest) : parseValue (fuel + 1) (n.text ++ rest) = .ok (n.value, rest) := by
  obtain ⟨d, t, hmagnitude, hd⟩ := Numeral.exists_magnitude_eq hn
  have hscan := Numeral.scanNumber_eq hn hrest
  have hword := scanWord?_of_digit hd (t ++ rest)
  rw [hmagnitude, List.cons_append] at hscan
  have hne : ∀ c : CodePoint, c.isAsciiDigit = false → (d == c) = false := by
    intro c hc
    rw [beq_eq_false_iff_ne]
    rintro rfl
    rw [hc] at hd
    cases hd
  unfold Numeral.text
  split_ifs with hsign
  · rw [hsign] at hscan
    rw [hmagnitude, List.cons_append, List.cons_append, parseValue.eq_def]
    simp only [hword.2]
    exact hscan _
  · rw [Bool.eq_false_iff.mpr hsign] at hscan
    rw [hmagnitude, List.cons_append, parseValue.eq_def]
    simp only [hword.1, hne 0x22 rfl, hne 0x7B rfl, hne 0x5B rfl, hne '-' rfl,
      Bool.false_eq_true, if_false]
    exact hscan _

/-! ## Lists and mappings -/

section

variable {fuel : Nat} {w : Text} {v : Value} {t rest : Text}

theorem parseItems_last {done : List Value} (hw : IsBlank w)
    (hv : parseValue fuel t = .ok (v, w ++ 0x5D :: rest)) :
    parseItems (fuel + 1) done t = .ok (.list (v :: done).reverse, rest) := by
  rw [parseItems, hv]
  simp only [@skipSpace_append _ hw 0x5D rfl]
  rfl

theorem parseItems_more {done : List Value} (hw : IsBlank w)
    (hv : parseValue fuel t = .ok (v, w ++ 0x2C :: rest)) :
    parseItems (fuel + 1) done t = parseItems fuel (v :: done) (skipSpace rest) := by
  rw [parseItems, hv]
  simp only [@skipSpace_append _ hw 0x2C rfl]
  rfl

variable {k w₁ w₂ : Text} {pieces : List Piece} {done : List (Text × Value)}

theorem parseMembers_last (hk : Quoted k pieces) (hw₁ : IsBlank w₁) (hw : IsBlank w)
    (hv : parseValue fuel (skipSpace t) = .ok (v, w ++ 0x7D :: rest)) :
    parseMembers (fuel + 1) done (0x22 :: (k ++ (w₁ ++ 0x3A :: t))) =
      .ok (mappingOf ((spell pieces, v) :: done).reverse, rest) := by
  rw [parseMembers, if_pos (beq_self_eq_true _), scanString_append hk]
  simp only [@skipSpace_append _ hw₁ 0x3A rfl]
  rw [if_pos (show ((0x3A : CodePoint) == (':' : CodePoint)) = true from rfl), hv]
  simp only [@skipSpace_append _ hw 0x7D rfl]
  rfl

theorem parseMembers_more (hk : Quoted k pieces) (hw₁ : IsBlank w₁) (hw : IsBlank w)
    (hv : parseValue fuel (skipSpace t) = .ok (v, w ++ 0x2C :: rest)) :
    parseMembers (fuel + 1) done (0x22 :: (k ++ (w₁ ++ 0x3A :: t))) =
      parseMembers fuel ((spell pieces, v) :: done) (skipSpace rest) := by
  rw [parseMembers, if_pos (beq_self_eq_true _), scanString_append hk]
  simp only [@skipSpace_append _ hw₁ 0x3A rfl]
  rw [if_pos (show ((0x3A : CodePoint) == (':' : CodePoint)) = true from rfl), hv]
  simp only [@skipSpace_append _ hw 0x2C rfl]
  rfl

end

/-- Every value begins with something that is neither a blank nor a closing bracket. -/
theorem Denotes.exists_cons {keys : KeyRule} {s : Text} {v : Value} (h : Denotes keys s v) :
    ∃ c t, s = c :: t ∧ isSpace c = false ∧ c ≠ 0x5D := by
  cases h with
  | null => exact ⟨_, _, rfl, by decide⟩
  | bool b => cases b <;> exact ⟨_, _, rfl, by decide⟩
  | number hn =>
    obtain ⟨c, t, htext, hlow, hhigh⟩ := Numeral.exists_text_eq hn
    refine ⟨c, t, htext, ?_, ?_⟩
    · simp only [isSpace, Bool.or_eq_false_iff, beq_eq_false_iff_ne]
      refine ⟨⟨⟨?_, ?_⟩, ?_⟩, ?_⟩ <;> rintro rfl <;> exact absurd hlow (by decide)
    · rintro rfl
      exact absurd hhigh (by decide)
  | string _ => exact ⟨_, _, rfl, by decide⟩
  | emptyList _ => exact ⟨_, _, rfl, by decide⟩
  | list _ _ => exact ⟨_, _, rfl, by decide⟩
  | emptyMapping _ => exact ⟨_, _, rfl, by decide⟩
  | mapping _ _ _ => exact ⟨_, _, rfl, by decide⟩

theorem Items.exists_cons {keys : KeyRule} {s : Text} {items : List Value}
    (h : Items keys s items) : ∃ c t, s = c :: t ∧ isSpace c = false ∧ c ≠ 0x5D := by
  cases h with
  | last hs _ =>
    obtain ⟨c, t, rfl, hc⟩ := hs.exists_cons
    exact ⟨c, _, rfl, hc⟩
  | more hs _ _ _ =>
    obtain ⟨c, t, rfl, hc⟩ := hs.exists_cons
    exact ⟨c, _, rfl, hc⟩

theorem Members.exists_cons {keys : KeyRule} {s : Text} {members : List (Text × Value)}
    (h : Members keys s members) : ∃ t, s = 0x22 :: t := by
  cases h <;> exact ⟨_, rfl⟩

/-! ## The reader on texts of the grammar -/

/-- A value after blanks. -/
theorem Denotes.skipSpace_eq {keys : KeyRule} {s w : Text} {v : Value} (h : Denotes keys s v)
    (hw : IsBlank w) (rest : Text) : skipSpace (w ++ (s ++ rest)) = s ++ rest := by
  obtain ⟨c, t, rfl, hc, -⟩ := h.exists_cons
  exact skipSpace_append hw hc _

theorem Items.skipSpace_eq {keys : KeyRule} {t w : Text} {items : List Value}
    (h : Items keys t items) (hw : IsBlank w) (rest : Text) :
    skipSpace (w ++ (t ++ rest)) = t ++ rest := by
  obtain ⟨c, t, rfl, hc, -⟩ := h.exists_cons
  exact skipSpace_append hw hc _

theorem Members.skipSpace_eq {keys : KeyRule} {t w : Text} {members : List (Text × Value)}
    (h : Members keys t members) (hw : IsBlank w) (rest : Text) :
    skipSpace (w ++ (t ++ rest)) = t ++ rest := by
  obtain ⟨t, rfl⟩ := h.exists_cons
  exact skipSpace_append hw rfl _

theorem Denotes.length_pos {keys : KeyRule} {s : Text} {v : Value} (h : Denotes keys s v) :
    0 < s.length := by
  obtain ⟨c, t, rfl, -⟩ := h.exists_cons
  exact Nat.succ_pos _

mutual

theorem parseValue_append {keys : KeyRule} {s : Text} {v : Value} :
    Denotes keys s v → ∀ (fuel : Nat) (rest : Text), s.length ≤ fuel + 1 → Closes rest →
      parseValue (fuel + 1) (s ++ rest) = .ok (v, rest)
  | .null, _, rest, _, _ => parseValue_word (by decide) rest
  | .bool true, _, rest, _, _ => parseValue_word (by decide) rest
  | .bool false, _, rest, _, _ => parseValue_word (by decide) rest
  | .number hn, _, _, _, hrest => parseValue_number hn hrest
  | .string hq, _, rest, _, _ => by
    rw [List.cons_append, parseValue, if_pos (beq_self_eq_true _), scanString_append hq]
    rfl
  | .emptyList hw, _, rest, _, _ => by
    rw [List.cons_append, List.append_assoc, List.singleton_append, parseValue.eq_def]
    simp only [@skipSpace_append _ hw 0x5D rfl]
    rfl
  | .list hw hitems, fuel, rest, hfuel, _ => by
    -- the opening bracket uses up one unit of fuel, and one of length
    have hread := parseItems_append hitems fuel [] rest (by
      simp only [List.length_cons, List.length_append] at hfuel
      omega)
    obtain ⟨c, t, rfl, hc, hclose⟩ := hitems.exists_cons
    rw [List.cons_append, List.append_assoc, List.cons_append, parseValue.eq_def]
    simp only [skipSpace_append hw hc, beq_eq_false_iff_ne.mpr hclose]
    exact hread
  | .emptyMapping hw, _, rest, _, _ => by
    rw [List.cons_append, List.append_assoc, List.singleton_append, parseValue.eq_def]
    simp only [@skipSpace_append _ hw 0x7D rfl]
    rfl
  | .mapping hw hmembers _, fuel, rest, hfuel, _ => by
    have hread := parseMembers_append hmembers fuel [] rest (by
      simp only [List.length_cons, List.length_append] at hfuel
      omega)
    obtain ⟨t, rfl⟩ := hmembers.exists_cons
    rw [List.cons_append, List.append_assoc, List.cons_append, parseValue.eq_def]
    simp only [@skipSpace_append _ hw 0x22 rfl]
    exact hread

theorem parseItems_append {keys : KeyRule} {t : Text} {items : List Value} :
    Items keys t items → ∀ (fuel : Nat) (done : List Value) (rest : Text), t.length ≤ fuel →
      parseItems fuel done (t ++ rest) = .ok (.list (done.reverse ++ items), rest)
  | @Items.last _ s w v hv hw, fuel, done, rest, hfuel => by
    have hpos := hv.length_pos
    simp only [List.length_append, List.length_singleton] at hfuel
    obtain ⟨k, rfl⟩ : ∃ k, fuel = k + 2 := ⟨fuel - 2, by omega⟩
    have hread := parseValue_append hv k (w ++ 0x5D :: rest) (by omega)
      (closes_append hw (by decide) rest)
    simp only [List.append_assoc, List.singleton_append]
    rw [parseItems_last hw hread, List.reverse_cons]
  | @Items.more _ s w w' t v items hv hw hw' hitems, fuel, done, rest, hfuel => by
    have hpos := hv.length_pos
    simp only [List.length_append, List.length_cons] at hfuel
    obtain ⟨k, rfl⟩ : ∃ k, fuel = k + 2 := ⟨fuel - 2, by omega⟩
    have hread := parseValue_append hv k (w ++ 0x2C :: (w' ++ (t ++ rest))) (by omega)
      (closes_append hw (by decide) _)
    have hothers := parseItems_append hitems (k + 1) (v :: done) rest (by omega)
    simp only [List.append_assoc, List.cons_append]
    rw [parseItems_more hw hread, hitems.skipSpace_eq hw', hothers, List.reverse_cons,
      List.append_assoc, List.singleton_append]

theorem parseMembers_append {keys : KeyRule} {t : Text} {members : List (Text × Value)} :
    Members keys t members → ∀ (fuel : Nat) (done : List (Text × Value)) (rest : Text),
      t.length ≤ fuel →
      parseMembers fuel done (t ++ rest) = .ok (mappingOf (done.reverse ++ members), rest)
  | @Members.last _ k w₁ w₂ s w₃ pieces v hk hw₁ hw₂ hv hw₃, fuel, done, rest, hfuel => by
    have hpos := hv.length_pos
    simp only [List.length_cons, List.length_append] at hfuel
    obtain ⟨n, rfl⟩ : ∃ n, fuel = n + 2 := ⟨fuel - 2, by omega⟩
    have hread := parseValue_append hv n (w₃ ++ 0x7D :: rest) (by omega)
      (closes_append hw₃ (by decide) rest)
    simp only [List.cons_append, List.append_assoc, List.nil_append]
    rw [parseMembers_last hk hw₁ hw₃ (by rw [hv.skipSpace_eq hw₂, hread]), List.reverse_cons]
  | @Members.more _ k w₁ w₂ s w₃ w₄ t pieces v members hk hw₁ hw₂ hv hw₃ hw₄ hmembers, fuel, done,
      rest, hfuel => by
    have hpos := hv.length_pos
    simp only [List.length_cons, List.length_append] at hfuel
    obtain ⟨n, rfl⟩ : ∃ n, fuel = n + 2 := ⟨fuel - 2, by omega⟩
    have hread := parseValue_append hv n (w₃ ++ 0x2C :: (w₄ ++ (t ++ rest))) (by omega)
      (closes_append hw₃ (by decide) _)
    have hothers := parseMembers_append hmembers (n + 1) ((spell pieces, v) :: done) rest
      (by omega)
    simp only [List.cons_append, List.append_assoc]
    rw [parseMembers_more hk hw₁ hw₃ (by rw [hv.skipSpace_eq hw₂, hread]),
      hmembers.skipSpace_eq hw₄, hothers, List.reverse_cons, List.append_assoc,
      List.singleton_append]

end

variable {keys : KeyRule} {s s' : Text} {v v' : Value}

/-- **The reader takes a text of the grammar for the value it denotes**, whatever blanks follow. -/
theorem parse_append (h : Denotes keys s v) {w : Text} (hw : IsBlank w) :
    parse (s ++ w) = .ok v := by
  have hcloses : Closes w := fun c hc => .inl (hw c (List.mem_of_mem_head? hc))
  have hread := parseValue_append h (s ++ w).length w (by rw [List.length_append]; omega) hcloses
  have hspace : skipSpace (s ++ w) = s ++ w :=
    h.skipSpace_eq (fun _ hmem => absurd hmem List.not_mem_nil) w
  have hend : skipSpace w = [] := List.dropWhile_eq_nil_iff.mpr hw
  rw [parse, hspace, hread]
  simp only [hend]

theorem parse_of_denotes (h : Denotes keys s v) : parse s = .ok v := by
  have hread := parse_append h (w := []) fun _ hmem => absurd hmem List.not_mem_nil
  rwa [List.append_nil] at hread

/-- **Texts of the grammar delimit themselves.** -/
theorem append_inj_of_denotes (h : Denotes keys s v) (h' : Denotes keys s' v') {r r' : Text}
    (hr : Closes r) (hr' : Closes r') (heq : s ++ r = s' ++ r') : s = s' ∧ r = r' := by
  have hread := parseValue_append h (s.length + s'.length) r (by omega) hr
  have hread' := parseValue_append h' (s.length + s'.length) r' (by omega) hr'
  rw [heq, hread'] at hread
  obtain ⟨-, rfl⟩ := Prod.mk.inj (Except.ok.inj hread)
  exact ⟨List.append_cancel_right heq, rfl⟩

end Json

end ProfileFilter
