import ProfileFilter.Proofs.Json.Indented

/-!
# Words for numbers

JSON has no words for numbers that are not finite, but the printer writes them: `NaN` and
`Infinity`. A text may hold such a word inside a string, where it does no harm; so it is asked
where a reader stands (`Stand`), and what is left of a text without its strings (`unquoted`).

No text of the grammar has one of the words outside its strings (`Denotes.not_hasNumberWord`), and
the text of a value has one if a number in the value is not finite
(`hasNumberWord_of_indentedAt`).
-/

namespace ProfileFilter

namespace Value

mutual

/-- Are all numbers in the value finite? Keys do not count: they become strings. -/
def allFinite : Value → Bool
  | .float x => x.isFinite
  | .list items | .tuple items => areFinite items
  | .mapping entries => entriesAreFinite entries
  | _ => true

/-- Are all numbers in the items finite? -/
def areFinite : List Value → Bool
  | [] => true
  | v :: rest => allFinite v && areFinite rest

/-- Are all numbers in the values of the entries finite? -/
def entriesAreFinite : List (Value × Value) → Bool
  | [] => true
  | (_, v) :: rest => allFinite v && entriesAreFinite rest

end

@[simp] theorem areFinite_eq (items : List Value) : areFinite items = items.all allFinite := by
  induction items with
  | nil => rfl
  | cons v rest ih => rw [areFinite, ih, List.all_cons]

theorem allFinite_record (fields : List (Text × Value)) :
    (record fields).allFinite = fields.all fun field => field.2.allFinite := by
  rw [record, allFinite]
  induction fields with
  | nil => rfl
  | cons field rest ih => rw [List.map_cons, entriesAreFinite, ih, List.all_cons]

end Value

namespace Json

/-! ## Outside strings -/

/-- Where a reader stands in a text. -/
inductive Stand where
  /-- between strings -/
  | outside
  /-- in a string -/
  | inside
  /-- in a string, after a backslash -/
  | escaped
deriving DecidableEq, Repr

/-- Where the reader stands after a code point. -/
def Stand.next : Stand → CodePoint → Stand
  | .outside, c => if c = 0x22 then .inside else .outside
  | .inside, c => if c = 0x22 then .outside else if c = 0x5C then .escaped else .inside
  | .escaped, _ => .inside

/-- Where the reader stands after a text. -/
def standAfter (stand : Stand) (t : Text) : Stand := t.foldl Stand.next stand

/-- The code points that a reader meets outside strings, opening quotes included. -/
def unquotedFrom : Stand → Text → Text
  | _, [] => []
  | .outside, c :: t => c :: unquotedFrom (Stand.outside.next c) t
  | stand, c :: t => unquotedFrom (stand.next c) t

/-- The text without what stands in its strings. -/
def unquoted (t : Text) : Text := unquotedFrom .outside t

/-- Every string in the text is closed. -/
def IsWhole (t : Text) : Prop := standAfter .outside t = .outside

theorem unquotedFrom_append (stand : Stand) (s t : Text) :
    unquotedFrom stand (s ++ t) = unquotedFrom stand s ++ unquotedFrom (standAfter stand s) t := by
  induction s generalizing stand with
  | nil => rfl
  | cons c s ih =>
    cases stand with
    | outside => exact congrArg (c :: ·) (ih _)
    | inside => exact ih _
    | escaped => exact ih _

variable {s t : Text}

theorem IsWhole.append (hs : IsWhole s) (ht : IsWhole t) : IsWhole (s ++ t) := by
  rw [IsWhole, standAfter, List.foldl_append]
  exact (congrArg (t.foldl Stand.next) hs).trans ht

theorem IsWhole.unquoted_append (hs : IsWhole s) (t : Text) :
    unquoted (s ++ t) = unquoted s ++ unquoted t := by
  rw [unquoted, unquotedFrom_append, hs]
  rfl

/-- A text without quotes has no strings. -/
theorem of_notMem_quote (h : 0x22 ∉ t) : IsWhole t ∧ unquoted t = t := by
  induction t with
  | nil => exact ⟨rfl, rfl⟩
  | cons c t ih =>
    rw [List.mem_cons, not_or] at h
    obtain ⟨hc, ht⟩ := h
    have hnext : Stand.outside.next c = .outside := if_neg (Ne.symm hc)
    obtain ⟨hwhole, hunquoted⟩ := ih ht
    constructor
    · rw [IsWhole, standAfter, List.foldl_cons, hnext]
      exact hwhole
    · rw [unquoted, unquotedFrom, hnext]
      exact congrArg (c :: ·) hunquoted

/-- The text ends the string that it begins in, and holds nothing else. -/
def EndsString (t : Text) : Prop := standAfter .inside t = .outside ∧ unquotedFrom .inside t = []

theorem EndsString.plain {c : CodePoint} (hc : c ≠ 0x22 ∧ c ≠ 0x5C) (h : EndsString t) :
    EndsString (c :: t) := by
  have hnext : Stand.inside.next c = .inside := by
    rw [Stand.next, if_neg hc.1, if_neg hc.2]
  rw [EndsString, standAfter, List.foldl_cons, unquotedFrom, hnext]
  · exact h
  · exact nofun

/-- A hexadecimal digit is neither a quote nor a backslash. -/
theorem ne_of_hexValue? {c : CodePoint} {n : Nat} (h : c.hexValue? = some n) :
    c ≠ 0x22 ∧ c ≠ 0x5C := by
  constructor <;>
  · rintro rfl
    cases h

/-- A string is closed by its last quote. -/
theorem Quoted.endsString {pieces : List Piece} (h : Quoted t pieces) : EndsString t := by
  -- a quote that is part of the string stands after a backslash
  induction h with
  | close => exact ⟨rfl, rfl⟩
  | plain _ hquote hslash _ ih => exact ih.plain ⟨hquote, hslash⟩
  | short _ _ ih => exact ih
  | @unit h₁ h₂ h₃ h₄ n t _ hhex _ ih =>
    simp only [hex4?, Option.bind_eq_bind, Option.bind_eq_some_iff] at hhex
    obtain ⟨a, ha, b, hb, c, hc, d, hd, -⟩ := hhex
    -- the backslash takes the letter, and the digits are code points like others
    have hdigits : EndsString (h₁ :: h₂ :: h₃ :: h₄ :: t) :=
      (((ih.plain (ne_of_hexValue? hd)).plain (ne_of_hexValue? hc)).plain
        (ne_of_hexValue? hb)).plain (ne_of_hexValue? ha)
    exact hdigits

/-- Of a string, only its opening quote stands outside. -/
theorem Quoted.isWhole {pieces : List Piece} (h : Quoted t pieces) :
    IsWhole (0x22 :: t) ∧ unquoted (0x22 :: t) = [0x22] :=
  ⟨h.endsString.1, congrArg (0x22 :: ·) h.endsString.2⟩

/-! ## The words -/

/-- The words for numbers that are not finite, signs apart. -/
def numberWords : List Text := ["NaN", "Infinity"]

/-- A word for a number that is not finite stands outside the strings of the text. -/
def HasNumberWord (t : Text) : Prop := ∃ word ∈ numberWords, word <:+: unquoted t

theorem HasNumberWord.append_left (hs : IsWhole s) (ht : HasNumberWord t) :
    HasNumberWord (s ++ t) := by
  obtain ⟨word, hword, hin⟩ := ht
  refine ⟨word, hword, ?_⟩
  rw [hs.unquoted_append]
  exact hin.trans (List.suffix_append _ _).isInfix

theorem HasNumberWord.append_right (hs : HasNumberWord s) (t : Text) :
    HasNumberWord (s ++ t) := by
  obtain ⟨word, hword, hin⟩ := hs
  refine ⟨word, hword, ?_⟩
  rw [unquoted, unquotedFrom_append]
  exact hin.trans (List.prefix_append _ _).isInfix

/-! ## Texts of the grammar -/

/-- The text is whole, and the letters that the words begin with do not stand outside strings. -/
structure IsWordless (t : Text) : Prop where
  /-- strings are closed -/
  whole : IsWhole t
  /-- no word can begin -/
  letters : ∀ c ∈ unquoted t, c ≠ 'N' ∧ c ≠ 'I'

theorem IsWordless.not_hasNumberWord (h : IsWordless t) : ¬ HasNumberWord t := by
  rintro ⟨word, hword, hin⟩
  have hfirst : ('N' : CodePoint) ∈ word ∨ ('I' : CodePoint) ∈ word := by
    rcases List.mem_pair.mp hword with rfl | rfl
    · exact .inl (by decide)
    · exact .inr (by decide)
  rcases hfirst with hmem | hmem
  · exact (h.letters _ (hin.subset hmem)).1 rfl
  · exact (h.letters _ (hin.subset hmem)).2 rfl

theorem IsWordless.append (hs : IsWordless s) (ht : IsWordless t) : IsWordless (s ++ t) where
  whole := hs.whole.append ht.whole
  letters := by
    rw [hs.whole.unquoted_append]
    exact List.forall_mem_append.mpr ⟨hs.letters, ht.letters⟩

/-- The text has neither quotes nor one of the two letters. -/
def IsBare (t : Text) : Prop := ∀ c ∈ t, c ≠ 0x22 ∧ c ≠ 'N' ∧ c ≠ 'I'

instance decidableIsBare (t : Text) : Decidable (IsBare t) :=
  List.decidableBAll _ t

theorem IsBare.isWordless (h : IsBare t) : IsWordless t := by
  obtain ⟨hwhole, hunquoted⟩ := of_notMem_quote (t := t) fun hmem => (h _ hmem).1 rfl
  refine ⟨hwhole, ?_⟩
  rw [hunquoted]
  exact fun c hc => (h c hc).2

theorem Quoted.isWordless {pieces : List Piece} (h : Quoted t pieces) :
    IsWordless (0x22 :: t) := by
  refine ⟨h.isWhole.1, ?_⟩
  rw [h.isWhole.2]
  exact List.forall_mem_singleton.mpr (by decide)

theorem IsBlank.isWordless (h : IsBlank t) : IsWordless t := by
  refine IsBare.isWordless fun c hc => ?_
  have hspace := h c hc
  refine ⟨?_, ?_, ?_⟩ <;>
  · rintro rfl
    cases hspace

/-- A numeral is made of digits, signs, points and the letter `e` of either case. -/
theorem Numeral.isWordless_text {n : Numeral} (hn : n.IsValid) : IsWordless n.text := by
  have hdigits : ∀ {digits : Text}, digits.AllDigits → IsWordless digits := fun hdigits =>
    IsBare.isWordless fun c hc => by
      have hdigit := hdigits c hc
      refine ⟨?_, ?_, ?_⟩ <;>
      · rintro rfl
        cases hdigit
  have hfraction : IsWordless (fractionText n.fraction) := by
    cases hf : n.fraction with
    | nil => exact IsBare.isWordless fun _ hc => absurd hc List.not_mem_nil
    | cons c digits =>
      exact (IsBare.isWordless (t := ".") (by decide)).append (hdigits (hf ▸ hn.fraction))
  have hexponent : IsWordless (exponentText n.exponent) := by
    cases he : n.exponent with
    | none => exact IsBare.isWordless fun _ hc => absurd hc List.not_mem_nil
    | some e =>
      obtain ⟨mark, digits⟩ := e
      obtain ⟨hmark, hall, -⟩ := hn.exponent mark digits he
      have hmarks : ∀ mark ∈ exponentMarks, IsBare mark := by decide
      exact (hmarks mark hmark).isWordless.append (hdigits hall)
  have hmagnitude : IsWordless n.magnitude :=
    (hdigits hn.whole).append (hfraction.append hexponent)
  unfold text
  split_ifs
  · exact (IsBare.isWordless (t := "-") (by decide)).append hmagnitude
  · exact hmagnitude

theorem IsWordless.cons {c : CodePoint} (hc : c ≠ 0x22 ∧ c ≠ 'N' ∧ c ≠ 'I')
    (h : IsWordless t) : IsWordless (c :: t) :=
  (IsBare.isWordless (List.forall_mem_singleton.mpr hc)).append h

mutual

theorem Denotes.isWordless {keys : KeyRule} {s : Text} {v : Value} :
    Denotes keys s v → IsWordless s
  | .null => IsBare.isWordless (by decide)
  | .bool true => IsBare.isWordless (by decide)
  | .bool false => IsBare.isWordless (by decide)
  | .number hn => Numeral.isWordless_text hn
  | .string hq => hq.isWordless
  | .emptyList hw => (hw.isWordless.append (IsBare.isWordless (by decide))).cons (by decide)
  | .list hw hitems => (hw.isWordless.append hitems.isWordless).cons (by decide)
  | .emptyMapping hw => (hw.isWordless.append (IsBare.isWordless (by decide))).cons (by decide)
  | .mapping hw hmembers _ => (hw.isWordless.append hmembers.isWordless).cons (by decide)

theorem Items.isWordless {keys : KeyRule} {s : Text} {items : List Value} :
    Items keys s items → IsWordless s
  | .last hv hw =>
    hv.isWordless.append (hw.isWordless.append (IsBare.isWordless (by decide)))
  | .more hv hw hw' hitems =>
    hv.isWordless.append (hw.isWordless.append
      ((hw'.isWordless.append hitems.isWordless).cons (by decide)))

theorem Members.isWordless {keys : KeyRule} {s : Text} {members : List (Text × Value)} :
    Members keys s members → IsWordless s
  | .last hk hw₁ hw₂ hv hw₃ =>
    hk.isWordless.append (hw₁.isWordless.append ((hw₂.isWordless.append (hv.isWordless.append
      (hw₃.isWordless.append (IsBare.isWordless (by decide))))).cons (by decide)))
  | .more hk hw₁ hw₂ hv hw₃ hw₄ hmembers =>
    hk.isWordless.append (hw₁.isWordless.append ((hw₂.isWordless.append (hv.isWordless.append
      (hw₃.isWordless.append ((hw₄.isWordless.append hmembers.isWordless).cons
        (by decide))))).cons (by decide)))

end

/-- **No text of the grammar has a word for a number that is not finite.** -/
theorem Denotes.not_hasNumberWord {keys : KeyRule} {v : Value} (h : Denotes keys s v) :
    ¬ HasNumberWord s :=
  h.isWordless.not_hasNumberWord

/-! ## Texts that are laid out -/

/-- The text of something whose numbers are finite, or not: strings are closed, and a number that is
not finite has left its word. -/
structure Writes (finite : Bool) (t : Text) : Prop where
  /-- strings are closed -/
  whole : IsWhole t
  /-- a number that is not finite has left its word -/
  word : finite = false → HasNumberWord t

/-- Texts of several things, one each. -/
inductive WritesAll : Bool → List Text → Prop where
  /-- of nothing -/
  | nil : WritesAll true []
  /-- of one thing and others -/
  | cons {finite finite' : Bool} {t : Text} {texts : List Text} : Writes finite t →
    WritesAll finite' texts → WritesAll (finite && finite') (t :: texts)

theorem IsWhole.writes (h : IsWhole t) : Writes true t where
  whole := h
  word := nofun

theorem IsBare.writes (h : IsBare t) : Writes true t := h.isWordless.whole.writes

theorem Writes.append {finite finite' : Bool} (hs : Writes finite s) (ht : Writes finite' t) :
    Writes (finite && finite') (s ++ t) where
  whole := hs.whole.append ht.whole
  word hfinite := by
    rcases Bool.and_eq_false_iff.mp hfinite with hfirst | hrest
    · exact (hs.word hfirst).append_right t
    · exact (ht.word hrest).append_left hs.whole

theorem WritesAll.join {finite : Bool} {texts : List Text} (hs : IsWhole s)
    (h : WritesAll finite texts) : Writes finite (Text.join s texts) := by
  induction h with
  | nil => exact IsWhole.writes rfl
  | @cons finite finite' t texts ht htexts ih =>
    cases htexts with
    | nil =>
      rw [Bool.and_true]
      exact ht
    | cons hu hrest =>
      have hjoined := (ht.append hs.writes).append ih
      rwa [Bool.and_true] at hjoined

theorem WritesAll.block {finite : Bool} {texts : List Text} {left right : Text}
    (hleft : IsBare left) (hright : IsBare right) (h : WritesAll finite texts) (depth : Nat) :
    Writes finite (block left right depth texts) := by
  obtain ⟨w₀, w, w', hw₀, hw, hw', hblock⟩ := exists_block_eq left right depth texts
  have hcomma : IsWhole (0x2C :: w') := (hw'.isWordless.cons (by decide)).whole
  have hwritten := hleft.writes.append (hw₀.isWordless.whole.writes.append
    ((h.join hcomma).append (hw.isWordless.whole.writes.append hright.writes)))
  simp only [Bool.and_true, Bool.true_and] at hwritten
  rwa [hblock]

theorem writes_string (t : Text) : Writes true (string t) := by
  obtain ⟨pieces, hquoted, -⟩ := exists_quoted t
  exact hquoted.isWhole.1.writes

/-- The token of a number that is not finite is its word. -/
theorem writes_floatToken {x : Binary64} (h : floatToken .lenient x = .ok t) :
    Writes x.isFinite t := by
  cases x with
  | nan =>
    obtain rfl := Except.ok.inj h
    exact ⟨rfl, fun _ => ⟨"NaN", List.mem_cons_self, List.infix_rfl⟩⟩
  | infinite negative =>
    obtain rfl := Except.ok.inj h
    cases negative with
    | false => exact ⟨rfl, fun _ => ⟨"Infinity", by decide, List.infix_rfl⟩⟩
    | true => exact ⟨rfl, fun _ => ⟨"Infinity", by decide, (List.suffix_cons _ _).isInfix⟩⟩
  | finite negative mantissa exponent =>
    obtain ⟨n, hn, -, rfl⟩ := exists_of_floatToken (x := .finite negative mantissa exponent) h
    exact (Numeral.isWordless_text hn).whole.writes

theorem writes_integerToken {n : Int} (h : integerToken n = .ok t) : Writes true t :=
  (denotes_integerToken .any h).isWordless.whole.writes

theorem indentedAt_tuple (depth : Nat) (items : List Value) :
    indentedAt depth (.tuple items) = indentedAt depth (.list items) := by
  rw [indentedAt, indentedAt]

mutual

/-- Keys become strings, so only the numbers among the values leave words. -/
theorem writes_indentedAt : ∀ {v : Value} {depth : Nat} {s : Text}, indentedAt depth v = .ok s →
    Writes v.allFinite s
  | .null, _, s, h => Except.ok.inj h ▸ IsBare.writes (by decide)
  | .bool b, _, s, h => by
    obtain rfl := Except.ok.inj h
    cases b <;> exact IsBare.writes (by decide)
  | .int n, _, s, h => writes_integerToken h
  | .float x, _, s, h => writes_floatToken h
  | .text t, _, s, h => Except.ok.inj h ▸ writes_string t
  | .date d, _, s, h => Except.ok.inj h ▸ writes_string d.shown
  | .dateTime d, _, s, h => Except.ok.inj h ▸ writes_string d.shown
  | .list items, depth, s, h => by
    obtain ⟨texts, htexts, rfl⟩ := indentedAt_list_eq_ok.mp h
    exact (writes_indentedItems htexts).block (by decide) (by decide) depth
  | .tuple items, depth, s, h => by
    rw [indentedAt_tuple] at h
    obtain ⟨texts, htexts, rfl⟩ := indentedAt_list_eq_ok.mp h
    exact (writes_indentedItems htexts).block (by decide) (by decide) depth
  | .mapping entries, depth, s, h => by
    obtain ⟨texts, htexts, rfl⟩ := indentedAt_mapping_eq_ok.mp h
    exact (writes_indentedEntries htexts).block (by decide) (by decide) depth

theorem writes_indentedItems : ∀ {items : List Value} {depth : Nat} {texts : List Text},
    indentedItems depth items = .ok texts → WritesAll (Value.areFinite items) texts
  | [], _, texts, h => Except.ok.inj h ▸ .nil
  | v :: rest, depth, texts, h => by
    obtain ⟨first, others, hfirst, hothers, rfl⟩ := indentedItems_cons_eq_ok.mp h
    exact .cons (writes_indentedAt hfirst) (writes_indentedItems hothers)

theorem writes_indentedEntries : ∀ {entries : Entries} {depth : Nat} {texts : List Text},
    indentedEntries depth entries = .ok texts → WritesAll (Value.entriesAreFinite entries) texts
  | [], _, texts, h => Except.ok.inj h ▸ .nil
  | (k, v) :: rest, depth, texts, h => by
    obtain ⟨key, value, others, -, hvalue, hothers, rfl⟩ := indentedEntries_cons_eq_ok.mp h
    -- whatever the key is, even a number that is not finite, it stands in a string
    have hcolon : Writes true [0x3A, 0x20] := IsBare.writes (by decide)
    exact .cons ((writes_string key).append (hcolon.append (writes_indentedAt hvalue)))
      (writes_indentedEntries hothers)

end

/-- **A number that is not finite leaves its word in the text.** -/
theorem hasNumberWord_of_indentedAt {v : Value} {depth : Nat} (h : indentedAt depth v = .ok s)
    (hfinite : v.allFinite = false) : HasNumberWord s :=
  (writes_indentedAt h).word hfinite

end Json

end ProfileFilter
