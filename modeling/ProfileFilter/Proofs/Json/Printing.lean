import ProfileFilter.Proofs.Json.Compact
import ProfileFilter.Proofs.Json.Grammar
import ProfileFilter.Proofs.Value.Plain

/-!
# Printing JSON

What the compact printer writes is a text of the grammar (`exists_denotes`): whatever the
value is when keys may repeat, and with distinct keys when the value is plain. The value
that the text denotes is then the one that was printed, up to what JSON does not tell.
-/

namespace ProfileFilter

namespace Json

/-! ## Strings -/

/-- The three ways to write a code point in a string. -/
theorem escape_cases (c : CodePoint) :
    (∃ e, escape c = [0x5C, e] ∧ (e, c) ∈ shortEscapes) ∨
      (c.val < 0x20 ∧ escape c = 0x5C :: ('u' : CodePoint) :: Text.hexPadded 4 c.val) ∨
      (0x20 ≤ c.val ∧ c ≠ 0x22 ∧ c ≠ 0x5C ∧ escape c = [c]) := by
  unfold escape
  simp only [beq_iff_eq]
  split_ifs with hquote hslash hn hr ht hb hf hcontrol
  · exact .inl ⟨'"', rfl, by rw [hquote]; decide⟩
  · exact .inl ⟨'\\', rfl, by rw [hslash]; decide⟩
  · exact .inl ⟨'n', rfl, by rw [hn]; decide⟩
  · exact .inl ⟨'r', rfl, by rw [hr]; decide⟩
  · exact .inl ⟨'t', rfl, by rw [ht]; decide⟩
  · exact .inl ⟨'b', rfl, by rw [hb]; decide⟩
  · exact .inl ⟨'f', rfl, by rw [hf]; decide⟩
  · exact .inr (.inl ⟨hcontrol, rfl⟩)
  · exact .inr (.inr ⟨Nat.not_lt.mp hcontrol, hquote, hslash, rfl⟩)

/-- The digits of a control character. -/
theorem hexPadded_eq : ∀ n < 0x20, Text.hexPadded 4 n =
    [0x30, 0x30, CodePoint.hexDigitLower (n / 16), CodePoint.hexDigitLower (n % 16)] := by
  decide

theorem hex4?_eq : ∀ n < 0x20, hex4? 0x30 0x30 (CodePoint.hexDigitLower (n / 16))
    (CodePoint.hexDigitLower (n % 16)) = some n := by
  decide

/-- A small unit is not half of a surrogate pair, whatever follows. -/
theorem spell_unit {n : Nat} (h : n < 0x20) (pieces : List Piece) :
    spell (.unit n :: pieces) = Fin.ofNat _ n :: spell pieces := by
  cases pieces with
  | nil => rfl
  | cons piece pieces =>
    cases piece with
    | point c => rfl
    | unit m =>
      rw [spell, if_neg]
      simp only [Bool.and_eq_true, decide_eq_true_eq]
      omega

/-- An escaped code point is one piece, which spells the code point. -/
theorem exists_quoted_escape (c : CodePoint) {t : Text} {pieces : List Piece}
    (h : Quoted t pieces) :
    ∃ pieces', Quoted (escape c ++ t) pieces' ∧ spell pieces' = c :: spell pieces := by
  rcases escape_cases c with ⟨e, he, hmem⟩ | ⟨hlt, he⟩ | ⟨hge, hquote, hslash, he⟩
  · rw [he]
    exact ⟨_, .short hmem h, rfl⟩
  · rw [he, hexPadded_eq c.val hlt]
    refine ⟨_, .unit (hex4?_eq c.val hlt) h, ?_⟩
    rw [spell_unit hlt, Fin.ofNat_val_eq_self]
  · rw [he]
    exact ⟨_, .plain hge hquote hslash h, rfl⟩

/-- **A printed string spells its text.** -/
theorem exists_quoted (t : Text) :
    ∃ pieces, Quoted (t.flatMap escape ++ [0x22]) pieces ∧ spell pieces = t := by
  induction t with
  | nil => exact ⟨[], .close, rfl⟩
  | cons c t ih =>
    obtain ⟨pieces, hquoted, hspell⟩ := ih
    obtain ⟨pieces', hquoted', hspell'⟩ := exists_quoted_escape c hquoted
    rw [List.flatMap_cons, List.append_assoc]
    exact ⟨pieces', hquoted', by rw [hspell', hspell]⟩

theorem string_eq (t : Text) : string t = 0x22 :: (t.flatMap escape ++ [0x22]) := rfl

theorem denotes_string (keys : KeyRule) (t : Text) : Denotes keys (string t) (.text t) := by
  obtain ⟨pieces, hquoted, hspell⟩ := exists_quoted t
  have h : Denotes keys (string t) (.text (spell pieces)) := .string hquoted
  rwa [hspell] at h

/-! ## Numbers -/

theorem integerToken_eq_ok {n : Int} {s : Text} :
    integerToken n = .ok s ↔ Value.isWritableInt n = true ∧ s = (Numeral.ofInt n).text := by
  unfold integerToken
  rw [Numeral.text_ofInt]
  split_ifs with h
  · rw [Except.ok.injEq, eq_comm]
    exact (and_iff_right h).symm
  · simp [h]

/-- The token of a float is a numeral for a float with the same token. -/
theorem exists_of_floatToken {x : Binary64} {s : Text} (h : floatToken .strict x = .ok s) :
    ∃ n : Numeral, n.IsValid ∧ (∃ y, n.value = .float y ∧ y.shown = x.shown) ∧ s = n.text := by
  cases x with
  | nan => cases h
  | infinite negative => cases h
  | finite negative mantissa exponent =>
    obtain rfl := Except.ok.inj h
    obtain ⟨n, hn⟩ := Numeral.exists_ofFloat?_eq_some negative mantissa exponent
    obtain ⟨hvalid, htext, hvalue⟩ := Numeral.ofFloat?_spec hn
    exact ⟨n, hvalid, hvalue, htext.symm⟩

theorem denotes_integerToken (keys : KeyRule) {n : Int} {s : Text}
    (h : integerToken n = .ok s) : Denotes keys s (.int n) := by
  obtain ⟨hwritable, rfl⟩ := integerToken_eq_ok.mp h
  rw [← Numeral.value_ofInt]
  exact .number (Numeral.isValid_ofInt hwritable)

theorem exists_denotes_floatToken (keys : KeyRule) {x : Binary64} {s : Text}
    (h : floatToken .strict x = .ok s) : ∃ y, Denotes keys s (.float y) ∧ y.shown = x.shown := by
  obtain ⟨n, hn, ⟨y, hvalue, hshown⟩, rfl⟩ := exists_of_floatToken h
  exact ⟨y, hvalue ▸ .number hn, hshown⟩

/-! ## Lists and mappings -/

/-- The text of one member of an object. -/
def IsMember (keys : KeyRule) (s : Text) (member : Text × Value) : Prop :=
  ∃ w value, IsBlank w ∧ s = string member.1 ++ 0x3A :: (w ++ value) ∧
    Denotes keys value member.2

theorem isBlank_nil : IsBlank [] := fun _ h => absurd h List.not_mem_nil

theorem isBlank_append {w w' : Text} (hw : IsBlank w) (hw' : IsBlank w') : IsBlank (w ++ w') :=
  List.forall_mem_append.mpr ⟨hw, hw'⟩

section Join

variable {keys : KeyRule} {w w' : Text} (hw : IsBlank w) (hw' : IsBlank w')
include hw hw'

/-- Items with blanks `w'` after the commas and `w` after the last one. -/
theorem items_join {texts : List Text} {items : List Value}
    (h : List.Forall₂ (Denotes keys) texts items) (hne : texts ≠ []) :
    Items keys (Text.join (0x2C :: w') texts ++ (w ++ [0x5D])) items := by
  induction h with
  | nil => exact absurd rfl hne
  | @cons s v texts items hs htexts ih =>
    cases texts with
    | nil =>
      cases htexts
      exact .last hs hw
    | cons s' texts =>
      rw [Text.join_cons_cons, List.append_assoc, List.append_assoc]
      exact .more hs isBlank_nil hw' (ih (List.cons_ne_nil _ _))

/-- Members with blanks `w'` after the commas and `w` after the last one. -/
theorem members_join {texts : List Text} {members : List (Text × Value)}
    (h : List.Forall₂ (IsMember keys) texts members) (hne : texts ≠ []) :
    Members keys (Text.join (0x2C :: w') texts ++ (w ++ [0x7D])) members := by
  induction h with
  | nil => exact absurd rfl hne
  | @cons s member texts members hs htexts ih =>
    obtain ⟨blanks, value, hblanks, rfl, hvalue⟩ := hs
    obtain ⟨key, v⟩ := member
    obtain ⟨pieces, hquoted, hspell⟩ := exists_quoted key
    subst hspell
    cases texts with
    | nil =>
      cases htexts
      have hlast := Members.last hquoted isBlank_nil hblanks hvalue hw
      simpa only [Text.join, string_eq, List.cons_append, List.append_assoc, List.nil_append]
        using hlast
    | cons s' texts =>
      have hmore := Members.more hquoted isBlank_nil hblanks hvalue isBlank_nil hw'
        (ih (List.cons_ne_nil _ _))
      simpa only [Text.join_cons_cons, string_eq, List.cons_append, List.append_assoc,
        List.nil_append] using hmore

end Join

/-- Members with distinct keys make up a mapping in their order. -/
theorem mappingOf_of_nodup {members : List (Text × Value)} (h : (members.map Prod.fst).Nodup) :
    mappingOf members = .mapping (members.map fun m => (.text m.1, m.2)) := by
  have hfold : ∀ (members : List (Text × Value)) (entries : Entries),
      (members.map Prod.fst).Nodup →
      (∀ m ∈ members, Value.text m.1 ∉ entries.map Prod.fst) →
      members.foldl (fun entries member => Value.insert member.1 member.2 entries) entries =
        entries ++ members.map fun m => (Value.text m.1, m.2) := by
    intro members
    induction members with
    | nil => exact fun entries _ _ => (List.append_nil entries).symm
    | cons m rest ih =>
      intro entries hnodup hnew
      rw [List.map_cons, List.nodup_cons] at hnodup
      obtain ⟨hm, hrest⟩ := List.forall_mem_cons.mp hnew
      rw [List.foldl_cons, Value.insert_of_notMem hm, ih _ hnodup.2, List.append_assoc]
      · rfl
      · intro m' hm' hmem
        rw [List.map_append, List.mem_append] at hmem
        rcases hmem with hmem | hmem
        · exact hrest m' hm' hmem
        · have heq : m'.1 = m.1 := Value.text.inj (List.mem_singleton.mp hmem)
          exact hnodup.1 (heq ▸ List.mem_map_of_mem hm')
  rw [mappingOf, hfold members [] h (fun _ _ => List.not_mem_nil), List.nil_append]

section Block

variable {keys : KeyRule} {w₀ w w' : Text} (hw₀ : IsBlank w₀) (hw : IsBlank w) (hw' : IsBlank w')
include hw₀ hw hw'

theorem denotes_list {texts : List Text} {items : List Value}
    (h : List.Forall₂ (Denotes keys) texts items) :
    Denotes keys (0x5B :: (w₀ ++ (Text.join (0x2C :: w') texts ++ (w ++ [0x5D])))) (.list items) := by
  cases texts with
  | nil =>
    cases h
    rw [Text.join, List.nil_append, ← List.append_assoc]
    exact .emptyList (isBlank_append hw₀ hw)
  | cons s texts => exact .list hw₀ (items_join hw hw' h (List.cons_ne_nil _ _))

theorem denotes_mapping {texts : List Text} {members : List (Text × Value)}
    (h : List.Forall₂ (IsMember keys) texts members) (hkeys : keys.Admits (members.map Prod.fst)) :
    Denotes keys (0x7B :: (w₀ ++ (Text.join (0x2C :: w') texts ++ (w ++ [0x7D]))))
      (mappingOf members) := by
  cases texts with
  | nil =>
    cases h
    rw [Text.join, List.nil_append, ← List.append_assoc]
    exact .emptyMapping (isBlank_append hw₀ hw)
  | cons s texts => exact .mapping hw₀ (members_join hw hw' h (List.cons_ne_nil _ _)) hkeys

end Block

/-! ## Values -/

/-- Keys that are distinct in a mapping are as distinct on paper. -/
theorem nodup_of_sameEntries {entries : Entries} {members : List (Text × Value)}
    (h : Value.SameEntries entries (members.map fun m => (.text m.1, m.2)))
    (hkeys : (entries.map Prod.fst).Nodup) : (members.map Prod.fst).Nodup := by
  rw [h.keys_eq, List.map_map] at hkeys
  exact List.Nodup.of_map Value.text (by rwa [List.map_map])

mutual

/-- **What is printed is a JSON text**, with distinct keys if the value is plain, and a plain
value is the same as the one its text denotes. -/
theorem exists_denotes (keys : KeyRule) : ∀ {v : Value} {s : Text},
    compactWith .strict v = .ok s → (keys = .any ∨ v.isPlain = true) →
      ∃ w, Denotes keys s w ∧ (v.isPlain = true → v.Same w)
  | .null, s, h, _ => ⟨.null, Except.ok.inj h ▸ .null, fun _ => .null⟩
  | .bool b, s, h, _ => ⟨.bool b, Except.ok.inj h ▸ .bool b, fun _ => .bool b⟩
  | .int n, s, h, _ => ⟨.int n, denotes_integerToken keys h, fun _ => .int n⟩
  | .float x, s, h, _ => by
    obtain ⟨y, hy, hshown⟩ := exists_denotes_floatToken keys h
    exact ⟨.float y, hy, fun _ => .float hshown.symm⟩
  | .text t, s, h, _ => ⟨.text t, Except.ok.inj h ▸ denotes_string keys t, fun _ => .text t⟩
  | .date d, s, h, _ =>
    ⟨.text d.shown, Except.ok.inj h ▸ denotes_string keys d.shown, fun h => by cases h⟩
  | .dateTime d, s, h, _ =>
    ⟨.text d.shown, Except.ok.inj h ▸ denotes_string keys d.shown, fun h => by cases h⟩
  | .list items, s, h, hkeys => by
    obtain ⟨texts, htexts, rfl⟩ := compactWith_list_eq_ok.mp h
    obtain ⟨ws, hws, hsame⟩ := exists_denotes_items keys htexts hkeys
    exact ⟨.list ws, denotes_list isBlank_nil isBlank_nil isBlank_nil hws,
      fun hplain => .sequence rfl rfl (hsame hplain)⟩
  | .tuple items, s, h, hkeys => by
    rw [compactWith_tuple] at h
    obtain ⟨texts, htexts, rfl⟩ := compactWith_list_eq_ok.mp h
    obtain ⟨ws, hws, hsame⟩ := exists_denotes_items keys htexts hkeys
    exact ⟨.list ws, denotes_list isBlank_nil isBlank_nil isBlank_nil hws,
      fun hplain => .sequence rfl rfl (hsame hplain)⟩
  | .mapping entries, s, h, hkeys => by
    obtain ⟨texts, htexts, rfl⟩ := compactWith_mapping_eq_ok.mp h
    rw [Value.isPlain_mapping] at hkeys ⊢
    obtain ⟨members, hmembers, hsame⟩ :=
      exists_denotes_entries keys htexts (hkeys.imp_right And.right)
    have hnodup : (entries.map Prod.fst).Nodup ∧ Value.areEntriesPlain entries = true →
        (members.map Prod.fst).Nodup := fun hplain =>
          nodup_of_sameEntries (hsame hplain.2) hplain.1
    refine ⟨mappingOf members, denotes_mapping isBlank_nil isBlank_nil isBlank_nil hmembers ?_,
      fun hplain => ?_⟩
    · cases keys with
      | any => trivial
      | distinct => exact hnodup (hkeys.resolve_left (by simp))
    · rw [mappingOf_of_nodup (hnodup hplain)]
      exact .mapping (hsame hplain.2)

theorem exists_denotes_items (keys : KeyRule) : ∀ {items : List Value} {texts : List Text},
    compactItems .strict items = .ok texts → (keys = .any ∨ Value.areItemsPlain items = true) →
      ∃ ws, List.Forall₂ (Denotes keys) texts ws ∧
        (Value.areItemsPlain items = true → Value.SameItems items ws)
  | [], texts, h, _ => ⟨[], Except.ok.inj h ▸ .nil, fun _ => .nil⟩
  | v :: rest, texts, h, hkeys => by
    obtain ⟨first, others, hfirst, hothers, rfl⟩ := compactItems_cons_eq_ok.mp h
    simp only [Value.areItemsPlain, Bool.and_eq_true] at hkeys ⊢
    obtain ⟨w, hw, hsame⟩ := exists_denotes keys hfirst (hkeys.imp_right And.left)
    obtain ⟨ws, hws, hsames⟩ := exists_denotes_items keys hothers (hkeys.imp_right And.right)
    exact ⟨w :: ws, .cons hw hws, fun hplain => .cons (hsame hplain.1) (hsames hplain.2)⟩

theorem exists_denotes_entries (keys : KeyRule) : ∀ {entries : Entries} {texts : List Text},
    compactEntries .strict entries = .ok texts →
      (keys = .any ∨ Value.areEntriesPlain entries = true) →
      ∃ members, List.Forall₂ (IsMember keys) texts members ∧
        (Value.areEntriesPlain entries = true →
          Value.SameEntries entries (members.map fun m => (.text m.1, m.2)))
  | [], texts, h, _ => ⟨[], Except.ok.inj h ▸ .nil, fun _ => .nil⟩
  | (k, v) :: rest, texts, h, hkeys => by
    obtain ⟨key, value, others, hkey, hvalue, hothers, rfl⟩ := compactEntries_cons_eq_ok.mp h
    rw [Value.areEntriesPlain_cons] at hkeys ⊢
    obtain ⟨w, hw, hsame⟩ := exists_denotes keys hvalue (hkeys.imp_right (·.2.1))
    obtain ⟨members, hmembers, hsames⟩ :=
      exists_denotes_entries keys hothers (hkeys.imp_right (·.2.2))
    refine ⟨(key, w) :: members, .cons ⟨[], value, isBlank_nil, rfl, hw⟩ hmembers, ?_⟩
    rintro ⟨⟨t, rfl⟩, hv, hrest⟩
    obtain rfl := Except.ok.inj hkey
    exact .cons t (hsame hv) (hsames hrest)

end

end Json

end ProfileFilter
