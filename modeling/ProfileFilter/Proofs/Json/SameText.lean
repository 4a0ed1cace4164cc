import ProfileFilter.Proofs.Json.Printing
import ProfileFilter.Proofs.Json.Reading

/-!
# Values with the same text

`SameText v w` says that two values print, and print alike. The relation can be taken
apart from the outside in, because strings and the texts of values delimit themselves:
values with the same text are mappings both or neither, mappings of one entry have the
same key and values with the same text, and lists agree item by item.
-/

namespace ProfileFilter

namespace Json

/-- The two values have the same compact text. -/
def SameText (v w : Value) : Prop := ∃ s, compact v = .ok s ∧ compact w = .ok s

theorem SameText.symm {v w : Value} (h : SameText v w) : SameText w v := by
  obtain ⟨s, hv, hw⟩ := h
  exact ⟨s, hw, hv⟩

/-! ## Entries -/

/-- Strings delimit themselves. -/
theorem string_append_inj {k l r r' : Text} (h : string k ++ r = string l ++ r') :
    k = l ∧ r = r' := by
  obtain ⟨pieces, hquoted, rfl⟩ := exists_quoted k
  obtain ⟨pieces', hquoted', rfl⟩ := exists_quoted l
  rw [string_eq, string_eq, List.cons_append, List.cons_append] at h
  have hscan := scanPieces_append hquoted [] r
  rw [(List.cons.inj h).2, scanPieces_append hquoted'] at hscan
  obtain ⟨rfl, rfl⟩ := Prod.mk.inj (Except.ok.inj hscan)
  exact ⟨rfl, rfl⟩

theorem sameText_single {k l : Text} {v w : Value} (h : SameText (single k v) (single l w)) :
    k = l ∧ SameText v w := by
  obtain ⟨s, hv, hw⟩ := h
  obtain ⟨a, ha, rfl⟩ := compactWith_single_eq_ok.mp hv
  obtain ⟨b, hb, heq⟩ := compactWith_single_eq_ok.mp hw
  have htail := (List.cons.inj heq).2
  rw [List.append_assoc, List.append_assoc] at htail
  obtain ⟨rfl, hrest⟩ := string_append_inj htail
  obtain rfl := List.append_cancel_right (List.cons.inj hrest).2
  exact ⟨rfl, a, ha, hb⟩

/-! ## Mappings and other values -/

theorem head_of_mapping {entries : Entries} {s : Text} (h : compact (.mapping entries) = .ok s) :
    s.head? = some 0x7B := by
  obtain ⟨texts, -, rfl⟩ := compactWith_mapping_eq_ok.mp h
  rfl

theorem Numeral.head_text_ne {n : Numeral} (hn : n.IsValid) : n.text.head? ≠ some 0x7B := by
  obtain ⟨c, t, htext, -, hhigh⟩ := Numeral.exists_text_eq hn
  rw [htext]
  rintro ⟨⟩
  exact absurd hhigh (by decide)

/-- Only mappings begin with a brace. -/
theorem isMapping_of_head {v : Value} {s : Text} (h : compact v = .ok s)
    (hs : s.head? = some 0x7B) : v.isMapping = true := by
  cases v with
  | mapping entries => rfl
  | int n =>
    obtain ⟨hwritable, rfl⟩ := integerToken_eq_ok.mp h
    exact absurd hs (Numeral.head_text_ne (Numeral.isValid_ofInt hwritable))
  | float x =>
    obtain ⟨n, hn, -, rfl⟩ := exists_of_floatToken h
    exact absurd hs (Numeral.head_text_ne hn)
  | bool b =>
    obtain rfl := Except.ok.inj h
    cases b <;> cases hs
  | list items =>
    obtain ⟨texts, -, rfl⟩ := compactWith_list_eq_ok.mp h
    cases hs
  | tuple items =>
    rw [compact, compactWith_tuple] at h
    obtain ⟨texts, -, rfl⟩ := compactWith_list_eq_ok.mp h
    cases hs
  | _ =>
    obtain rfl := Except.ok.inj h
    cases hs

theorem SameText.isMapping {v : Value} {entries : Entries}
    (h : SameText v (.mapping entries)) : v.isMapping = true := by
  obtain ⟨s, hs, ht⟩ := h
  exact isMapping_of_head hs (head_of_mapping ht)

/-! ## Lists -/

/-- What follows an item in the text of a list. -/
def afterItem : List Text → Text
  | [] => [0x5D]
  | t :: rest => 0x2C :: (Text.join [0x2C] (t :: rest) ++ [0x5D])

theorem join_cons_append (t : Text) (rest : List Text) :
    Text.join [0x2C] (t :: rest) ++ [0x5D] = t ++ afterItem rest := by
  cases rest with
  | nil => rfl
  | cons u rest => rw [Text.join_cons_cons, List.append_assoc, List.append_assoc]; rfl

theorem closes_afterItem (texts : List Text) : Closes (afterItem texts) := by
  cases texts with
  | nil => exact closes_append isBlank_nil (by decide) []
  | cons t rest => exact closes_append isBlank_nil (by decide) _

theorem join_eq_of_afterItem {texts texts' : List Text} (h : afterItem texts = afterItem texts') :
    Text.join [0x2C] texts ++ [0x5D] = Text.join [0x2C] texts' ++ [0x5D] := by
  cases texts with
  | nil =>
    cases texts' with
    | nil => rfl
    | cons t' rest' => exact absurd (List.cons.inj h).1 (by decide)
  | cons t rest =>
    cases texts' with
    | nil => exact absurd (List.cons.inj h).1 (by decide)
    | cons t' rest' => exact (List.cons.inj h).2

/-- The texts of the items can be told from the text of the list. -/
theorem join_inj {keys : KeyRule} {texts texts' : List Text}
    (h : ∀ t ∈ texts, ∃ v, Denotes keys t v) (h' : ∀ t ∈ texts', ∃ v, Denotes keys t v)
    (heq : Text.join [0x2C] texts ++ [0x5D] = Text.join [0x2C] texts' ++ [0x5D]) :
    texts = texts' := by
  induction texts generalizing texts' with
  | nil =>
    cases texts' with
    | nil => rfl
    | cons t' rest' =>
      obtain ⟨v, hv⟩ := h' t' List.mem_cons_self
      obtain ⟨c, tail, rfl, -, hc⟩ := hv.exists_cons
      rw [join_cons_append] at heq
      exact absurd (List.cons.inj heq).1.symm hc
  | cons t rest ih =>
    obtain ⟨⟨v, hv⟩, hrest⟩ := List.forall_mem_cons.mp h
    rw [join_cons_append] at heq
    cases texts' with
    | nil =>
      -- an item does not start with the bracket that closes the list
      obtain ⟨c, tail, rfl, -, hc⟩ := hv.exists_cons
      exact absurd (List.cons.inj heq).1 hc
    | cons t' rest' =>
      obtain ⟨⟨v', hv'⟩, hrest'⟩ := List.forall_mem_cons.mp h'
      rw [join_cons_append] at heq
      obtain ⟨rfl, hafter⟩ :=
        append_inj_of_denotes hv hv' (closes_afterItem rest) (closes_afterItem rest') heq
      rw [ih hrest hrest' (join_eq_of_afterItem hafter)]

theorem denotes_of_compactItems {items : List Value} {texts : List Text}
    (h : compactItems .strict items = .ok texts) : ∀ t ∈ texts, ∃ v, Denotes .any t v := by
  rw [compactItems_eq_ok_iff] at h
  induction h with
  | nil => exact fun _ ht => absurd ht List.not_mem_nil
  | cons hv _ ih =>
    obtain ⟨w, hw, -⟩ := exists_denotes .any hv (.inl rfl)
    exact List.forall_mem_cons.mpr ⟨⟨w, hw⟩, ih⟩

/-- **Lists with the same text agree item by item.** -/
theorem sameText_list {vs ws : List Value} (h : SameText (.list vs) (.list ws)) :
    List.Forall₂ SameText vs ws := by
  obtain ⟨s, hv, hw⟩ := h
  obtain ⟨texts, htexts, rfl⟩ := compactWith_list_eq_ok.mp hv
  obtain ⟨texts', htexts', heq⟩ := compactWith_list_eq_ok.mp hw
  obtain rfl := join_inj (denotes_of_compactItems htexts) (denotes_of_compactItems htexts')
    (List.cons.inj heq).2
  rw [compactItems_eq_ok_iff] at htexts htexts'
  clear hv hw heq
  induction htexts generalizing ws with
  | nil =>
    cases htexts'
    exact .nil
  | cons hv _ ih =>
    cases htexts' with
    | cons hw hothers => exact .cons ⟨_, hv, hw⟩ (ih hothers)

end Json

end ProfileFilter
