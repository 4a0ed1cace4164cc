import ProfileFilter.Compile.Explain
import ProfileFilter.Proofs.Json.Printing

/-!
# What can be told

An explanation tells values in words. A value is *tellable* when that succeeds and the words
can be encoded: whatever depth it stands at, no integer in it has more digits than can be
written, and no text in it holds a lone surrogate.

Main statements: the words for a tellable value are encodable (`isEncodable_describeValue`),
and a value that is fit to be sent is fit to be told (`isTellable_of_compactWith`).
-/

namespace ProfileFilter

namespace Value

mutual

/-- Can the value be told in words that can be encoded? -/
def isTellable : Value → Bool
  | .int n => isWritableInt n
  | .text t => t.isEncodable
  | .list items | .tuple items => areItemsTellable items
  | .mapping entries => areEntriesTellable entries
  | _ => true

/-- Can all items be told? -/
def areItemsTellable : List Value → Bool
  | [] => true
  | v :: rest => isTellable v && areItemsTellable rest

/-- Can all entries be told, keys and values? -/
def areEntriesTellable : List (Value × Value) → Bool
  | [] => true
  | (k, v) :: rest => isTellable k && isTellable v && areEntriesTellable rest

end

theorem areItemsTellable_iff {items : List Value} :
    areItemsTellable items = true ↔ ∀ v ∈ items, v.isTellable = true := by
  induction items with
  | nil => exact iff_of_true rfl fun _ h => absurd h List.not_mem_nil
  | cons v rest ih => rw [areItemsTellable, Bool.and_eq_true, ih, List.forall_mem_cons]

theorem isTellable_list {items : List Value} :
    (Value.list items).isTellable = true ↔ ∀ v ∈ items, v.isTellable = true :=
  areItemsTellable_iff

theorem isTellable_single (key : Text) (v : Value) :
    (single key v).isTellable = (key.isEncodable && v.isTellable) :=
  Bool.and_true _

end Value

/-! ## Words -/

theorem Binary64.isEncodable_layout {digits : Text} (h : digits.isEncodable = true) (point : Int) :
    (layout digits point).isEncodable = true := by
  have htake : ∀ n, Text.isEncodable (digits.take n) = true := fun n =>
    Text.isEncodable_of_subset (List.take_subset n digits) h
  have hdrop : ∀ n, Text.isEncodable (digits.drop n) = true := fun n =>
    Text.isEncodable_of_subset (List.drop_subset n digits) h
  simp only [layout]
  split_ifs <;>
    simp only [Text.isEncodable_append, Text.isEncodable_ofString, Text.isEncodable_padded,
      Text.isEncodable_zeros, h, htake, hdrop] <;> rfl

@[simp] theorem Binary64.isEncodable_shown (x : Binary64) : x.shown.isEncodable = true := by
  cases x with
  | nan => exact Text.isEncodable_ofString _
  | infinite negative => cases negative <;> exact Text.isEncodable_ofString _
  | finite negative mantissa exponent =>
    have hdigits : ∀ n, (dropZeros (Text.ofNat n)).isEncodable = true := fun n =>
      Text.isEncodable_dropTrailing (Text.isEncodable_ofNat n) '0'
    simp only [shown]
    split_ifs <;>
      simp only [Text.isEncodable_append, Text.isEncodable_ofString,
        isEncodable_layout (hdigits _)] <;> rfl

@[simp] theorem Date.isEncodable_shown (d : Date) : d.shown.isEncodable = true := by
  simp [shown]

@[simp] theorem Date.isEncodable_literal (d : Date) : d.literal.isEncodable = true := by
  simp [literal]

@[simp] theorem DateTime.isEncodable_shown (d : DateTime) : d.shown.isEncodable = true := by
  simp only [shown, shownWith]
  split_ifs <;> simp

@[simp] theorem DateTime.isEncodable_literal (d : DateTime) : d.literal.isEncodable = true := by
  have hparts : ∀ parts : List Nat, (parts.map Text.ofNat).all Text.isEncodable = true := by
    intro parts
    simp
  simp [literal, Text.isEncodable_join, hparts]

namespace Value

theorem isEncodable_parenthesized {items : List Text} (h : items.all Text.isEncodable = true) :
    (parenthesized items).isEncodable = true := by
  unfold parenthesized
  split
  · simpa using h
  · simp [Text.isEncodable_join, h]

mutual

/-- Inside lists and mappings texts are quoted, so **every literal is encodable**. -/
theorem isEncodable_literal : ∀ v : Value, v.literal.isEncodable = true
  | .null => Text.isEncodable_ofString _
  | .bool b => by cases b <;> exact Text.isEncodable_ofString _
  | .int n => Text.isEncodable_ofInt n
  | .float x => x.isEncodable_shown
  | .text t => t.isEncodable_quoted
  | .date d => d.isEncodable_literal
  | .dateTime d => d.isEncodable_literal
  | .list items => by
    simp [literal, Text.isEncodable_join, all_isEncodable_literals items]
  | .tuple items => by
    rw [literal]
    exact isEncodable_parenthesized (all_isEncodable_literals items)
  | .mapping entries => by
    simp [literal, Text.isEncodable_join, all_isEncodable_entryLiterals entries]

theorem all_isEncodable_literals :
    ∀ items : List Value, (literals items).all Text.isEncodable = true
  | [] => rfl
  | v :: rest => by
    rw [literals, List.all_cons, isEncodable_literal v, all_isEncodable_literals rest]
    rfl

theorem all_isEncodable_entryLiterals :
    ∀ entries : List (Value × Value), (entryLiterals entries).all Text.isEncodable = true
  | [] => rfl
  | (k, v) :: rest => by
    rw [entryLiterals, List.all_cons, all_isEncodable_entryLiterals rest]
    simp [isEncodable_literal k, isEncodable_literal v]

end

end Value

mutual

/-- **The words for a tellable value are encodable.** -/
theorem isEncodable_describeValue :
    ∀ {v : Value}, v.isTellable = true → (describeValue v).isEncodable = true
  | .null, _ => Text.isEncodable_ofString _
  | .bool b, _ => by cases b <;> exact Text.isEncodable_ofString _
  | .int n, _ => Text.isEncodable_ofInt n
  | .float x, _ => x.isEncodable_shown
  | .text t, h => h
  | .date d, _ => d.isEncodable_shown
  | .dateTime d, _ => d.isEncodable_shown
  | .list items, h => by
    simp [describeValue, Text.isEncodable_join, all_isEncodable_describeValues h]
  | .tuple items, h => by
    simp [describeValue, Text.isEncodable_join, all_isEncodable_describeValues h]
  | .mapping entries, _ => Value.isEncodable_literal (.mapping entries)

theorem all_isEncodable_describeValues : ∀ {items : List Value},
    Value.areItemsTellable items = true → (describeValues items).all Text.isEncodable = true
  | [], _ => rfl
  | v :: rest, h => by
    rw [Value.areItemsTellable, Bool.and_eq_true] at h
    rw [describeValues, List.all_cons, isEncodable_describeValue h.1,
      all_isEncodable_describeValues h.2]
    rfl

end

/-! ## Fit to be sent, fit to be told -/

namespace Json

theorem isEncodable_escape (c : CodePoint) : (escape c).isEncodable = !c.isSurrogate := by
  rcases escape_cases c with ⟨e, he, hmem⟩ | ⟨hlt, he⟩ | ⟨-, -, -, he⟩
  · have hall : shortEscapes.all (fun p => !p.1.isSurrogate && !p.2.isSurrogate) = true := by
      decide
    obtain ⟨hletter, hescaped⟩ := Bool.and_eq_true_iff.mp (List.all_eq_true.mp hall _ hmem)
    rw [he, hescaped, Text.isEncodable_cons, Text.isEncodable_cons, hletter]
    rfl
  · have hc : c.isSurrogate = false := CodePoint.isSurrogate_eq_false_iff.mpr (.inl (by omega))
    rw [he, hc, Text.isEncodable_cons, Text.isEncodable_cons, Text.isEncodable_hexPadded]
    rfl
  · rw [he]
    exact Bool.and_true _

/-- No escape is made for surrogates: a string is encodable exactly if its text is. -/
theorem isEncodable_string (t : Text) : (string t).isEncodable = t.isEncodable := by
  have hbody : Text.isEncodable (t.flatMap escape) = t.isEncodable := by
    rw [Bool.eq_iff_iff, Text.isEncodable_flatMap, Text.isEncodable_iff]
    refine forall₂_congr fun c _ => ?_
    rw [isEncodable_escape, Bool.not_eq_true']
  rw [string_eq, Text.isEncodable_cons, Text.isEncodable_append, hbody]
  exact Bool.and_true _

/-- A record of values that have an encodable text has one itself. -/
theorem exists_compact_record {fields : List (Text × Value)}
    (h : ∀ field ∈ fields, field.1.isEncodable = true ∧
      ∃ s, compact field.2 = .ok s ∧ s.isEncodable = true) :
    ∃ s, compact (.record fields) = .ok s ∧ s.isEncodable = true := by
  suffices hentries : ∃ texts, compactEntries .strict
      (fields.map fun field => (Value.text field.1, field.2)) = .ok texts ∧
        texts.all Text.isEncodable = true by
    obtain ⟨texts, htexts, henc⟩ := hentries
    refine ⟨_, compactWith_mapping_eq_ok.mpr ⟨texts, htexts, rfl⟩, ?_⟩
    rw [Text.isEncodable_cons, Text.isEncodable_append, Text.isEncodable_join rfl, henc]
    rfl
  induction fields with
  | nil => exact ⟨[], rfl, rfl⟩
  | cons field rest ih =>
    obtain ⟨⟨hkey, s, hs, hsenc⟩, hrest⟩ := List.forall_mem_cons.mp h
    obtain ⟨texts, htexts, henc⟩ := ih hrest
    refine ⟨_, compactEntries_cons_eq_ok.mpr ⟨field.1, s, texts, rfl, hs, htexts, rfl⟩, ?_⟩
    rw [List.all_cons, Text.isEncodable_append, Text.isEncodable_cons, isEncodable_string, hkey,
      hsenc, henc]
    rfl

/-- Items between brackets are encodable if the whole is. -/
theorem all_isEncodable_of_enclosed {left right : CodePoint} {texts : List Text}
    (h : Text.isEncodable (left :: (Text.join [0x2C] texts ++ [right])) = true) :
    texts.all Text.isEncodable = true := by
  rw [Text.isEncodable_cons, Text.isEncodable_append, Text.isEncodable_join rfl,
    Bool.and_eq_true, Bool.and_eq_true] at h
  exact h.2.1

theorem isTellable_of_keyText {k : Value} {s : Text} (h : keyText .strict k = .ok s)
    (hs : s.isEncodable = true) : k.isTellable = true := by
  cases k with
  | text t =>
    obtain rfl := Except.ok.inj h
    exact hs
  | int n => exact (integerToken_eq_ok.mp h).1
  | null => rfl
  | bool b => rfl
  | float x => rfl
  | _ => cases h

mutual

/-- **A value that is fit to be sent is fit to be told.** -/
theorem isTellable_of_compactWith : ∀ {v : Value} {s : Text},
    compactWith .strict v = .ok s → s.isEncodable = true → v.isTellable = true
  | .list items, s, h, hs => by
    obtain ⟨texts, htexts, rfl⟩ := compactWith_list_eq_ok.mp h
    exact areItemsTellable_of_compactItems htexts (all_isEncodable_of_enclosed hs)
  | .tuple items, s, h, hs => by
    rw [compactWith_tuple] at h
    obtain ⟨texts, htexts, rfl⟩ := compactWith_list_eq_ok.mp h
    exact areItemsTellable_of_compactItems htexts (all_isEncodable_of_enclosed hs)
  | .mapping entries, s, h, hs => by
    obtain ⟨texts, htexts, rfl⟩ := compactWith_mapping_eq_ok.mp h
    exact areEntriesTellable_of_compactEntries htexts (all_isEncodable_of_enclosed hs)
  | .int n, s, h, _ => (integerToken_eq_ok.mp h).1
  | .text t, s, h, hs => by
    obtain rfl := Except.ok.inj h
    rwa [isEncodable_string] at hs
  | .null, _, _, _ => rfl
  | .bool _, _, _, _ => rfl
  | .float _, _, _, _ => rfl
  | .date _, _, _, _ => rfl
  | .dateTime _, _, _, _ => rfl

theorem areItemsTellable_of_compactItems : ∀ {items : List Value} {texts : List Text},
    compactItems .strict items = .ok texts → texts.all Text.isEncodable = true →
      Value.areItemsTellable items = true
  | [], _, _, _ => rfl
  | v :: rest, texts, h, hs => by
    obtain ⟨first, others, hfirst, hothers, rfl⟩ := compactItems_cons_eq_ok.mp h
    rw [List.all_cons, Bool.and_eq_true] at hs
    rw [Value.areItemsTellable, isTellable_of_compactWith hfirst hs.1,
      areItemsTellable_of_compactItems hothers hs.2]
    rfl

theorem areEntriesTellable_of_compactEntries : ∀ {entries : Entries} {texts : List Text},
    compactEntries .strict entries = .ok texts → texts.all Text.isEncodable = true →
      Value.areEntriesTellable entries = true
  | [], _, _, _ => rfl
  | (k, v) :: rest, texts, h, hs => by
    obtain ⟨key, value, others, hkey, hvalue, hothers, rfl⟩ := compactEntries_cons_eq_ok.mp h
    rw [List.all_cons, Bool.and_eq_true, Text.isEncodable_append, Text.isEncodable_cons,
      isEncodable_string, Bool.and_eq_true, Bool.and_eq_true] at hs
    obtain ⟨⟨hkeyenc, -, hvalueenc⟩, hothersenc⟩ := hs
    rw [Value.areEntriesTellable, isTellable_of_keyText hkey hkeyenc,
      isTellable_of_compactWith hvalue hvalueenc,
      areEntriesTellable_of_compactEntries hothers hothersenc]
    rfl

end

end Json

end ProfileFilter
