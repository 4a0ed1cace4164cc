import ProfileFilter.Proofs.Json.Words
import ProfileFilter.Proofs.Json.Portable
import ProfileFilter.Proofs.Number.Shortest

/-!
# Strict JSON

The text that a value is laid out as is strict JSON for the value (`IsStrictFor`), or there is a
word in it that no strict reader knows (`IsSpoilt`). It depends on the numbers in the value, and on
nothing else: they have to be finite.

This is so for all values that JSON can tell exactly (`Value.IsExact`): whose integers are not too
long, whose floats are of the usual format, and whose names are distinct. All that is read from
JSON is such a value, since reading keeps one entry for each key and rounds to a float.

Main statements: `isReadInvariant_isExact`, `exists_indented_of_isExact`.
-/

namespace ProfileFilter

/-! ## The token of a float -/

namespace Binary64

/-- The digits a number is shown with read back as it. -/
theorem ofDecimal_shortestDecimal {mantissa : Nat} {exponent : Int} (hmantissa : 0 < mantissa)
    (hcanonical : (finite false mantissa exponent).IsCanonical) :
    (shortestDecimal mantissa exponent).1 ≠ 0 ∧
      ∀ negative, ofDecimal negative (shortestDecimal mantissa exponent).1
        (shortestDecimal mantissa exponent).2 = .finite negative mantissa exponent := by
  -- the search ends with seventeen digits, if it has not ended before
  obtain ⟨found, hfound⟩ := exists_decimalOf?_eq_some hmantissa hcanonical
  have hsome : ((List.range 17).findSome? fun n =>
      decimalOf? mantissa exponent (n + 1)).isSome = true :=
    List.findSome?_isSome_iff.mpr ⟨16, by decide, by rw [hfound]; rfl⟩
  obtain ⟨shortest, hshortest⟩ := Option.isSome_iff_exists.mp hsome
  obtain ⟨n, -, hn⟩ := List.exists_of_findSome?_eq_some hshortest
  have hback := Json.ofDecimal_of_decimalOf? hn
  rw [shortestDecimal, hshortest, Option.getD_some]
  refine ⟨fun hzero => ?_, fun negative => ?_⟩
  · rw [hzero, ofDecimal_zero] at hback
    injection hback with _ hmantissa' _
    exact hmantissa.ne hmantissa'
  · rw [ofDecimal_eq_withSign, hback]
    rfl

end Binary64

namespace Json

/-- **The token of a finite float is a numeral for that float.** -/
theorem Numeral.value_of_ofFloat? {negative : Bool} {mantissa : Nat} {exponent : Int} {n : Numeral}
    (hcanonical : (Binary64.finite negative mantissa exponent).IsCanonical)
    (h : ofFloat? (.finite negative mantissa exponent) = some n) :
    n.value = .float (.finite negative mantissa exponent) := by
  simp only [ofFloat?] at h
  rcases Nat.eq_zero_or_pos mantissa with rfl | hmantissa
  · -- there is one zero of each sign
    obtain rfl : exponent = -1074 := by
      obtain ⟨-, -, -, hnormal | hleast⟩ := hcanonical
      · exact absurd hnormal (by decide)
      · exact hleast
    rw [if_pos (.inl rfl)] at h
    obtain rfl := Option.some.inj h
    exact value_zero negative
  · obtain ⟨hdigits, hback⟩ := Binary64.ofDecimal_shortestDecimal hmantissa hcanonical
    rw [if_neg (not_or.mpr ⟨hmantissa.ne', hdigits⟩)] at h
    obtain rfl := Option.some.inj h
    rw [(layout_dropZeros_spec negative (Nat.pos_of_ne_zero hdigits) _).2, hback negative]

theorem isFaithful_float {x : Binary64} (hcanonical : x.IsCanonical) (hfinite : x.isFinite = true) :
    IsFaithful (.float x) := by
  cases x with
  | nan => cases hfinite
  | infinite negative => cases hfinite
  | finite negative mantissa exponent =>
    obtain ⟨n, hn⟩ := Numeral.exists_ofFloat?_eq_some negative mantissa exponent
    obtain ⟨hvalid, htext, -⟩ := Numeral.ofFloat?_spec hn
    intro depth
    refine ⟨_, rfl, ?_⟩
    rw [← Numeral.value_of_ofFloat? hcanonical hn, ← htext]
    exact .number hvalid

theorem isFaithful_int {n : Int} (h : Value.isWritableInt n = true) : IsFaithful (.int n) :=
  fun _ => ⟨_, if_pos h, denotes_integerToken .distinct (if_pos h)⟩

end Json

/-! ## Values that JSON tells exactly -/

namespace Value

/-- The value can be told exactly in JSON, but for numbers that are not finite. -/
inductive IsExact : Value → Prop where
  /-- null -/
  | null : IsExact .null
  /-- truth values -/
  | bool (b : Bool) : IsExact (.bool b)
  /-- integers that may be written -/
  | int {n : Int} : isWritableInt n = true → IsExact (.int n)
  /-- floats -/
  | float {x : Binary64} : x.IsCanonical → IsExact (.float x)
  /-- texts -/
  | text (t : Text) : IsExact (.text t)
  /-- lists -/
  | list {items : List Value} : (∀ v ∈ items, IsExact v) → IsExact (.list items)
  /-- records -/
  | record {fields : List (Text × Value)} : (fields.map Prod.fst).Nodup →
    (∀ field ∈ fields, IsExact field.2) → IsExact (.record fields)

variable {v : Value}

theorem IsSimple.isExact {P K : Text → Prop} {n : Nat} (h : v.IsSimple P K n) : v.IsExact := by
  induction h with
  | null => exact .null
  | bool b => exact .bool b
  | text _ => exact .text _
  | list _ ih => exact .list ih
  | record hnames _ _ ih => exact .record hnames ih

theorem IsSimple.allFinite {P K : Text → Prop} {n : Nat} (h : v.IsSimple P K n) :
    v.allFinite = true := by
  induction h with
  | null | bool | text => rfl
  | list _ ih =>
    rw [Value.allFinite, areFinite_eq]
    exact List.all_eq_true.mpr ih
  | record _ _ _ ih =>
    rw [allFinite_record]
    exact List.all_eq_true.mpr ih

theorem isExact_ofOption {α : Type} {wrap : α → Value} (h : ∀ a, (wrap a).IsExact) (o : Option α) :
    (Value.ofOption wrap o).IsExact := by
  cases o with
  | none => exact .null
  | some a => exact h a

/-- It can be laid out. -/
theorem IsExact.isJson (h : v.IsExact) : v.isJson = true := by
  induction h with
  | null | bool | float | text => rfl
  | int hn => exact hn
  | list _ ih =>
    rw [Value.isJson, areJson_eq]
    exact List.all_eq_true.mpr ih
  | record _ _ ih =>
    rw [isJson_record]
    exact List.all_eq_true.mpr ih

/-- If its numbers are finite, it is laid out as a JSON text for itself. -/
theorem IsExact.isFaithful (h : v.IsExact) (hfinite : v.allFinite = true) : Json.IsFaithful v := by
  induction h with
  | null => exact Json.isFaithful_null
  | bool b => exact Json.isFaithful_bool b
  | int hn => exact Json.isFaithful_int hn
  | float hx => exact Json.isFaithful_float hx hfinite
  | text t => exact Json.isFaithful_text t
  | list _ ih =>
    rw [Value.allFinite, areFinite_eq, List.all_eq_true] at hfinite
    exact Json.isFaithful_list fun v hv => ih v hv (hfinite v hv)
  | record hnames _ ih =>
    rw [allFinite_record, List.all_eq_true] at hfinite
    exact Json.isFaithful_record hnames fun field hfield => ih field hfield (hfinite field hfield)

/-! ## What is read -/

/-- Filing a value under a name keeps names distinct. -/
theorem exists_insert_eq {fields : List (Text × Value)} (hnames : (fields.map Prod.fst).Nodup)
    (key : Text) (v : Value) :
    ∃ filed : List (Text × Value),
      insert key v (fields.map fun field => (.text field.1, field.2)) =
        filed.map (fun field => (.text field.1, field.2)) ∧
      (filed.map Prod.fst).Nodup ∧ ∀ field ∈ filed, field = (key, v) ∨ field ∈ fields := by
  induction fields with
  | nil =>
    exact ⟨[(key, v)], rfl, List.nodup_singleton _, fun _ h => .inl (List.mem_singleton.mp h)⟩
  | cons first rest ih =>
    obtain ⟨name, w⟩ := first
    obtain ⟨hfirst, hrest⟩ := List.nodup_cons.mp hnames
    by_cases hname : name = key
    · subst hname
      refine ⟨(name, v) :: rest, ?_, hnames, fun field hfield => ?_⟩
      · rw [List.map_cons, insert, if_pos (beq_self_eq_true _), List.map_cons]
      · exact (List.mem_cons.mp hfield).imp id (List.mem_cons_of_mem _)
    · obtain ⟨filed, heq, hfiled, hmem⟩ := ih hrest
      have hkey : ¬ ((.text name : Value) == .text key) = true := fun h =>
        hname (Value.text.inj (beq_iff_eq.mp h))
      refine ⟨(name, w) :: filed, ?_, ?_, fun field hfield => ?_⟩
      · rw [List.map_cons, insert, if_neg hkey, heq, List.map_cons]
      · refine List.nodup_cons.mpr ⟨fun hin => ?_, hfiled⟩
        obtain ⟨field, hfield, rfl⟩ := List.mem_map.mp hin
        rcases hmem field hfield with rfl | hold
        · exact hname rfl
        · exact hfirst (List.mem_map.mpr ⟨field, hold, rfl⟩)
      · rcases List.mem_cons.mp hfield with rfl | hfield
        · exact .inr List.mem_cons_self
        · exact (hmem field hfield).imp id (List.mem_cons_of_mem _)

end Value

namespace Json

/-- Members are filed in a record. -/
theorem isExact_mappingOf {members : List (Text × Value)}
    (h : ∀ member ∈ members, member.2.IsExact) : (mappingOf members).IsExact := by
  -- over whatever fields were filed before
  have hfold : ∀ fields : List (Text × Value), (fields.map Prod.fst).Nodup →
      (∀ field ∈ fields, field.2.IsExact) →
      (Value.mapping (members.foldl
        (fun entries member => Value.insert member.1 member.2 entries)
        (fields.map fun field => (.text field.1, field.2)))).IsExact := by
    induction members with
    | nil => exact fun fields hnames hfields => .record hnames hfields
    | cons member rest ih =>
      obtain ⟨hmember, hrest⟩ := List.forall_mem_cons.mp h
      intro fields hnames hfields
      obtain ⟨filed, heq, hfiled, hmem⟩ := Value.exists_insert_eq hnames member.1 member.2
      rw [List.foldl_cons, heq]
      refine ih hrest filed hfiled fun field hfield => ?_
      rcases hmem field hfield with rfl | hold
      · exact hmember
      · exact hfields field hold
  exact hfold [] List.nodup_nil (List.forall_mem_nil _)

theorem isExact_of_scanNumber {negative : Bool} {whole t rest : Text} {v : Value}
    (h : scanNumber negative whole t = .ok (v, rest)) : v.IsExact := by
  have hdigits := allDigits_integerPart t
  simp only [scanNumber] at h
  split_ifs at h with _ _ hlong
  · obtain ⟨rfl, -⟩ := Prod.mk.inj (Except.ok.inj h)
    exact .int (isWritableInt_of_digits hdigits (Nat.not_lt.mp hlong) negative)
  · obtain ⟨rfl, -⟩ := Prod.mk.inj (Except.ok.inj h)
    exact .float (Binary64.isCanonical_ofDecimal _ _ _)

theorem isExact_of_mem_words : ∀ entry ∈ words, entry.2.IsExact := by
  simp only [words, List.forall_mem_cons]
  exact ⟨.null, .bool true, .bool false, .float trivial, .float trivial, .float trivial,
    List.forall_mem_nil _⟩

/-- **What is read from JSON can be told exactly in it.** -/
theorem isReadInvariant_isExact : IsReadInvariant Value.IsExact where
  word := isExact_of_mem_words
  number := isExact_of_scanNumber
  text := .text
  list := .list
  mapping := isExact_mappingOf

/-! ## Strict texts and others -/

variable {s : Text} {v : Value}

/-- The text is strict JSON, and every reader of JSON takes it for the value. -/
structure IsStrictFor (s : Text) (v : Value) : Prop where
  /-- it is a text of the grammar, with distinct keys -/
  denotes : Denotes .distinct s v
  /-- and for no other value -/
  eq_of_denotes : ∀ keys w, Denotes keys s w → w = v
  /-- the reader that knows more words takes it for the value as well -/
  parse_eq : parse s = .ok v
  /-- there are no such words in it -/
  wordless : ¬ HasNumberWord s

/-- The text is no JSON, because of a word for a number that is not finite. -/
structure IsSpoilt (s : Text) : Prop where
  /-- there is such a word, outside strings -/
  word : HasNumberWord s
  /-- the text is none of the grammar, not even if keys may repeat -/
  refused : ∀ keys w, ¬ Denotes keys s w

theorem Denotes.isStrictFor (h : Denotes .distinct s v) : IsStrictFor s v where
  denotes := h
  eq_of_denotes _ _ hw := Except.ok.inj ((parse_of_denotes hw).symm.trans (parse_of_denotes h))
  parse_eq := parse_of_denotes h
  wordless := h.not_hasNumberWord

theorem HasNumberWord.isSpoilt (h : HasNumberWord s) : IsSpoilt s where
  word := h
  refused _ _ hw := hw.not_hasNumberWord h

/-- If a record is laid out, so are its values. -/
theorem exists_indentedAt_of_mem {fields : List (Text × Value)} {depth : Nat}
    (h : indentedAt depth (.record fields) = .ok s) :
    ∀ field ∈ fields, ∃ t, indentedAt (depth + 1) field.2 = .ok t := by
  obtain ⟨texts, htexts, -⟩ := indentedAt_mapping_eq_ok.mp h
  clear h
  induction fields generalizing texts with
  | nil => exact List.forall_mem_nil _
  | cons field rest ih =>
    obtain ⟨_, value, others, -, hvalue, hothers, rfl⟩ := indentedEntries_cons_eq_ok.mp htexts
    exact List.forall_mem_cons.mpr ⟨⟨value, hvalue⟩, ih others hothers⟩

/-- An integer that is laid out may be written. -/
theorem isWritableInt_of_indentedAt {n : Int} {depth : Nat}
    (h : indentedAt depth (.int n) = .ok s) : Value.isWritableInt n = true :=
  (integerToken_eq_ok.mp h).1

/-- **A value is laid out as strict JSON for itself exactly if its numbers are finite.** Otherwise
the text is spoilt. -/
theorem exists_indented_of_isExact (h : v.IsExact) :
    ∃ s, indented v = .ok s ∧ (v.allFinite = true → IsStrictFor s v) ∧
      (v.allFinite = false → IsSpoilt s) := by
  obtain ⟨s, hs⟩ := exists_indentedAt h.isJson 0
  refine ⟨s, hs, fun hfinite => ?_, fun hfinite => ?_⟩
  · obtain ⟨s', hs', hdenotes⟩ := h.isFaithful hfinite 0
    obtain rfl : s' = s := Except.ok.inj (hs'.symm.trans hs)
    exact hdenotes.isStrictFor
  · exact (hasNumberWord_of_indentedAt hs hfinite).isSpoilt

end Json

end ProfileFilter
