import ProfileFilter.Proofs.Json.Indented
import ProfileFilter.Settings.Load

/-!
# JSON as documents

Files are read as YAML, which takes most JSON for what it is. What is known of such a reader is
stated here without it (`Document.Reads`): it takes the texts of *portable* values for these values,
and it refuses a text with a code point that may not stand in a document. Not every text that JSON
can carry as it stands is portable: the control character U+007F, for one, is not.

Between the two lie three code points that YAML takes for line breaks, and mapping keys that are too
long for it. Nothing is said of them.
-/

namespace ProfileFilter

namespace Value

/-- The value is made of words, texts, lists and records with distinct names, at most so many
brackets around anything. `P` is what is asked of texts, and `K` of names. -/
inductive IsSimple (P K : Text → Prop) : Nat → Value → Prop where
  /-- null -/
  | null {n : Nat} : IsSimple P K n .null
  /-- truth values -/
  | bool {n : Nat} (b : Bool) : IsSimple P K n (.bool b)
  /-- texts -/
  | text {n : Nat} {t : Text} : P t → IsSimple P K n (.text t)
  /-- lists -/
  | list {n : Nat} {items : List Value} : (∀ v ∈ items, IsSimple P K n v) →
    IsSimple P K (n + 1) (.list items)
  /-- records -/
  | record {n : Nat} {fields : List (Text × Value)} : (fields.map Prod.fst).Nodup →
    (∀ field ∈ fields, K field.1) → (∀ field ∈ fields, IsSimple P K n field.2) →
    IsSimple P K (n + 1) (.record fields)

/-- **Simple values are laid out as JSON texts for themselves.** -/
theorem IsSimple.isFaithful {P K : Text → Prop} {n : Nat} {v : Value} (h : IsSimple P K n v) :
    Json.IsFaithful v := by
  induction h with
  | null => exact Json.isFaithful_null
  | bool b => exact Json.isFaithful_bool b
  | text _ => exact Json.isFaithful_text _
  | list _ ih => exact Json.isFaithful_list ih
  | record hnames _ _ ih => exact Json.isFaithful_record hnames ih

/-- What passes for the texts and names passes for the value. -/
theorem IsSimple.allPoints {P K : Text → Prop} {p : CodePoint → Bool} {n : Nat} {v : Value}
    (h : IsSimple P K n v) (hP : ∀ t, P t → t.all p = true) (hK : ∀ t, K t → t.all p = true) :
    v.allPoints p = true := by
  induction h with
  | null | bool => rfl
  | text ht => exact hP _ ht
  | list _ ih =>
    rw [Value.allPoints, allPointsOf_eq]
    exact List.all_eq_true.mpr ih
  | record _ hkeys _ ih =>
    rw [allPoints_record]
    exact List.all_eq_true.mpr fun field hfield =>
      Bool.and_eq_true_iff.mpr ⟨hK _ (hkeys field hfield), ih field hfield⟩

end Value

namespace Document

/-- May the code point stand in a document? -/
def mayStand (c : CodePoint) : Bool :=
  c.val == 0x09 || c.val == 0x0A || c.val == 0x0D || (0x20 ≤ c.val && c.val < 0x7F) ||
    c.val == 0x85 || (0xA0 ≤ c.val && c.val < 0xD800) || (0xE000 ≤ c.val && c.val < 0xFFFE) ||
    0x10000 ≤ c.val

/-- Is the code point kept in a quoted text? Control characters are, since they are escaped. -/
def isKept (c : CodePoint) : Bool :=
  c.val < 0x20 || (mayStand c && c.val != 0x85 && c.val != 0x2028 && c.val != 0x2029)

/-- The text is kept as a value. -/
def IsPortable (t : Text) : Prop := t.all isKept = true

/-- How long a name may be, with its quotes and escapes. -/
def maxNameLength : Nat := 1024

/-- The text is kept as a name. -/
def IsPortableName (t : Text) : Prop := IsPortable t ∧ (Json.string t).length ≤ maxNameLength

/-- A reader of documents takes the laid-out text of a portable value for the value, and refuses
texts with a code point that may not stand in a document. -/
structure Reads (read : Text → FileState) : Prop where
  /-- portable values, with few brackets, are kept -/
  json {v : Value} {s : Text} : Json.indented v = .ok s → v.IsSimple IsPortable IsPortableName 5 →
    read (s ++ "\n") = .document v
  /-- other code points are refused -/
  refuses {s : Text} : s.isEncodable = true → s.all mayStand = false →
    ∃ reason, read s = .malformed reason

/-! ## A reader -/

/-- A reader that takes JSON only. -/
def readJson (s : Text) : FileState :=
  if s.all mayStand then
    match Json.parse s with
    | .ok v => .document v
    | .error _ => .malformed "no JSON"
  else .malformed "special characters are not allowed"

theorem passesAscii_mayStand : Json.PassesAscii mayStand where
  printable hlow hhigh := by
    simp [mayStand, hlow, hhigh]
  line := rfl

/-- **A reader of JSON reads documents.** -/
theorem reads_readJson : Reads readJson where
  json {v s} h hsimple := by
    obtain ⟨s', hs', hdenotes⟩ := hsimple.isFaithful 0
    obtain rfl : s' = s := Except.ok.inj (hs'.symm.trans h)
    have hparse := Json.parse_append hdenotes (w := "\n") fun c hc => by
      obtain rfl := List.mem_singleton.mp hc
      rfl
    have hstand : (s' ++ ("\n" : Text)).all mayStand = true := by
      have hjson := Json.isReadInvariant_isJson.of_parse hparse
      have hpoints : v.allPoints (fun c => decide (c.val < 0x20) || mayStand c) = true := by
        have hkept : ∀ t, IsPortable t →
            t.all (fun c => decide (c.val < 0x20) || mayStand c) = true := fun t ht => by
          refine List.all_eq_true.mpr fun c hc => ?_
          have hc := List.all_eq_true.mp ht c hc
          simp only [isKept, Bool.or_eq_true, Bool.and_eq_true] at hc ⊢
          exact hc.imp id fun h => h.1.1.1
        exact hsimple.allPoints hkept fun t ht => hkept t ht.1
      rw [List.all_append, passesAscii_mayStand.all_indentedAt hjson h, hpoints]
      rfl
    rw [readJson, if_pos hstand, hparse]
  refuses {s} _ h := ⟨_, by rw [readJson, h]; rfl⟩

end Document

end ProfileFilter
