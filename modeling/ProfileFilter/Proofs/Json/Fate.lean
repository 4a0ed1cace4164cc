import ProfileFilter.Proofs.Compile.Clauses
import ProfileFilter.Proofs.Value.Tellable

/-!
# The fate of a value

What becomes of a value when the document it stands in is to be sent: its text can be encoded, or
cannot, or there is no text, for one of two reasons. That is its *fate*. The fate of a document is
made of the fates of the values in it: a mapping with one entry shares the fate of its value,
unless the key cannot be encoded, and a list that of its items, up to the first without a text.

Main statements: `fate_single` and `fate_list_congr`.
-/

namespace ProfileFilter

namespace Json

/-- What becomes of a value: can its text be encoded, or why is there none? -/
def fate (v : Value) : Except Unprintable Bool := (compact v).map Text.isEncodable

theorem fate_eq_ok_true_iff {v : Value} :
    fate v = .ok true ↔ ∃ s, compact v = .ok s ∧ s.isEncodable = true := by
  unfold fate
  cases compact v <;> simp [Except.map]

theorem fate_eq_error_iff {v : Value} {e : Unprintable} :
    fate v = .error e ↔ compact v = .error e := by
  unfold fate
  cases compact v <;> simp [Except.map]

theorem fate_text (t : Text) : fate (.text t) = .ok t.isEncodable :=
  congrArg Except.ok (isEncodable_string t)

theorem fate_int {n : Int} (h : Value.isWritableInt n = true) : fate (.int n) = .ok true := by
  have htoken : compact (.int n) = .ok (Text.ofInt n) := if_pos h
  rw [fate, htoken, Except.map, Text.isEncodable_ofInt]

theorem fate_float {x : Binary64} (h : x.isFinite = true) : fate (.float x) = .ok true := by
  cases x with
  | finite negative mantissa exponent =>
    exact congrArg Except.ok (Binary64.isEncodable_shown _)
  | nan => cases h
  | infinite negative => cases h

theorem fate_bool (b : Bool) : fate (.bool b) = .ok true := by
  cases b <;> rfl

/-- **A single entry** shares the fate of its value, unless the key cannot be encoded. -/
theorem fate_single (key : Text) (v : Value) :
    fate (single key v) = (fate v).map (key.isEncodable && ·) := by
  unfold fate
  cases hv : compact v with
  | error e =>
    have hsingle : compact (single key v) = .error e := by
      refine bind_pure_eq_error.mpr (bind_eq_error.mpr (.inr ⟨key, rfl, ?_⟩))
      exact bind_eq_error.mpr (.inl hv)
    rw [hsingle]
    rfl
  | ok s =>
    have hsingle : compact (single key v) = .ok (0x7B :: (string key ++ 0x3A :: s ++ [0x7D])) :=
      compactWith_single_eq_ok.mpr ⟨s, hv, rfl⟩
    have henc : Text.isEncodable (0x7B :: (string key ++ 0x3A :: s ++ [0x7D])) =
        (key.isEncodable && s.isEncodable) := by
      rw [Text.isEncodable_cons, Text.isEncodable_append, Text.isEncodable_append,
        Text.isEncodable_cons, isEncodable_string]
      exact Bool.and_true _
    rw [hsingle]
    exact congrArg Except.ok henc

/-- The fates of the items of a list, up to the first that has no text. -/
def fateOfItems (items : List Value) : Except Unprintable Bool :=
  (compactItems .strict items).map (·.all Text.isEncodable)

theorem fateOfItems_cons (v : Value) (rest : List Value) :
    fateOfItems (v :: rest) = do
      let first ← fate v
      let others ← fateOfItems rest
      return first && others := by
  have hcons : compactItems .strict (v :: rest) = (do
    let item ← compact v
    return item :: (← compactItems .strict rest)) := rfl
  unfold fateOfItems fate
  rw [hcons]
  cases compact v with
  | error e => rfl
  | ok s => cases compactItems .strict rest <;> rfl

theorem fate_list (items : List Value) : fate (.list items) = fateOfItems items := by
  unfold fateOfItems fate
  cases hitems : compactItems .strict items with
  | error e =>
    have hlist : compact (.list items) = .error e := bind_pure_eq_error.mpr hitems
    rw [hlist]
    rfl
  | ok texts =>
    have hlist : compact (.list items) = .ok (0x5B :: (Text.join [0x2C] texts ++ [0x5D])) :=
      compactWith_list_eq_ok.mpr ⟨texts, hitems, rfl⟩
    have henc : Text.isEncodable (0x5B :: (Text.join [0x2C] texts ++ [0x5D])) =
        texts.all Text.isEncodable := by
      rw [Text.isEncodable_cons, Text.isEncodable_append, Text.isEncodable_join rfl]
      exact Bool.and_true _
    rw [hlist]
    exact congrArg Except.ok henc

/-- **Lists of items with the same fates have the same fate.** -/
theorem fate_list_congr {vs ws : List Value} (h : List.Forall₂ (fun v w => fate v = fate w) vs ws) :
    fate (.list vs) = fate (.list ws) := by
  rw [fate_list, fate_list]
  induction h with
  | nil => rfl
  | cons hfirst _ ih => rw [fateOfItems_cons, fateOfItems_cons, hfirst, ih]

end Json

end ProfileFilter
