import Mathlib.Tactic.SplitIfs
import ProfileFilter.Json.Bytes

/-!
# Properties of all that is read

Whatever the words and numbers have, and lists and mappings of values that have it, all that is
read from JSON has (`IsReadInvariant.of_parse`).
-/

namespace ProfileFilter

namespace Json

/-- A property that the words and numbers have, and that lists and mappings have if what they
are made of has it. -/
structure IsReadInvariant (P : Value → Prop) : Prop where
  /-- the words have it -/
  word : ∀ entry ∈ words, P entry.2
  /-- numbers have it -/
  number {negative : Bool} {whole t rest : Text} {v : Value} :
    scanNumber negative whole t = .ok (v, rest) → P v
  /-- texts have it -/
  text (t : Text) : P (.text t)
  /-- lists have it -/
  list {items : List Value} : (∀ v ∈ items, P v) → P (.list items)
  /-- mappings have it -/
  mapping {members : List (Text × Value)} : (∀ member ∈ members, P member.2) → P (mappingOf members)

variable {P : Value → Prop}

/-- What is read with a given amount of fuel has the property, if what was read before has it. -/
structure Reads (P : Value → Prop) (fuel : Nat) : Prop where
  /-- a value -/
  value {t rest : Text} {v : Value} : parseValue fuel t = .ok (v, rest) → P v
  /-- the items of a list -/
  items {done : List Value} {t rest : Text} {v : Value} : (∀ d ∈ done, P d) →
    parseItems fuel done t = .ok (v, rest) → P v
  /-- the members of a mapping -/
  members {done : List (Text × Value)} {t rest : Text} {v : Value} : (∀ d ∈ done, P d.2) →
    parseMembers fuel done t = .ok (v, rest) → P v

namespace IsReadInvariant

variable (hP : IsReadInvariant P)
include hP

theorem of_scanWord? {t rest : Text} {v : Value} (h : scanWord? t = some (v, rest)) : P v := by
  obtain ⟨⟨word, value⟩, hmem, hread⟩ := List.exists_of_findSome?_eq_some h
  obtain ⟨after, -, heq⟩ := Option.map_eq_some_iff.mp hread
  obtain ⟨rfl, -⟩ := Prod.mk.inj heq
  exact hP.word _ hmem

theorem of_wordOrNumber {negative : Bool} {whole t word rest : Text} {v : Value}
    (h : (match scanWord? word with
      | some found => Except.ok found
      | none => scanNumber negative whole t) = .ok (v, rest)) : P v := by
  split at h
  · next found hword =>
    obtain rfl := Except.ok.inj h
    exact hP.of_scanWord? hword
  · exact hP.number h

variable {fuel : Nat} {t rest : Text} {v : Value} (h : Reads P fuel)
include h

theorem of_parseValue_succ (hread : parseValue (fuel + 1) t = .ok (v, rest)) : P v := by
  cases t with
  | nil => cases hread
  | cons c after =>
    rw [parseValue] at hread
    split_ifs at hread with hquote hbrace hbracket hminus
    · cases hstring : scanString (c :: after) after with
      | error e =>
        rw [hstring] at hread
        cases hread
      | ok found =>
        rw [hstring] at hread
        obtain ⟨rfl, -⟩ := Prod.mk.inj (Except.ok.inj hread)
        exact hP.text _
    · split at hread
      · split_ifs at hread
        · obtain ⟨rfl, -⟩ := Prod.mk.inj (Except.ok.inj hread)
          show P (mappingOf [])
          exact hP.mapping fun d hd => absurd hd List.not_mem_nil
        · exact h.members (fun d hd => absurd hd List.not_mem_nil) hread
      · cases hread
    · split at hread
      · split_ifs at hread
        · obtain ⟨rfl, -⟩ := Prod.mk.inj (Except.ok.inj hread)
          exact hP.list fun d hd => absurd hd List.not_mem_nil
        · exact h.items (fun d hd => absurd hd List.not_mem_nil) hread
      · cases hread
    · exact hP.of_wordOrNumber hread
    · exact hP.of_wordOrNumber hread

theorem of_parseItems_succ {done : List Value} (hdone : ∀ d ∈ done, P d)
    (hread : parseItems (fuel + 1) done t = .ok (v, rest)) : P v := by
  rw [parseItems] at hread
  split at hread
  · cases hread
  · next item after hitem =>
    have hall : ∀ d ∈ item :: done, P d := List.forall_mem_cons.mpr ⟨h.value hitem, hdone⟩
    split at hread
    · split_ifs at hread
      · obtain ⟨rfl, -⟩ := Prod.mk.inj (Except.ok.inj hread)
        exact hP.list fun d hd => hall d (List.mem_reverse.mp hd)
      · exact h.items hall hread
    · cases hread

theorem of_parseMembers_succ {done : List (Text × Value)} (hdone : ∀ d ∈ done, P d.2)
    (hread : parseMembers (fuel + 1) done t = .ok (v, rest)) : P v := by
  cases t with
  | nil => cases hread
  | cons c after =>
    rw [parseMembers] at hread
    split_ifs at hread
    split at hread
    · cases hread
    split at hread
    · cases hread
    split_ifs at hread
    split at hread
    · cases hread
    · next item after hitem =>
      split at hread
      · cases hread
      · have hall : ∀ key : Text, ∀ d ∈ (key, item) :: done, P d.2 :=
          fun key => List.forall_mem_cons.mpr ⟨h.value hitem, hdone⟩
        split_ifs at hread
        · obtain ⟨rfl, -⟩ := Prod.mk.inj (Except.ok.inj hread)
          exact hP.mapping fun d hd => hall _ d (List.mem_reverse.mp hd)
        · exact h.members (hall _) hread

omit h in
theorem reads (fuel : Nat) : Reads P fuel := by
  -- the readers call each other with less fuel, so one induction serves all three
  induction fuel with
  | zero =>
    constructor
    · intro t rest v h
      cases h
    · intro done t rest v _ h
      cases h
    · intro done t rest v _ h
      cases h
  | succ fuel ih =>
    exact ⟨hP.of_parseValue_succ ih, hP.of_parseItems_succ ih, hP.of_parseMembers_succ ih⟩

omit h in
/-- **All that is read from JSON has the property.** -/
theorem of_parse (h : parse t = .ok v) : P v := by
  unfold parse at h
  split at h
  · cases h
  · next w rest hread =>
    split at h
    · obtain rfl := Except.ok.inj h
      exact (hP.reads _).value hread
    · cases h

omit h in
theorem of_parseBytes? {bytes : List UInt8} (h : parseBytes? bytes = some v) : P v := by
  obtain ⟨t, -, hread⟩ := Option.bind_eq_some_iff.mp h
  cases hparse : parse t with
  | error failure =>
    rw [hparse] at hread
    cases hread
  | ok found =>
    rw [hparse] at hread
    obtain rfl := Option.some.inj hread
    exact hP.of_parse hparse

end IsReadInvariant

end Json

end ProfileFilter
