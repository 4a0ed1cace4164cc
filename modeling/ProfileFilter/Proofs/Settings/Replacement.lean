import ProfileFilter.Proofs.Settings.Reference
import ProfileFilter.Proofs.Text.Pieces

/-!
# Replacing references

A text is scanned from left to right. At each place either a reference starts, which is replaced
as a whole, or none does, and one code point is passed over. So the references that are replaced
are those that come first, and neither what they are replaced by nor a part of one is looked at
again. What is not a well-formed reference stays as it is.

In a document the same is done to all texts; its keys and all else stay.

Main statement: `resolve_replaces`.
-/

namespace ProfileFilter

namespace Reference

/-! ## References as they are written -/

/-- A name: a letter or an underscore, and letters, underscores and digits behind it. -/
def IsName (name : Text) : Prop :=
  ∃ c rest, name = c :: rest ∧ isNameStart c = true ∧ ∀ d ∈ rest, isNameRest d = true

/-- How references are written, with the name and the default of each. -/
inductive IsReference : Text → Text → Text → Prop where
  /-- a name alone: the default is nothing -/
  | bare {name : Text} : IsName name → IsReference ("$\x7b" ++ name ++ "\x7d") name []
  /-- a name with a default, which ends at the first closing brace -/
  | withDefault {name fallback : Text} : IsName name → (0x7D : CodePoint) ∉ fallback →
    IsReference ("$\x7b" ++ name ++ ":-" ++ fallback ++ "\x7d") name fallback

theorem IsName.isNameRest {name : Text} (h : IsName name) : ∀ c ∈ name, isNameRest c = true := by
  obtain ⟨c, rest, rfl, hc, hrest⟩ := h
  intro d hd
  rcases List.mem_cons.mp hd with rfl | hd
  · rw [Reference.isNameRest, hc, Bool.true_or]
  · exact hrest d hd

/-- What the scanner takes for a name is one if it starts like one. -/
theorem isName_takeWhile {t : Text}
    (h : (t.takeWhile isNameRest).head?.any isNameStart = true) :
    IsName (t.takeWhile isNameRest) := by
  have hall : (t.takeWhile isNameRest).all isNameRest = true := List.all_takeWhile
  cases hname : t.takeWhile isNameRest with
  | nil =>
    rw [hname] at h
    cases h
  | cons c rest =>
    rw [hname] at h hall
    exact ⟨c, rest, rfl, h, fun d hd => List.all_eq_true.mp hall d (List.mem_cons_of_mem c hd)⟩

/-- A name ends where no code point of a name follows. -/
theorem IsName.takeWhile_append {name : Text} (h : IsName name) {c : CodePoint}
    (hc : Reference.isNameRest c = false) (after : Text) :
    (name ++ c :: after).takeWhile Reference.isNameRest = name := by
  rw [List.takeWhile_append_of_pos h.isNameRest, List.takeWhile_cons_of_neg (by simp [hc]),
    List.append_nil]

theorem IsName.any_head? {name : Text} (h : IsName name) : name.head?.any isNameStart = true := by
  obtain ⟨c, rest, rfl, hc, -⟩ := h
  exact hc

theorem opening_eq : ("$\x7b" : Text) = [0x24, 0x7B] := rfl

theorem closing_eq : ("\x7d" : Text) = [0x7D] := rfl

theorem separator_eq : (":-" : Text) = [0x3A, 0x2D] := rfl

/-- The scanner finds the references that are written at the front of a text. -/
theorem atFront?_eq_some_iff {t name fallback : Text} {length : Nat} :
    atFront? t = some ⟨name, fallback, length⟩ ↔ ∃ r rest, t = r ++ rest ∧
      IsReference r name fallback ∧ length = r.length := by
  constructor
  · intro h
    simp only [atFront?, Option.bind_eq_bind, Option.bind_eq_some_iff,
      Text.afterHead?_eq_some_iff] at h
    obtain ⟨body, rfl, h⟩ := h
    have hisName := isName_takeWhile (t := body)
    obtain ⟨rest, hbody⟩ := List.takeWhile_prefix (l := body) isNameRest
    have hdrop : body.drop (body.takeWhile isNameRest).length = rest := by
      conv_lhs =>
        arg 2
        rw [← hbody]
      exact List.drop_left
    generalize body.takeWhile isNameRest = scanned at h hisName hbody hdrop
    rw [hdrop] at h
    subst hbody
    split_ifs at h with hstart hclose
    · obtain ⟨after, rfl⟩ := List.head?_eq_some_iff.mp (beq_iff_eq.mp hclose)
      obtain ⟨rfl, rfl, rfl⟩ := Found.mk.inj (Option.some.inj h)
      exact ⟨_, after, by simp [closing_eq], .bare (hisName (by simpa using hstart)),
        by simp [opening_eq, closing_eq]⟩
    · obtain ⟨behind, hbehind, h⟩ := Option.bind_eq_some_iff.mp h
      rw [Text.afterHead?_eq_some_iff] at hbehind
      rcases hcut : Text.cut 0x7D behind with ⟨before, _ | after⟩
      · rw [hcut] at h
        cases h
      · rw [hcut] at h
        obtain ⟨rfl, rfl, rfl⟩ := Found.mk.inj (Option.some.inj h)
        obtain ⟨rfl, hfallback⟩ := Text.cut_eq_some_iff.mp hcut
        refine ⟨_, after, by simp [hbehind, closing_eq],
          .withDefault (hisName (by simpa using hstart)) hfallback, ?_⟩
        simp [opening_eq, separator_eq, closing_eq]
        omega
  · rintro ⟨r, rest, rfl, hr, rfl⟩
    cases hr with
    | bare hname =>
      have hscan : (name ++ 0x7D :: rest).takeWhile isNameRest = name :=
        hname.takeWhile_append rfl rest
      simp [atFront?, opening_eq, closing_eq, Text.afterHead?, hscan, hname.any_head?]
    | withDefault hname hfallback =>
      have hscan :
          (name ++ 0x3A :: 0x2D :: (fallback ++ 0x7D :: rest)).takeWhile isNameRest = name :=
        hname.takeWhile_append rfl _
      simp [atFront?, opening_eq, separator_eq, closing_eq, Text.afterHead?, hscan,
        hname.any_head?, Text.cut_append_cons hfallback]
      omega


/-! ## The first reference -/

/-- A reference is written at the front of the text. -/
def StartsWithReference (t : Text) : Prop :=
  ∃ r name fallback, IsReference r name fallback ∧ r <+: t

theorem atFront?_eq_none_iff {t : Text} : atFront? t = none ↔ ¬ StartsWithReference t := by
  rw [Option.eq_none_iff_forall_ne_some, ← not_exists]
  refine not_congr ⟨?_, ?_⟩
  · rintro ⟨⟨name, fallback, length⟩, hfound⟩
    obtain ⟨r, rest, rfl, hr, -⟩ := atFront?_eq_some_iff.mp hfound
    exact ⟨r, name, fallback, hr, List.prefix_append r rest⟩
  · rintro ⟨r, name, fallback, hr, rest, rfl⟩
    exact ⟨⟨name, fallback, r.length⟩, atFront?_eq_some_iff.mpr ⟨r, rest, rfl, hr, rfl⟩⟩

/-- No reference starts in the front of a text, not even one that ends behind it. -/
def StartsNone (front rest : Text) : Prop :=
  ∀ after, after ≠ [] → after <:+ front → ¬ StartsWithReference (after ++ rest)

theorem startsNone_cons_iff {c : CodePoint} {front rest : Text} :
    StartsNone (c :: front) rest ↔
      ¬ StartsWithReference (c :: front ++ rest) ∧ StartsNone front rest := by
  constructor
  · intro h
    refine ⟨h _ (List.cons_ne_nil c front) (List.suffix_refl _), fun after hne hsuffix => ?_⟩
    exact h after hne (hsuffix.trans (List.suffix_cons c front))
  · rintro ⟨hfirst, hrest⟩ after hne hsuffix
    rcases List.suffix_cons_iff.mp hsuffix with rfl | hsuffix
    · exact hfirst
    · exact hrest after hne hsuffix

theorem startsNone_nil (rest : Text) : StartsNone [] rest := by
  intro after hne hsuffix
  exact absurd (List.suffix_nil.mp hsuffix) hne

theorem IsReference.exists_eq_cons {r name fallback : Text} (h : IsReference r name fallback) :
    ∃ rest, r = 0x24 :: rest := by
  cases h with
  | bare _ => exact ⟨_, rfl⟩
  | withDefault _ _ => exact ⟨_, rfl⟩

/-- References start with a dollar sign. -/
theorem startsNone_of_notMem {front : Text} (h : ('$' : CodePoint) ∉ front) (rest : Text) :
    StartsNone front rest := by
  rintro after hne hsuffix ⟨r, name, fallback, hr, behind, hsplit⟩
  obtain ⟨tail, rfl⟩ := hr.exists_eq_cons
  obtain ⟨c, after, rfl⟩ := List.exists_cons_of_ne_nil hne
  obtain ⟨rfl, -⟩ := List.cons.inj hsplit
  exact h (hsuffix.subset List.mem_cons_self)

/-- A text holds no reference, or a first one. -/
theorem startsNone_or_exists (t : Text) : StartsNone t [] ∨
    ∃ front r rest name fallback, t = front ++ r ++ rest ∧ StartsNone front (r ++ rest) ∧
      IsReference r name fallback := by
  induction t with
  | nil => exact .inl (startsNone_nil [])
  | cons c t ih =>
    by_cases hstart : StartsWithReference (c :: t)
    · obtain ⟨r, name, fallback, hr, rest, hsplit⟩ := hstart
      exact .inr ⟨[], r, rest, name, fallback, hsplit.symm, startsNone_nil _, hr⟩
    · rcases ih with hnone | ⟨front, r, rest, name, fallback, rfl, hfront, hr⟩
      · refine .inl (startsNone_cons_iff.mpr ⟨?_, hnone⟩)
        rwa [List.append_nil]
      · refine .inr ⟨c :: front, r, rest, name, fallback, rfl,
          startsNone_cons_iff.mpr ⟨?_, hfront⟩, hr⟩
        rwa [List.cons_append, ← List.append_assoc]

/-! ## Replacing -/

/-- A text with its references replaced. The first reference comes first, and what it is replaced
by is not looked at again. -/
inductive Replaced (environment : Environment) : Text → Text → Prop where
  /-- a text without references stays as it is -/
  | verbatim {t : Text} : StartsNone t [] → Replaced environment t t
  /-- what is before the first reference stays as it is, the reference is replaced by the value of
  the variable, else by the default, and the rest of the text is left to be replaced -/
  | reference {front r rest name fallback replaced : Text} : StartsNone front (r ++ rest) →
    IsReference r name fallback → Replaced environment rest replaced →
    Replaced environment (front ++ r ++ rest)
      (front ++ (environment.lookup name).getD fallback ++ replaced)

section Resolve

variable (environment : Environment)

theorem resolveFrom_length (r rest : Text) :
    resolveFrom environment r.length (r ++ rest) = resolve environment rest := by
  induction r with
  | nil => rfl
  | cons c r ih => exact ih

/-- What no reference starts in stays as it is. -/
theorem resolve_of_startsNone {front rest : Text} (h : StartsNone front rest) :
    resolve environment (front ++ rest) = front ++ resolve environment rest := by
  induction front with
  | nil => rfl
  | cons c front ih =>
    obtain ⟨hfirst, hfront⟩ := startsNone_cons_iff.mp h
    rw [List.cons_append] at hfirst
    rw [resolve, List.cons_append, resolveFrom, atFront?_eq_none_iff.mpr hfirst]
    exact congrArg (List.cons c) (ih hfront)

/-- A reference at the front is replaced, and the scan goes on behind it. -/
theorem resolve_reference {r name fallback : Text} (h : IsReference r name fallback)
    (rest : Text) : resolve environment (r ++ rest) =
      (environment.lookup name).getD fallback ++ resolve environment rest := by
  have hfound : atFront? (r ++ rest) = some ⟨name, fallback, r.length⟩ :=
    atFront?_eq_some_iff.mpr ⟨r, rest, rfl, h, rfl⟩
  obtain ⟨tail, rfl⟩ := h.exists_eq_cons
  rw [resolve, List.cons_append, resolveFrom]
  rw [List.cons_append] at hfound
  rw [hfound, ← resolveFrom_length environment tail rest]
  rfl

/-- **The scanner replaces the references**, from left to right and none twice. -/
theorem resolve_eq_iff {t replaced : Text} :
    resolve environment t = replaced ↔ Replaced environment t replaced := by
  constructor
  · rintro rfl
    induction hlength : t.length using Nat.strongRecOn generalizing t with
    | ind n ih =>
      subst hlength
      rcases startsNone_or_exists t with hnone | ⟨front, r, rest, name, fallback, rfl, hfront, hr⟩
      · have hverbatim := resolve_of_startsNone environment hnone
        rw [List.append_nil] at hverbatim
        have hreplaced : Replaced environment t t := .verbatim hnone
        rw [hverbatim]
        simpa [resolve, resolveFrom] using hreplaced
      · rw [List.append_assoc, resolve_of_startsNone environment hfront,
          resolve_reference environment hr, ← List.append_assoc, ← List.append_assoc]
        refine .reference hfront hr (ih _ ?_ rfl)
        obtain ⟨tail, rfl⟩ := hr.exists_eq_cons
        simp
        omega
  · intro h
    induction h with
    | verbatim hnone =>
      have hverbatim := resolve_of_startsNone environment hnone
      simpa [resolve, resolveFrom] using hverbatim
    | reference hfront hr _ ih =>
      rw [List.append_assoc, resolve_of_startsNone environment hfront,
        resolve_reference environment hr, ih, List.append_assoc]

end Resolve

end Reference

/-! ## Documents -/

namespace Value

mutual

/-- A document with nothing in its texts: what is left is how it is built, its keys, their order,
and all leaves that are no texts. -/
def skeleton : Value → Value
  | .text _ => .text []
  | .list items => .list (skeletonOf items)
  | .mapping entries => .mapping (skeletonIn entries)
  | v => v

/-- The skeletons of several documents. -/
def skeletonOf : List Value → List Value
  | [] => []
  | v :: rest => v.skeleton :: skeletonOf rest

/-- The skeletons of the values of several entries. -/
def skeletonIn : List (Value × Value) → List (Value × Value)
  | [] => []
  | (k, v) :: rest => (k, v.skeleton) :: skeletonIn rest

end

mutual

/-- The texts in a document, its keys apart, in the order in which they stand there. -/
def texts : Value → List Text
  | .text t => [t]
  | .list items => textsOf items
  | .mapping entries => textsIn entries
  | _ => []

/-- The texts in several documents. -/
def textsOf : List Value → List Text
  | [] => []
  | v :: rest => v.texts ++ textsOf rest

/-- The texts in the values of several entries. -/
def textsIn : List (Value × Value) → List Text
  | [] => []
  | (_, v) :: rest => v.texts ++ textsIn rest

end

mutual

/-- Nothing else is in a document than its skeleton and its texts. What stands behind the texts of
the two documents is compared along, so that the parts of a document can be compared one by one. -/
theorem eq_of_skeleton_eq : ∀ {v w : Value} {after after' : List Text},
    v.skeleton = w.skeleton → v.texts ++ after = w.texts ++ after' → v = w ∧ after = after'
  | .text t, w, after, after', hskeleton, htexts => by
    cases w with
    | text u => simpa [texts] using htexts
    | _ => simp [skeleton] at hskeleton
  | .list items, w, after, after', hskeleton, htexts => by
    cases w with
    | list items' =>
      rw [skeleton, skeleton, Value.list.injEq] at hskeleton
      obtain ⟨rfl, hafter⟩ := eq_of_skeletonOf_eq hskeleton htexts
      exact ⟨rfl, hafter⟩
    | _ => simp [skeleton] at hskeleton
  | .mapping entries, w, after, after', hskeleton, htexts => by
    cases w with
    | mapping entries' =>
      rw [skeleton, skeleton, Value.mapping.injEq] at hskeleton
      obtain ⟨rfl, hafter⟩ := eq_of_skeletonIn_eq hskeleton htexts
      exact ⟨rfl, hafter⟩
    | _ => simp [skeleton] at hskeleton
  | .null, w, _, _, hskeleton, htexts | .bool _, w, _, _, hskeleton, htexts
  | .int _, w, _, _, hskeleton, htexts | .float _, w, _, _, hskeleton, htexts
  | .date _, w, _, _, hskeleton, htexts | .dateTime _, w, _, _, hskeleton, htexts
  | .tuple _, w, _, _, hskeleton, htexts => by
    cases w <;> simp_all [skeleton, texts]

theorem eq_of_skeletonOf_eq : ∀ {items items' : List Value} {after after' : List Text},
    skeletonOf items = skeletonOf items' →
    textsOf items ++ after = textsOf items' ++ after' → items = items' ∧ after = after'
  | [], [], _, _, _, htexts => ⟨rfl, htexts⟩
  | [], _ :: _, _, _, hskeleton, _ => nomatch hskeleton
  | _ :: _, [], _, _, hskeleton, _ => nomatch hskeleton
  | v :: rest, w :: rest', after, after', hskeleton, htexts => by
    obtain ⟨hfirst, hrest⟩ := List.cons.inj hskeleton
    rw [textsOf, textsOf, List.append_assoc, List.append_assoc] at htexts
    obtain ⟨rfl, hbehind⟩ := eq_of_skeleton_eq hfirst htexts
    obtain ⟨rfl, hafter⟩ := eq_of_skeletonOf_eq hrest hbehind
    exact ⟨rfl, hafter⟩

theorem eq_of_skeletonIn_eq : ∀ {entries entries' : Entries} {after after' : List Text},
    skeletonIn entries = skeletonIn entries' →
    textsIn entries ++ after = textsIn entries' ++ after' → entries = entries' ∧ after = after'
  | [], [], _, _, _, htexts => ⟨rfl, htexts⟩
  | [], _ :: _, _, _, hskeleton, _ => nomatch hskeleton
  | _ :: _, [], _, _, hskeleton, _ => nomatch hskeleton
  | (k, v) :: rest, (l, w) :: rest', after, after', hskeleton, htexts => by
    obtain ⟨hfirst, hrest⟩ := List.cons.inj hskeleton
    obtain ⟨rfl, hvalue⟩ := Prod.mk.inj hfirst
    rw [textsIn, textsIn, List.append_assoc, List.append_assoc] at htexts
    obtain ⟨rfl, hbehind⟩ := eq_of_skeleton_eq hvalue htexts
    obtain ⟨rfl, hafter⟩ := eq_of_skeletonIn_eq hrest hbehind
    exact ⟨rfl, hafter⟩

end

end Value

namespace Reference

section Expand

variable (environment : Environment)

mutual

theorem skeleton_expand : ∀ v : Value, (expand environment v).skeleton = v.skeleton
  | .text _ => rfl
  | .list items => by rw [expand, Value.skeleton, Value.skeleton, skeletonOf_expandAll items]
  | .mapping entries => by
    rw [expand, Value.skeleton, Value.skeleton, skeletonIn_expandEntries entries]
  | .null | .bool _ | .int _ | .float _ | .date _ | .dateTime _ | .tuple _ => by simp only [expand]

theorem skeletonOf_expandAll : ∀ items : List Value,
    Value.skeletonOf (expandAll environment items) = Value.skeletonOf items
  | [] => rfl
  | v :: rest => by
    rw [expandAll, Value.skeletonOf, Value.skeletonOf, skeleton_expand v, skeletonOf_expandAll rest]

theorem skeletonIn_expandEntries : ∀ entries : Entries,
    Value.skeletonIn (expandEntries environment entries) = Value.skeletonIn entries
  | [] => rfl
  | (k, v) :: rest => by
    rw [expandEntries, Value.skeletonIn, Value.skeletonIn, skeleton_expand v,
      skeletonIn_expandEntries rest]

end

mutual

theorem texts_expand : ∀ v : Value,
    (expand environment v).texts = v.texts.map (resolve environment)
  | .text _ => rfl
  | .list items => by rw [expand, Value.texts, Value.texts, textsOf_expandAll items]
  | .mapping entries => by rw [expand, Value.texts, Value.texts, textsIn_expandEntries entries]
  | .null | .bool _ | .int _ | .float _ | .date _ | .dateTime _ | .tuple _ => by
    simp only [expand, Value.texts, List.map_nil]

theorem textsOf_expandAll : ∀ items : List Value,
    Value.textsOf (expandAll environment items) =
      (Value.textsOf items).map (resolve environment)
  | [] => rfl
  | v :: rest => by
    rw [expandAll, Value.textsOf, Value.textsOf, List.map_append, texts_expand v,
      textsOf_expandAll rest]

theorem textsIn_expandEntries : ∀ entries : Entries,
    Value.textsIn (expandEntries environment entries) =
      (Value.textsIn entries).map (resolve environment)
  | [] => rfl
  | (k, v) :: rest => by
    rw [expandEntries, Value.textsIn, Value.textsIn, List.map_append, texts_expand v,
      textsIn_expandEntries rest]

end

/-- **Expanding a document replaces the references in its texts**, and changes nothing else. -/
theorem expand_eq_iff {v w : Value} : expand environment v = w ↔
    w.skeleton = v.skeleton ∧ w.texts = v.texts.map (resolve environment) := by
  constructor
  · rintro rfl
    exact ⟨skeleton_expand environment v, texts_expand environment v⟩
  · rintro ⟨hskeleton, htexts⟩
    have hbuilt := (skeleton_expand environment v).trans hskeleton.symm
    have hfilled := (texts_expand environment v).trans htexts.symm
    have htold : (expand environment v).texts ++ [] = w.texts ++ [] := by rw [hfilled]
    exact (Value.eq_of_skeleton_eq hbuilt htold).1

end Expand

/-- **Replacing references.**

* A text becomes what its references, from the first one on, make of it.
* What is before a reference stays as it is if it holds no dollar sign, the reference becomes the
  value of its variable, else its default, and the rest of the text becomes what it would alone.
* A document becomes the one that has the same skeleton and these texts. -/
theorem resolve_replaces (environment : Environment) :
    (∀ t replaced, resolve environment t = replaced ↔ Replaced environment t replaced) ∧
    (∀ front r rest name fallback, ('$' : CodePoint) ∉ front → IsReference r name fallback →
      resolve environment (front ++ r ++ rest) =
        front ++ (environment.lookup name).getD fallback ++ resolve environment rest) ∧
    ∀ v w, expand environment v = w ↔
      w.skeleton = v.skeleton ∧ w.texts = v.texts.map (resolve environment) := by
  refine ⟨fun t replaced => resolve_eq_iff environment, ?_, fun v w => expand_eq_iff environment⟩
  intro front r rest name fallback hfront hr
  rw [List.append_assoc, resolve_of_startsNone environment (startsNone_of_notMem hfront _),
    resolve_reference environment hr, List.append_assoc]

/-- The value of a variable looks like a reference and stays; the default of the second reference
counts, and the third has none. -/
theorem resolve_replaces_unscanned :
    let environment : Environment := [("A", "$\x7bB\x7d"), ("B", "b")]
    ('$' : CodePoint) ∉ ("k=" : Text) ∧ IsReference "$\x7bA:-d\x7d" "A" "d" ∧
      resolve environment ("k=" ++ "$\x7bA:-d\x7d" ++ "/$\x7bC:-$\x7b\x7d\x7d$\x7bC\x7d$") =
        "k=$\x7bB\x7d/$\x7b\x7d$" := by
  intro environment
  have hfront : ('$' : CodePoint) ∉ ("k=" : Text) := by decide
  have hname : IsName "A" := ⟨'A', [], rfl, by decide, List.forall_mem_nil _⟩
  have hfallback : (0x7D : CodePoint) ∉ ("d" : Text) := by decide
  have hr : IsReference "$\x7bA:-d\x7d" "A" "d" := .withDefault hname hfallback
  refine ⟨hfront, hr, ?_⟩
  rw [(resolve_replaces environment).2.1 _ _ _ _ _ hfront hr]
  decide

end Reference

end ProfileFilter
