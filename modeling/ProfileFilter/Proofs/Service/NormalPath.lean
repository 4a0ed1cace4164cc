import ProfileFilter.Proofs.Service.RequestPath

/-!
# Paths in normal form

What escaping and the resolution of dot segments do to a path. The characters that escapes are
written with may stand for themselves, so escaping works on each code point apart
(`escapePart_eq_flatMap`), and what is escaped stays as it is when it is escaped again. Slashes and
dots stand for themselves too, and nothing else is escaped with them, so a path may be escaped
before or after its dot segments are resolved (`resolveDots_escapePart`); and a path that has none
stays as it is (`NoDots.resolveDots_eq`).
-/

namespace ProfileFilter

namespace Url

/-! ## Escapes -/

/-- The characters that escapes are written with. -/
def escapeCharacters : Text := "%0123456789ABCDEFabcdef"

/-- All characters that escapes are written with may stand for themselves. -/
def KeepsEscapes (literal : CodePoint → Bool) : Prop :=
  ∀ c ∈ escapeCharacters, literal c = true

theorem keepsEscapes_of_all {literal : CodePoint → Bool}
    (h : escapeCharacters.all literal = true) : KeepsEscapes literal :=
  fun c hc => List.all_eq_true.mp h c hc

theorem keepsEscapes_path : KeepsEscapes (isLiteral pathEscapes) := keepsEscapes_of_all (by decide)

theorem keepsEscapes_query : KeepsEscapes (isLiteral queryEscapes) :=
  keepsEscapes_of_all (by decide)

theorem keepsEscapes_userinfo : KeepsEscapes (isLiteral userinfoEscapes) :=
  keepsEscapes_of_all (by decide)

theorem keepsEscapes_host : KeepsEscapes isHostLiteral := keepsEscapes_of_all (by decide)

/-- Hexadecimal digits are below U+0080, so they can be gone through. -/
theorem mem_escapeCharacters_of_hexValue? {c : CodePoint} (h : c.hexValue?.isSome = true) :
    c ∈ escapeCharacters := by
  have htable : ∀ n < 0x80, (CodePoint.hexValue? (Fin.ofNat _ n)).isSome = true →
      escapeCharacters.contains (Fin.ofNat _ n) = true := by
    decide +kernel
  have hlow : c.val < 0x80 := by
    simp only [CodePoint.hexValue?, CodePoint.isAsciiDigit, Bool.and_eq_true,
      decide_eq_true_eq] at h
    split_ifs at h <;> first | omega | cases h
  have hc := htable c.val hlow
  rw [Fin.ofNat_val_eq_self] at hc
  exact List.contains_iff_mem.mp (hc h)

theorem mem_escapeCharacters_hexDigit {n : Nat} (h : n < 16) :
    CodePoint.hexDigit n ∈ escapeCharacters := by
  have htable : ∀ n < 16, escapeCharacters.contains (CodePoint.hexDigit n) = true := by decide
  exact List.contains_iff_mem.mp (htable n h)

section Escaping

variable {literal : CodePoint → Bool} {c d : CodePoint} {t u : Text}

/-- A code point stands for itself or is written as an escape. -/
theorem escapeOne_cases (literal : CodePoint → Bool) (c : CodePoint) :
    literal c = true ∧ escapePart.escapeOne literal c = [c] ∨
      ∃ rest, escapePart.escapeOne literal c = ('%' : CodePoint) :: rest ∧
        ∀ d ∈ rest, d ∈ escapeCharacters := by
  have hescape : ∀ b : UInt8, ∀ d ∈ Percent.escapeByte b, d ∈ escapeCharacters := by
    intro b d hd
    have hlt := b.toNat_lt
    simp only [Percent.escapeByte, List.mem_cons, List.not_mem_nil, or_false] at hd
    rcases hd with rfl | rfl | rfl
    · decide
    · exact mem_escapeCharacters_hexDigit (by omega)
    · exact mem_escapeCharacters_hexDigit (by omega)
  unfold escapePart.escapeOne
  split
  next h => exact .inl ⟨h, rfl⟩
  · obtain ⟨b, bytes, hbytes⟩ : ∃ b bytes, Utf8.encodeCodePoint c = b :: bytes := by
      simp only [Utf8.encodeCodePoint]
      split_ifs <;> exact ⟨_, _, rfl⟩
    have hall : ∀ d ∈ (b :: bytes).flatMap Percent.escapeByte, d ∈ escapeCharacters := by
      intro d hd
      obtain ⟨byte, -, hd⟩ := List.mem_flatMap.mp hd
      exact hescape byte d hd
    rw [hbytes]
    exact .inr ⟨_, rfl, (List.forall_mem_cons.mp hall).2⟩

/-- Escaping works on each code point apart. -/
theorem escapePart_eq_flatMap (h : KeepsEscapes literal) (t : Text) :
    escapePart literal t = t.flatMap (escapePart.escapeOne literal) := by
  have hkeep : ∀ c ∈ escapeCharacters, escapePart.escapeOne literal c = [c] :=
    fun c hc => if_pos (h c hc)
  induction t using escapePart.induct with
  | case1 => rfl
  | case2 p a b rest hescape ih =>
    simp only [Bool.and_eq_true, beq_iff_eq] at hescape
    obtain ⟨⟨rfl, ha⟩, hb⟩ := hescape
    rw [escapePart, if_pos (by simp [ha, hb]), ih]
    simp only [List.flatMap_cons, hkeep _ (mem_escapeCharacters_of_hexValue? ha),
      hkeep _ (mem_escapeCharacters_of_hexValue? hb), hkeep '%' (by decide)]
    rfl
  | case3 p a b rest hplain ih =>
    rw [escapePart, if_neg hplain, ih]
    rfl
  | case4 p rest hshort ih =>
    rw [escapePart, ih, List.flatMap_cons]
    exact hshort

/-- What an escape is written with may stand for itself. -/
theorem literal_of_mem_escapeOne (h : KeepsEscapes literal)
    (hd : d ∈ escapePart.escapeOne literal c) : literal d = true := by
  rcases escapeOne_cases literal c with ⟨hc, hone⟩ | ⟨rest, hone, hrest⟩
  · rw [hone] at hd
    rwa [List.mem_singleton.mp hd]
  · rw [hone] at hd
    rcases List.mem_cons.mp hd with rfl | hd
    · exact h _ (by decide)
    · exact h d (hrest d hd)

theorem literal_of_mem_escapePart (h : KeepsEscapes literal) :
    ∀ c ∈ escapePart literal t, literal c = true := by
  intro c hc
  rw [escapePart_eq_flatMap h] at hc
  obtain ⟨d, -, hd⟩ := List.mem_flatMap.mp hc
  exact literal_of_mem_escapeOne h hd

/-- What is escaped is not escaped again. -/
theorem escapePart_escapePart (h : KeepsEscapes literal) :
    escapePart literal (escapePart literal t) = escapePart literal t :=
  escapePart_of_forall (literal_of_mem_escapePart h)

theorem escapePart_append (h : KeepsEscapes literal) (t u : Text) :
    escapePart literal (t ++ u) = escapePart literal t ++ escapePart literal u := by
  simp only [escapePart_eq_flatMap h, List.flatMap_append]

/-- A text without a percent sign is the escaped form of itself only. -/
theorem escapePart_eq_iff (h : KeepsEscapes literal)
    (hu : ∀ c ∈ u, literal c = true ∧ c ≠ ('%' : CodePoint)) : escapePart literal t = u ↔ t = u := by
  constructor
  · intro heq
    rw [escapePart_eq_flatMap h] at heq
    induction t generalizing u with
    | nil => exact heq
    | cons c rest ih =>
      rw [List.flatMap_cons] at heq
      rcases escapeOne_cases literal c with ⟨-, hone⟩ | ⟨others, hone, -⟩
      · rw [hone, List.singleton_append] at heq
        rw [← heq] at hu ⊢
        exact congrArg (List.cons c) (ih (List.forall_mem_cons.mp hu).2 rfl)
      · rw [hone, List.cons_append] at heq
        rw [← heq] at hu
        exact absurd rfl (List.forall_mem_cons.mp hu).1.2
  · rintro rfl
    exact escapePart_of_forall fun c hc => (hu c hc).1

theorem escapePart_eq_nil_iff (h : KeepsEscapes literal) : escapePart literal t = [] ↔ t = [] :=
  escapePart_eq_iff h fun _ hc => absurd hc List.not_mem_nil

end Escaping

/-! ## Dot segments -/

/-- No segment of the path is a dot segment. -/
def NoDots (path : Text) : Prop :=
  ∀ segment ∈ path.splitOn '/', segment ≠ ("." : Text) ∧ segment ≠ ("..": Text)

section Segments

variable {path : Text} {segment : Text} {done segments : List Text}

theorem resolveSegments_of_forall
    (h : ∀ segment ∈ segments, segment ≠ ("." : Text) ∧ segment ≠ ("..": Text)) :
    resolveSegments done segments = done.reverse ++ segments := by
  induction segments generalizing done with
  | nil => exact (List.append_nil _).symm
  | cons first rest ih =>
    obtain ⟨⟨hdot, hdots⟩, hrest⟩ := List.forall_mem_cons.mp h
    rw [resolveSegments, if_neg (by simpa using hdot), if_neg (by simpa using hdots), ih hrest,
      List.reverse_cons, List.append_assoc, List.singleton_append]

/-- Dot segments are not kept. -/
theorem of_mem_resolveSegments (h : segment ∈ resolveSegments done segments) :
    segment ∈ done ∨
      segment ∈ segments ∧ segment ≠ ("." : Text) ∧ segment ≠ ("..": Text) := by
  induction segments generalizing done with
  | nil => exact .inl (List.mem_reverse.mp h)
  | cons first rest ih =>
    have hlater : segment ∈ rest ∧ segment ≠ ("." : Text) ∧ segment ≠ ("..": Text) →
        segment ∈ first :: rest ∧ segment ≠ ("." : Text) ∧ segment ≠ ("..": Text) :=
      And.imp_left (List.mem_cons_of_mem first)
    rw [resolveSegments] at h
    split_ifs at h with hdot hdots hroot
    · exact (ih h).imp_right hlater
    · exact (ih h).imp_right hlater
    · exact (ih h).imp List.mem_of_mem_drop hlater
    · rcases ih h with hdone | hrest
      · rcases List.mem_cons.mp hdone with rfl | hdone
        · exact .inr ⟨List.mem_cons_self, by simpa using hdot, by simpa using hdots⟩
        · exact .inl hdone
      · exact .inr (hlater hrest)

theorem NoDots.resolveDots_eq (h : NoDots path) : resolveDots path = path := by
  rw [resolveDots, resolveSegments_of_forall h]
  exact path.join_splitOn '/'

theorem noDots_resolveDots (path : Text) : NoDots (resolveDots path) := by
  intro segment hsegment
  have hkept : ∀ segment ∈ resolveSegments [] (path.splitOn '/'),
      ('/' : CodePoint) ∉ segment ∧ segment ≠ ("." : Text) ∧ segment ≠ ("..": Text) := by
    intro segment hmem
    rcases of_mem_resolveSegments hmem with hnil | ⟨hsegment, hdots⟩
    · exact absurd hnil List.not_mem_nil
    · exact ⟨Text.notMem_of_mem_splitOn hsegment, hdots⟩
  rcases eq_or_ne (resolveSegments [] (path.splitOn '/')) [] with hnil | hne
  · rw [resolveDots, hnil] at hsegment
    rw [List.mem_singleton.mp hsegment]
    exact ⟨by decide, by decide⟩
  · have hpieces : (resolveDots path).splitOn '/' = resolveSegments [] (path.splitOn '/') :=
      Text.splitOn_join hne fun segment hmem => (hkept segment hmem).1
    rw [hpieces] at hsegment
    exact (hkept segment hsegment).2

/-- A slash at the end opens an empty segment. -/
theorem NoDots.append_slash (h : NoDots path) : NoDots (path ++ ("/" : Text)) := by
  intro segment hsegment
  have hsplit : Text.splitOn '/' (path ++ ("/" : Text)) = path.splitOn '/' ++ [[]] :=
    Text.splitOn_append '/' path []
  rw [hsplit, List.mem_append, List.mem_singleton] at hsegment
  rcases hsegment with hsegment | rfl
  · exact h segment hsegment
  · exact ⟨by decide, by decide⟩

/-- Segments written in another way are resolved alike if only dot segments and the empty one are
written like these. -/
theorem resolveSegments_map {f : Text → Text} (hnil : ∀ s, f s = [] ↔ s = [])
    (hdot : ∀ s, f s = ("." : Text) ↔ s = ("." : Text))
    (hdots : ∀ s, f s = (".." : Text) ↔ s = (".." : Text)) :
    resolveSegments (done.map f) (segments.map f) = (resolveSegments done segments).map f := by
  have hroot : ∀ done : List Text, (done.map f == [[]]) = (done == [[]]) := by
    intro done
    rw [Bool.eq_iff_iff, beq_iff_eq, beq_iff_eq]
    cases done with
    | nil => simp
    | cons first rest => simp [hnil]
  induction segments generalizing done with
  | nil => exact (List.map_reverse (f := f)).symm
  | cons first rest ih =>
    have hfirst : (f first == ("." : Text)) = (first == ("." : Text)) := by
      rw [Bool.eq_iff_iff, beq_iff_eq, beq_iff_eq, hdot]
    have hsecond : (f first == (".." : Text)) = (first == (".." : Text)) := by
      rw [Bool.eq_iff_iff, beq_iff_eq, beq_iff_eq, hdots]
    rw [List.map_cons, resolveSegments, resolveSegments, hfirst, hsecond, hroot]
    split_ifs
    · exact ih
    · exact ih
    · rw [← List.map_drop]
      exact ih
    · rw [← List.map_cons]
      exact ih

end Segments

section Both

variable {literal : CodePoint → Bool} (h : KeepsEscapes literal) (hslash : literal '/' = true)

include h hslash

theorem splitOn_escapePart (path : Text) :
    Text.splitOn '/' (escapePart literal path) =
      (path.splitOn '/').map (escapePart literal) := by
  have hothers : ∀ c, c ≠ ('/' : CodePoint) →
      ('/' : CodePoint) ∉ escapePart.escapeOne literal c := by
    intro c hc hmem
    rcases escapeOne_cases literal c with ⟨-, hone⟩ | ⟨rest, hone, hrest⟩
    · rw [hone, List.mem_singleton] at hmem
      exact hc hmem.symm
    · rw [hone, List.mem_cons] at hmem
      rcases hmem with hmem | hmem
      · exact absurd hmem (by decide)
      · exact absurd (hrest _ hmem) (by decide)
  rw [funext (escapePart_eq_flatMap h)]
  exact Text.splitOn_flatMap (if_pos hslash) hothers path

theorem join_escapePart (segments : List Text) :
    Text.join "/" (segments.map (escapePart literal)) =
      escapePart literal (Text.join "/" segments) := by
  rw [funext (escapePart_eq_flatMap h)]
  exact Text.join_map_flatMap (if_pos hslash) segments

/-- **A path may be escaped before or after its dot segments are resolved.** -/
theorem resolveDots_escapePart (hdot : literal '.' = true) (path : Text) :
    resolveDots (escapePart literal path) = escapePart literal (resolveDots path) := by
  have hplain : ∀ c ∈ (".." : Text), literal c = true ∧ c ≠ ('%' : CodePoint) := by
    intro c hc
    have hc : c = ('.' : CodePoint) := List.eq_of_mem_replicate (n := 2) hc
    rw [hc]
    exact ⟨hdot, by decide⟩
  have hresolved : resolveSegments [] ((path.splitOn '/').map (escapePart literal)) =
      (resolveSegments [] (path.splitOn '/')).map (escapePart literal) :=
    @resolveSegments_map [] _ (escapePart literal) (fun _ => escapePart_eq_nil_iff h)
      (fun _ => escapePart_eq_iff h fun c hc => hplain c (List.mem_cons_of_mem _ hc))
      fun _ => escapePart_eq_iff h hplain
  rw [resolveDots, splitOn_escapePart h hslash, hresolved, join_escapePart h hslash, resolveDots]

theorem NoDots.escapePart (hdot : literal '.' = true) {path : Text} (hpath : NoDots path) :
    NoDots (escapePart literal path) := by
  rw [← hpath.resolveDots_eq, ← resolveDots_escapePart h hslash hdot]
  exact noDots_resolveDots _

end Both

end Url

end ProfileFilter
