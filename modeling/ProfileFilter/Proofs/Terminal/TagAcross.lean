import ProfileFilter.Proofs.Terminal.Escaping

/-!
# Tags across two texts

A text is escaped on its own. If it leaves a bracket open, and the next text closes it, the two
make a tag that neither holds (`tagAcross?`). The inside of the tag is not shown; and if it closes a
style where none is open, nothing is.

Main statement: `read?_two`, on two escaped texts with an empty line between them.
-/

namespace ProfileFilter

namespace Markup

/-! ## Tags across two texts -/

/-- The text in front of the first bracket. -/
def front (t : Text) : Text := t.takeWhile isInside

/-- The text behind the first bracket. -/
def behind : Text → Text
  | [] => []
  | c :: rest => if isInside c then behind rest else rest

/-- Splits a text at a bracket that it leaves open, and from which what follows may make a tag;
`pending` backslashes came just before. An odd number of them before the bracket prevents it. -/
def open? : (pending : Nat) → Text → Option (Text × Text)
  | _, [] => none
  | pending, c :: rest =>
    if c == '[' && leavesOpen rest then if pending % 2 == 0 then some ([], rest) else none
    else (open? (if c == 0x5C then pending + 1 else 0) rest).map fun parts => (c :: parts.1, parts.2)

/-- A tag that two texts make. -/
structure TagAcross where
  /-- what stands before it, in the first text -/
  before : Text
  /-- the start of its inside, in the first text -/
  inside : Text
  /-- what stands behind it, in the second text -/
  behind : Text
deriving DecidableEq, Repr

/-- The tag that two escaped texts make, if the second closes a bracket that the first leaves
open. -/
def tagAcross? (t u : Text) : Option TagAcross :=
  if closes u then (open? 0 t).map fun parts => ⟨parts.1, parts.2, behind u⟩ else none

/-- Can the texts be shown where no style is open? The tag must not close one, and what stands
around it must not hold a lone surrogate. -/
def TagAcross.isShown (tag : TagAcross) : Bool :=
  tag.inside.head? != some ('/' : CodePoint) && (tag.before.isEncodable && tag.behind.isEncodable)

/-! ## Reading -/

/-- Can what is shown from a place on be encoded? Nothing if it is no markup. -/
def read? (styles : List Text) (pending pass : Nat) (t : Text) : Option Bool :=
  (plainFrom? styles pending pass t).map Text.isEncodable

section Steps

variable {styles : List Text} {pending : Nat} {c : CodePoint} {rest tail : Text}

theorem read?_map {f : Text → Text} {b : Bool} (h : ∀ s, (f s).isEncodable = (b && s.isEncodable))
    (o : Option Text) :
    (o.map f).map Text.isEncodable = (o.map Text.isEncodable).map (b && ·) := by
  rw [Option.map_map, Option.map_map]
  exact congrArg (Option.map · o) (funext h)

theorem map_true_and (o : Option Bool) : o.map (true && ·) = o := by
  cases o <;> rfl

theorem read?_backslashes (styles : List Text) (pending n : Nat) (t : Text) :
    read? styles pending 0 (backslashes n ++ t) = read? styles (pending + n) 0 t := by
  rw [read?, plainFrom?_backslashes, read?]

theorem read?_nil : read? styles pending 0 [] = some true := by
  rw [read?, plainFrom?, Option.map_some, isEncodable_backslashes]

/-- A bracket behind an odd number of backslashes, or one that opens no tag, is shown. -/
theorem read?_bracket (h : (tag? rest).isSome = false ∨ pending % 2 = 1) :
    read? styles pending 0 (('[' : CodePoint) :: rest) = read? styles 0 0 rest := by
  have hshown : ∀ n : Nat, ∀ s : Text,
      Text.isEncodable (backslashes n ++ ('[' : CodePoint) :: s) = (true && s.isEncodable) := by
    intro n s
    rw [Text.isEncodable_append, isEncodable_backslashes]
    rfl
  cases htag : (tag? rest).isSome with
  | false => rw [read?, plainFrom?_bracket htag, read?_map (hshown _), map_true_and, read?]
  | true =>
    obtain ⟨half, rfl⟩ : ∃ half, pending = 2 * half + 1 := by
      rcases h with h | h
      · rw [htag] at h
        cases h
      · exact ⟨pending / 2, by omega⟩
    rw [read?, plainFrom?_tag htag, read?_map (hshown _), map_true_and, read?]

theorem read?_other (hbackslash : c ≠ 0x5C) (hopen : c ≠ '[') :
    read? styles pending 0 (c :: rest) = (read? styles 0 0 rest).map (!c.isSurrogate && ·) := by
  rw [read?, plainFrom?_other hbackslash hopen, read?]
  refine read?_map (fun s => ?_) _
  rw [Text.isEncodable_append, isEncodable_backslashes, Bool.true_and]
  split_ifs with hdropped
  · have hc : c.isSurrogate = false := by
      by_contra hc
      have hsolid := isSolid_of_isSurrogate (eq_true_of_ne_false hc)
      rw [isSolid, hdropped, Bool.not_true, Bool.and_false] at hsolid
      cases hsolid
    rw [hc, Bool.not_false, Bool.true_and]
  · exact Text.isEncodable_cons c s

/-- A tag behind an even number of backslashes opens or closes a style. -/
theorem read?_enter {inside : Text} (hpending : pending % 2 = 0)
    (htag : tag? (inside ++ ((']' : CodePoint) :: tail)) = some inside) :
    read? styles pending 0 (('[' : CodePoint) :: (inside ++ ((']' : CodePoint) :: tail))) =
      (enter? inside styles).bind fun styles => read? styles 0 0 tail := by
  rw [read?, plainFrom?_enter hpending htag]
  cases enter? inside styles with
  | none => rfl
  | some opened =>
    refine (read?_map (b := true) (fun s => ?_) _).trans (map_true_and _)
    rw [Text.isEncodable_append, isEncodable_backslashes]

end Steps

/-! ## Insides -/

section Insides

variable {c : CodePoint} {t rest tail : Text}

theorem front_cons (h : isInside c = true) (t : Text) : front (c :: t) = c :: front t :=
  List.takeWhile_cons_of_pos h

theorem behind_cons (h : isInside c = true) (t : Text) : behind (c :: t) = behind t := by
  rw [behind, if_pos h]

theorem front_append (h : t.all isInside = true) (tail : Text) :
    front (t ++ tail) = t ++ front tail :=
  List.takeWhile_append_of_pos (List.all_eq_true.mp h)

theorem behind_append (h : t.all isInside = true) (tail : Text) :
    behind (t ++ tail) = behind tail := by
  induction t with
  | nil => rfl
  | cons c rest ih =>
    rw [List.all_cons, Bool.and_eq_true] at h
    rw [List.cons_append, behind_cons h.1, ih h.2]

theorem closes_cons (h : isInside c = true) (t : Text) : closes (c :: t) = closes t := by
  obtain ⟨hopen, hclose⟩ := Bool.and_eq_true_iff.mp h
  rw [closes, hopen, beq_eq_false_iff_ne.mpr (bne_iff_ne.mp hclose), Bool.true_and, Bool.false_or]

theorem closes_append (h : t.all isInside = true) (tail : Text) :
    closes (t ++ tail) = closes tail := by
  induction t with
  | nil => rfl
  | cons c rest ih =>
    rw [List.all_cons, Bool.and_eq_true] at h
    rw [List.cons_append, closes_cons h.1, ih h.2]

/-- A text that closes a bracket is what stands in front of that, and what stands behind it. -/
theorem eq_of_closes (h : closes t = true) : t = front t ++ ((']' : CodePoint) :: behind t) := by
  induction t with
  | nil => cases h
  | cons c rest ih =>
    rw [closes, Bool.and_eq_true, Bool.or_eq_true, beq_iff_eq] at h
    obtain ⟨hopen, rfl | hrest⟩ := h
    · rfl
    · by_cases hclose : c = ']'
      · subst hclose
        rfl
      · have hc : isInside c = true := by
          rw [isInside, hopen, bne_iff_ne.mpr hclose]
          rfl
        rw [front_cons hc, behind_cons hc, List.cons_append, ← ih hrest]

theorem all_front (t : Text) : (front t).all isInside = true :=
  List.all_takeWhile

/-- What follows an open bracket is a tag if it closes the bracket. -/
theorem tag?_of_closes (hstart : t.head?.any startsTag = true) (hclose : closes t = true) :
    tag? t = some (front t) := by
  cases t with
  | nil => cases hstart
  | cons c rest =>
    have hstart : startsTag c = true := hstart
    have hc := isInside_of_startsTag hstart
    have hsome := isSome_tag?_cons c rest
    rw [hstart, ← closes_cons hc, hclose] at hsome
    rw [tag?] at hsome ⊢
    split_ifs at hsome ⊢
    · rw [front_cons hc]
      rfl
    · cases hsome

end Insides

/-! ## Escaped texts -/

section Escaped

variable {t rest tail : Text}

/-- A text without brackets is written as it is. -/
theorem escapeTags_of_all (h : t.all isInside = true) : escapeTags 0 t = t := by
  refine (escapeTags_eq_iff 0 t).mpr ?_
  induction t with
  | nil => rfl
  | cons c rest ih =>
    rw [List.all_cons, Bool.and_eq_true, isInside, Bool.and_eq_true, bne_iff_ne] at h
    rw [hasTag, ih h.2, beq_eq_false_iff_ne.mpr h.1.1]
    rfl

theorem open?_of_leavesOpen (h : leavesOpen rest = true) (pending : Nat) :
    open? pending (('[' : CodePoint) :: rest) =
      if pending % 2 == 0 then some ([], rest) else none := by
  rw [open?, if_pos (by rw [h]; rfl)]

theorem open?_cons {c : CodePoint} (h : c ≠ '[' ∨ leavesOpen rest = false) (pending : Nat) :
    open? pending (c :: rest) = (open? (if c == 0x5C then pending + 1 else 0) rest).map
      fun parts => (c :: parts.1, parts.2) := by
  have hskip : ¬ (c == '[' && leavesOpen rest) = true := by
    rw [Bool.and_eq_true, beq_iff_eq]
    rintro ⟨hopen, hleaves⟩
    rcases h with h | h
    · exact h hopen
    · exact absurd hleaves (Bool.eq_false_iff.mp h)
  rw [open?, if_neg hskip]

theorem open?_of_all (h : t.all isInside = true) (pending : Nat) : open? pending t = none := by
  induction t generalizing pending with
  | nil => rfl
  | cons c rest ih =>
    rw [List.all_cons, Bool.and_eq_true, isInside, Bool.and_eq_true, bne_iff_ne] at h
    rw [open?_cons (.inl h.1.1), ih h.2]
    rfl

/-- What is read of an escaped text and of what follows it, in terms of the bracket the text leaves
open. -/
def readAcross? (styles : List Text) (pending : Nat) (t tail : Text) :
    Option (Text × Text) → Option Bool
  | none => (read? styles (trailing pending t) 0 tail).map (t.isEncodable && ·)
  | some (before, inside) =>
    ((enter? (inside ++ front tail) styles).bind fun styles => read? styles 0 0 (behind tail)).map
      (before.isEncodable && ·)

theorem readAcross?_cons {c : CodePoint} (styles : List Text) (pending : Nat) (t tail : Text)
    (o : Option (Text × Text)) :
    readAcross? styles pending (c :: t) tail (o.map fun parts => (c :: parts.1, parts.2)) =
      (readAcross? styles (if c == 0x5C then pending + 1 else 0) t tail o).map
        (!c.isSurrogate && ·) := by
  cases o with
  | none =>
    rw [Option.map_none, readAcross?, readAcross?, Option.map_map, trailing, Text.isEncodable_cons]
    split_ifs <;>
    refine congrArg (Option.map · _) (funext fun b => ?_) <;>
    exact Bool.and_assoc ..
  | some parts =>
    rw [Option.map_some, readAcross?, readAcross?, Option.map_map, Text.isEncodable_cons]
    refine congrArg (Option.map · _) (funext fun b => ?_)
    exact Bool.and_assoc ..

/-- A bracket that a text leaves open and the next text closes makes a tag. -/
theorem read?_across (hleaves : leavesOpen rest = true) (hclose : closes tail = true)
    {pending : Nat} (hpending : pending % 2 = 0) (styles : List Text) :
    read? styles pending 0 (('[' : CodePoint) :: (rest ++ tail)) =
      (enter? (rest ++ front tail) styles).bind fun styles => read? styles 0 0 (behind tail) := by
  obtain ⟨hhead, hall⟩ := Bool.and_eq_true_iff.mp hleaves
  have hnext : (rest ++ tail).head?.any startsTag = true := by
    cases rest with
    | nil => cases hhead
    | cons c rest => exact hhead
  have htag : tag? (rest ++ tail) = some (rest ++ front tail) := by
    rw [tag?_of_closes hnext ((closes_append hall tail).trans hclose), front_append hall]
  have hsplit : rest ++ tail = (rest ++ front tail) ++ ((']' : CodePoint) :: behind tail) := by
    rw [List.append_assoc, ← eq_of_closes hclose]
  rw [hsplit] at htag ⊢
  exact read?_enter hpending htag

section Bracket

variable {styles : List Text} (pending : Nat)
  (hrest : read? styles 0 0 (escapeTags 0 rest ++ tail) =
    readAcross? styles 0 rest tail (open? 0 rest))
include hrest

/-- A bracket that is left open makes a tag, unless an odd number of backslashes stands before it. -/
theorem read?_escapeTags_leavesOpen (hclose : closes tail = true) (hleaves : leavesOpen rest = true) :
    read? styles 0 0 (escapeTags pending (('[' : CodePoint) :: rest) ++ tail) =
      readAcross? styles pending (('[' : CodePoint) :: rest) tail
        (open? pending (('[' : CodePoint) :: rest)) := by
  have hall := (Bool.and_eq_true_iff.mp hleaves).2
  have htag : (tag? rest).isSome = false := by
    refine isSome_tag?_of_closes ?_
    have hshut := closes_append hall []
    rwa [List.append_nil] at hshut
  rw [open?_of_leavesOpen hleaves, escapeTags_bracket htag, escapeTags_of_all hall,
    List.append_assoc, read?_backslashes, Nat.zero_add, List.cons_append]
  by_cases hparity : pending % 2 = 0
  · rw [read?_across hleaves hclose hparity, if_pos (by rw [hparity]; rfl)]
    exact (map_true_and _).symm
  · rw [escapeTags_of_all hall, open?_of_all hall] at hrest
    rw [read?_bracket (.inr (by omega)), if_neg (by rwa [beq_iff_eq]), hrest]
    exact ((readAcross?_cons (c := '[') styles pending rest tail none).trans (map_true_and _)).symm

/-- Any other bracket is shown: if it opens a tag it is escaped, and else what follows cannot make
one of it. -/
theorem read?_escapeTags_bracket (hstart : tail.head?.any startsTag = false)
    (hleaves : leavesOpen rest = false) :
    read? styles 0 0 (escapeTags pending (('[' : CodePoint) :: rest) ++ tail) =
      readAcross? styles pending (('[' : CodePoint) :: rest) tail
        (open? pending (('[' : CodePoint) :: rest)) := by
  have hsame : (tag? (escapeTags 0 rest ++ tail)).isSome = (tag? rest).isSome :=
    isSome_tag?_escapeTags (.inr ⟨hleaves, hstart⟩)
  have hshown : read? styles 0 0 (escapeTags pending (('[' : CodePoint) :: rest) ++ tail) =
      read? styles 0 0 (escapeTags 0 rest ++ tail) := by
    cases htag : (tag? rest).isSome with
    | true =>
      rw [escapeTags_tag htag, List.append_assoc, read?_backslashes, List.cons_append,
        read?_bracket (.inr (by omega))]
    | false =>
      rw [escapeTags_bracket htag, List.append_assoc, read?_backslashes, List.cons_append,
        read?_bracket (.inl (hsame.trans htag))]
  rw [hshown, open?_cons (.inr hleaves), readAcross?_cons, hrest]
  exact (map_true_and _).symm

end Bracket

/-- **Reading an escaped text**, whatever bracket it leaves open and the next text closes. -/
theorem read?_escapeTags (hclose : closes tail = true) (hstart : tail.head?.any startsTag = false)
    (styles : List Text) (pending : Nat) (t : Text) :
    read? styles 0 0 (escapeTags pending t ++ tail) =
      readAcross? styles pending t tail (open? pending t) := by
  induction t generalizing pending with
  | nil =>
    rw [escapeTags, read?_backslashes, Nat.zero_add, open?, readAcross?]
    exact (map_true_and _).symm
  | cons c rest ih =>
    by_cases hbackslash : c = 0x5C
    · subst hbackslash
      rw [open?_cons (.inl (by decide)), readAcross?_cons]
      exact (ih (pending + 1)).trans (map_true_and _).symm
    · by_cases hopen : c = '['
      · subst hopen
        cases hleaves : leavesOpen rest with
        | true => exact read?_escapeTags_leavesOpen pending (ih 0) hclose hleaves
        | false => exact read?_escapeTags_bracket pending (ih 0) hstart hleaves
      · rw [open?_cons (.inl hopen), readAcross?_cons, beq_eq_false_iff_ne.mpr hbackslash,
          if_neg Bool.false_ne_true, ← ih 0, escapeTags_other hbackslash hopen, List.append_assoc,
          read?_backslashes, Nat.zero_add, List.cons_append, read?_other hbackslash hopen]

theorem read?_escapeTags_of_not_closes (hclose : closes tail = false) (styles : List Text)
    (pending : Nat) (t : Text) :
    read? styles 0 0 (escapeTags pending t ++ tail) =
      (read? styles (trailing pending t) 0 tail).map (t.isEncodable && ·) := by
  rw [read?, plainFrom?_escapeTags hclose]
  refine read?_map (fun s => ?_) _
  rw [Text.isEncodable_append, isEncodable_literal]

/-- At the end, an escaped text is shown. -/
theorem read?_escapeTags_backslashes (styles : List Text) (t : Text) (n : Nat) :
    read? styles 0 0 (escapeTags 0 t ++ backslashes n) = some t.isEncodable := by
  have hclose := closes_backslashes_append n []
  have hread := read?_backslashes styles (trailing 0 t) n []
  rw [List.append_nil] at hclose hread
  rw [read?_escapeTags_of_not_closes hclose, hread, read?_nil, Option.map_some, Bool.and_true]

theorem closes_escape (t : Text) : closes (escape t) = closes t := by
  obtain ⟨n, hescape⟩ := exists_escape_eq t
  have hclose := closes_backslashes_append n []
  rw [List.append_nil] at hclose
  rw [hescape, closes_escapeTags, hclose, closes, Bool.and_false, Bool.or_false]

/-- Up to its first bracket, a text that closes one is written as it is. -/
theorem escapeTags_of_closes (h : closes t = true) (pending : Nat) :
    escapeTags pending t =
      backslashes pending ++ (front t ++ ((']' : CodePoint) :: escapeTags 0 (behind t))) := by
  induction t generalizing pending with
  | nil => cases h
  | cons c rest ih =>
    by_cases hopen : c = '['
    · rw [hopen] at h
      cases h
    · by_cases hclose : c = ']'
      · subst hclose
        exact escapeTags_other (by decide) (by decide)
      · have hc : isInside c = true := by
          rw [isInside, bne_iff_ne.mpr hopen, bne_iff_ne.mpr hclose]
          rfl
        rw [closes_cons hc] at h
        rw [front_cons hc, behind_cons hc]
        by_cases hbackslash : c = 0x5C
        · subst hbackslash
          rw [List.cons_append, backslashes_append_cons]
          exact ih h (pending + 1)
        · rw [escapeTags_other hbackslash hopen, ih h 0]
          rfl

theorem exists_behind_escape (h : closes t = true) :
    ∃ n, behind (escape t) = escapeTags 0 (behind t) ++ backslashes n := by
  obtain ⟨n, hescape⟩ := exists_escape_eq t
  refine ⟨n, ?_⟩
  rw [hescape, escapeTags_of_closes h 0, List.append_assoc, List.append_assoc,
    behind_append (t := backslashes 0) rfl, behind_append (all_front t)]
  rfl

/-- A bracket that is left open has the start of a tag behind it. -/
theorem leavesOpen_of_open? {before inside : Text} {pending : Nat}
    (h : open? pending t = some (before, inside)) : leavesOpen inside = true := by
  induction t generalizing pending before with
  | nil => cases h
  | cons c rest ih =>
    by_cases hbracket : c = '[' ∧ leavesOpen rest = true
    · obtain ⟨rfl, hleaves⟩ := hbracket
      rw [open?_of_leavesOpen hleaves] at h
      split_ifs at h
      cases h
      exact hleaves
    · rw [open?_cons (by rwa [not_and_or, Bool.not_eq_true] at hbracket)] at h
      obtain ⟨parts, hparts, heq⟩ := Option.map_eq_some_iff.mp h
      cases heq
      exact ih hparts

/-- Where no style is open, a tag can be read exactly if it closes none. -/
theorem isSome_enter?_nil {inside : Text} (h : leavesOpen inside = true) (tail : Text) :
    (enter? (inside ++ tail) []).isSome = (inside.head? != some ('/' : CodePoint)) := by
  cases inside with
  | nil => cases h
  | cons c rest =>
    have hstart : startsTag c = true := (Bool.and_eq_true_iff.mp h).1
    have hc : (c == '=') = false := by
      rw [beq_eq_false_iff_ne]
      rintro rfl
      exact absurd hstart (by decide)
    have hcut : (Text.cut '=' (c :: (rest ++ tail))).1 = c :: (Text.cut '=' (rest ++ tail)).1 := by
      rw [Text.cut, hc]
      rfl
    rw [List.cons_append, enter?, hcut]
    by_cases hslash : c = '/'
    · subst hslash
      simp [close?]
    · simp [hslash]

/-- A line break is shown, whatever stands before it. -/
theorem read?_lineBreak (styles : List Text) (pending : Nat) (t : Text) :
    read? styles pending 0 (0x0A :: t) = read? styles 0 0 t :=
  (read?_other (by decide) (by decide)).trans (map_true_and _)

end Escaped

/-! ## Two texts -/

/-- Can two escaped texts be shown, one below the other, where no style is open? -/
def areShown (t u : Text) : Bool :=
  match tagAcross? t u with
  | none => t.isEncodable && u.isEncodable
  | some tag => tag.isShown

section Two

variable (n : Nat) (t u : Text)

/-- The gap between two escaped texts holds no bracket. -/
theorem closes_gap : closes (backslashes n ++ (0x0A :: 0x0A :: escape u)) = closes u := by
  rw [closes_backslashes_append, closes_cons rfl, closes_cons rfl, closes_escape]

theorem read?_gap (styles : List Text) (pending : Nat) :
    read? styles pending 0 (backslashes n ++ (0x0A :: 0x0A :: escape u)) = some u.isEncodable := by
  obtain ⟨k, hescape⟩ := exists_escape_eq u
  rw [read?_backslashes, read?_lineBreak, read?_lineBreak, hescape, read?_escapeTags_backslashes]

theorem read?_behind_gap (h : closes u = true) (styles : List Text) :
    read? styles 0 0 (behind (backslashes n ++ (0x0A :: 0x0A :: escape u))) =
      some (behind u).isEncodable := by
  have hall : (backslashes n).all isInside = true := by
    rw [List.all_eq_true]
    intro c hc
    rw [List.eq_of_mem_replicate hc]
    rfl
  obtain ⟨k, hbehind⟩ := exists_behind_escape h
  rw [behind_append hall, behind_cons rfl, behind_cons rfl, hbehind, read?_escapeTags_backslashes]

/-- **Two escaped texts are shown**, unless they make a tag that closes a style, or what is shown
holds a lone surrogate. -/
theorem read?_two :
    (read? [] 0 0 (escape t ++ (0x0A :: 0x0A :: escape u))).getD false = areShown t u := by
  obtain ⟨n, hescape⟩ := exists_escape_eq t
  rw [hescape, List.append_assoc, areShown, tagAcross?]
  cases hclose : closes u with
  | false =>
    rw [read?_escapeTags_of_not_closes ((closes_gap n u).trans hclose), read?_gap]
    rfl
  | true =>
    have hstart : (backslashes n ++ (0x0A :: 0x0A :: escape u)).head?.any startsTag = false := by
      cases n <;> rfl
    rw [read?_escapeTags ((closes_gap n u).trans hclose) hstart]
    cases hopen : open? 0 t with
    | none =>
      rw [readAcross?, read?_gap]
      rfl
    | some parts =>
      obtain ⟨before, inside⟩ := parts
      have henter := isSome_enter?_nil (leavesOpen_of_open? hopen)
        (front (backslashes n ++ (0x0A :: 0x0A :: escape u)))
      simp only [readAcross?, read?_behind_gap n u hclose, if_true, Option.map_some,
        TagAcross.isShown, ← henter]
      cases enter? _ [] <;> rfl

end Two

end Markup

end ProfileFilter
