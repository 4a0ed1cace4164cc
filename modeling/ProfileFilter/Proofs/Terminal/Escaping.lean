import ProfileFilter.Proofs.Text.Encodable
import ProfileFilter.Terminal.Format

/-!
# Escaped texts

An escaped text holds no tag. Whatever styles are open around it, all of the text is shown but the
code points that no terminal keeps, and backslashes: some that stand just before an opening bracket
or at the end of the text get lost, or are one too many (`exists_plainFrom?_escape`,
`filter_literal`). What follows an escaped text must not close a bracket that the text leaves open;
nothing, and every tag, is fine.

So a message in red is shown as a whole (`shows_red`, `shows_labelled`). A text that holds no tag
and does not end with a single backslash needs no escape (`escape_eq_self_iff`).
-/

namespace ProfileFilter

namespace Markup

/-! ## Tags -/

/-- Of the brackets in a text, is the first a closing one? -/
def closes : Text → Bool
  | [] => false
  | c :: rest => c != '[' && (c == ']' || closes rest)

theorem closes_eq (t : Text) :
    closes t = ((t.drop (t.takeWhile fun (d : CodePoint) => d != '[' && d != ']').length).head? ==
      some (']' : CodePoint)) := by
  induction t with
  | nil => rfl
  | cons c rest ih =>
    rw [closes, List.takeWhile_cons]
    by_cases hopen : c = '['
    · subst hopen
      rfl
    · by_cases hclose : c = ']'
      · subst hclose
        rfl
      · have hopen : (c != '[') = true := bne_iff_ne.mpr hopen
        have hclose : (c != ']') = true ∧ (c == ']') = false :=
          ⟨bne_iff_ne.mpr hclose, beq_eq_false_iff_ne.mpr hclose⟩
        simp only [hopen, hclose, Bool.true_and, Bool.false_or, if_true, List.length_cons,
          List.drop_succ_cons]
        exact ih

/-- A tag starts like one, and its bracket is closed before another one is opened. -/
theorem isSome_tag?_cons (c : CodePoint) (rest : Text) :
    (tag? (c :: rest)).isSome = (startsTag c && closes rest) := by
  rw [closes_eq, tag?]
  split_ifs with h
  · exact h.symm
  · exact (Bool.eq_false_iff.mpr h).symm

theorem isSome_tag?_of_closes {t : Text} (h : closes t = false) : (tag? t).isSome = false := by
  cases t with
  | nil => rfl
  | cons c rest =>
    rw [isSome_tag?_cons]
    by_cases hstart : startsTag c = true
    · have hopen : (c != '[') = true := by
        rw [bne_iff_ne]
        rintro rfl
        exact absurd hstart (by decide)
      rw [closes, hopen, Bool.true_and, Bool.or_eq_false_iff] at h
      rw [h.2, Bool.and_false]
    · rw [Bool.eq_false_iff.mpr hstart, Bool.false_and]

/-! ## Escaped tags -/

theorem closes_backslashes_append (n : Nat) (t : Text) :
    closes (backslashes n ++ t) = closes t := by
  induction n with
  | zero => rfl
  | succ n ih => exact ih

/-- Is the code point no bracket? -/
def isInside (c : CodePoint) : Bool := c != '[' && c != ']'

/-- The first bracket stands in the escaped text, or behind it if it holds none. -/
theorem closes_escapeTags (pending : Nat) (t tail : Text) :
    closes (escapeTags pending t ++ tail) = (closes t || (t.all isInside && closes tail)) := by
  induction t generalizing pending with
  | nil => rw [escapeTags, closes_backslashes_append, closes, List.all_nil, Bool.false_or,
      Bool.true_and]
  | cons c rest ih =>
    rw [escapeTags, closes, List.all_cons]
    split_ifs with hbackslash htag
    · rw [ih, beq_iff_eq.mp hbackslash]
      rfl
    · rw [Bool.and_eq_true, beq_iff_eq] at htag
      rw [List.append_assoc, closes_backslashes_append, htag.1]
      rfl
    · rw [List.append_assoc, closes_backslashes_append, List.cons_append, closes, ih, isInside]
      cases hopen : c != '[' with
      | false => rfl
      | true =>
        cases hclose : c == ']' with
        | false => simp [bne, hclose]
        | true => simp [bne, hclose]

theorem exists_escapeTags_succ (pending : Nat) (t : Text) :
    ∃ rest, escapeTags (pending + 1) t = 0x5C :: rest := by
  induction t generalizing pending with
  | nil => exact ⟨_, rfl⟩
  | cons c rest ih =>
    rw [escapeTags]
    split_ifs
    · exact ih (pending + 1)
    · exact ⟨_, rfl⟩
    · exact ⟨_, rfl⟩

theorem isInside_of_startsTag {c : CodePoint} (h : startsTag c = true) : isInside c = true := by
  rw [isInside, Bool.and_eq_true, bne_iff_ne, bne_iff_ne]
  constructor
  · rintro rfl
    exact absurd h (by decide)
  · rintro rfl
    exact absurd h (by decide)

/-- Does the text leave open a bracket just before it, from which what follows may make a tag? -/
def leavesOpen (t : Text) : Bool := t.head?.any startsTag && t.all isInside

/-- What is written in front of a bracket makes no tag of what is none, and neither does what
follows if it closes no bracket or the text leaves none open. -/
theorem isSome_tag?_escapeTags {t tail : Text}
    (h : closes tail = false ∨ leavesOpen t = false ∧ tail.head?.any startsTag = false) :
    (tag? (escapeTags 0 t ++ tail)).isSome = (tag? t).isSome := by
  cases t with
  | nil =>
    rcases h with h | ⟨-, h⟩
    · exact isSome_tag?_of_closes h
    · show (tag? tail).isSome = false
      cases tail with
      | nil => rfl
      | cons c rest =>
        rw [isSome_tag?_cons, show startsTag c = false from h, Bool.false_and]
  | cons c rest =>
    rw [escapeTags]
    split_ifs with hbackslash htag
    · -- both texts start with a backslash, and no tag does
      obtain ⟨behind, hbehind⟩ := exists_escapeTags_succ 0 rest
      rw [hbehind, beq_iff_eq.mp hbackslash]
      rfl
    · rw [Bool.and_eq_true, beq_iff_eq] at htag
      rw [htag.1]
      rfl
    · show (tag? (c :: (escapeTags 0 rest ++ tail))).isSome = _
      rw [isSome_tag?_cons, isSome_tag?_cons, closes_escapeTags]
      rcases h with h | ⟨h, -⟩
      · rw [h, Bool.and_false, Bool.or_false]
      · cases hstart : startsTag c with
        | false => rfl
        | true =>
          have hall : rest.all isInside = false := by
            have hc : isInside c = true := isInside_of_startsTag hstart
            rw [leavesOpen, List.head?_cons, Option.any_some, hstart, Bool.true_and,
              List.all_cons, hc, Bool.true_and] at h
            exact h
          rw [hall, Bool.false_and, Bool.or_false]

section Steps

variable {pending : Nat} {c : CodePoint} {rest : Text}

theorem escapeTags_tag (h : (tag? rest).isSome = true) :
    escapeTags pending (('[' : CodePoint) :: rest) =
      backslashes (2 * pending + 1) ++ (('[' : CodePoint) :: escapeTags 0 rest) := by
  rw [escapeTags, if_neg (by decide), if_pos (by rw [h]; rfl)]

theorem escapeTags_bracket (h : (tag? rest).isSome = false) :
    escapeTags pending (('[' : CodePoint) :: rest) =
      backslashes pending ++ (('[' : CodePoint) :: escapeTags 0 rest) := by
  rw [escapeTags, if_neg (by decide), if_neg (by rw [h]; decide)]

theorem escapeTags_other (hbackslash : c ≠ 0x5C) (hopen : c ≠ '[') :
    escapeTags pending (c :: rest) = backslashes pending ++ c :: escapeTags 0 rest := by
  rw [escapeTags, if_neg (by simpa using hbackslash), if_neg (by simp [hopen])]

end Steps

/-! ## What is shown -/

/-- What is shown of an escaped text, without the backslashes at its end; `pending` backslashes
came just before. -/
def literal : (pending : Nat) → Text → Text
  | _, [] => []
  | pending, c :: rest =>
    if c == 0x5C then literal (pending + 1) rest
    else if c == '[' then
      backslashes (if (tag? rest).isSome then pending else pending - 1) ++ c :: literal 0 rest
    else backslashes pending ++ if isDropped c then literal 0 rest else c :: literal 0 rest

/-- The number of backslashes at the end of a text; `pending` came just before. -/
def trailing : (pending : Nat) → Text → Nat
  | pending, [] => pending
  | pending, c :: rest => if c == 0x5C then trailing (pending + 1) rest else trailing 0 rest

section Steps

variable {styles : List Text} {pending : Nat} {c : CodePoint} {rest : Text}

theorem trailing_of_ne (h : c ≠ 0x5C) : trailing pending (c :: rest) = trailing 0 rest := by
  rw [trailing, if_neg (by simpa using h)]

theorem literal_tag (h : (tag? rest).isSome = true) :
    literal pending (('[' : CodePoint) :: rest) =
      backslashes pending ++ ('[' : CodePoint) :: literal 0 rest := by
  rw [literal, if_neg (by decide), if_pos (beq_self_eq_true _), if_pos h]

theorem literal_bracket (h : (tag? rest).isSome = false) :
    literal pending (('[' : CodePoint) :: rest) =
      backslashes (pending - 1) ++ ('[' : CodePoint) :: literal 0 rest := by
  rw [literal, if_neg (by decide), if_pos (beq_self_eq_true _), if_neg (by rw [h]; decide)]

theorem literal_other (hbackslash : c ≠ 0x5C) (hopen : c ≠ '[') :
    literal pending (c :: rest) =
      backslashes pending ++ if isDropped c then literal 0 rest else c :: literal 0 rest := by
  rw [literal, if_neg (by simpa using hbackslash), if_neg (by simpa using hopen)]

theorem plainFrom?_backslashes (styles : List Text) (pending n : Nat) (t : Text) :
    plainFrom? styles pending 0 (backslashes n ++ t) = plainFrom? styles (pending + n) 0 t := by
  induction n generalizing pending with
  | zero => rfl
  | succ n ih =>
    have hstep := ih (pending + 1)
    rwa [Nat.add_right_comm, Nat.add_assoc] at hstep

/-- A tag behind an odd number of backslashes is shown. -/
theorem plainFrom?_tag (h : (tag? rest).isSome = true) :
    plainFrom? styles (2 * pending + 1) 0 (('[' : CodePoint) :: rest) =
      (plainFrom? styles 0 0 rest).map fun t => backslashes pending ++ ('[' : CodePoint) :: t := by
  obtain ⟨inside, hinside⟩ := Option.isSome_iff_exists.mp h
  have hodd : ((2 * pending + 1) % 2 == 1) = true := by
    rw [beq_iff_eq]
    omega
  have hhalf : (2 * pending + 1) / 2 = pending := by omega
  rw [plainFrom?, if_neg (by decide), if_pos (beq_self_eq_true _), hinside]
  simp only [hodd, if_true, hhalf]

/-- A bracket that opens no tag is shown, one backslash less before it. -/
theorem plainFrom?_bracket (h : (tag? rest).isSome = false) :
    plainFrom? styles pending 0 (('[' : CodePoint) :: rest) =
      (plainFrom? styles 0 0 rest).map fun t =>
        backslashes (pending - 1) ++ ('[' : CodePoint) :: t := by
  rw [Option.isSome_eq_false_iff, Option.isNone_iff_eq_none] at h
  rw [plainFrom?, if_neg (by decide), if_pos (beq_self_eq_true _), h]

/-- The inside of a tag is passed over. -/
theorem plainFrom?_pass (styles : List Text) (inside rest : Text) :
    plainFrom? styles 0 inside.length (inside ++ rest) = plainFrom? styles 0 0 rest := by
  induction inside with
  | nil => rfl
  | cons c inside ih => exact ih

/-- A tag behind an even number of backslashes opens or closes a style. -/
theorem plainFrom?_enter {inside : Text} (hpending : pending % 2 = 0)
    (htag : tag? (inside ++ ((']' : CodePoint) :: rest)) = some inside) :
    plainFrom? styles pending 0 (('[' : CodePoint) :: (inside ++ ((']' : CodePoint) :: rest))) =
      (enter? inside styles).bind fun styles =>
        (plainFrom? styles 0 0 rest).map (backslashes (pending / 2) ++ ·) := by
  have heven : (pending % 2 == 1) = false := beq_eq_false_iff_ne.mpr (by omega)
  rw [plainFrom?, if_neg (by decide), if_pos (beq_self_eq_true _), htag]
  simp only [heven, Bool.false_eq_true, if_false]
  cases enter? inside styles with
  | none => rfl
  | some opened =>
    have hpass := plainFrom?_pass opened (inside ++ [(']' : CodePoint)]) rest
    rw [List.append_assoc, List.length_append] at hpass
    show (plainFrom? opened 0 (inside.length + 1) (inside ++ ((']' : CodePoint) :: rest))).bind
      (fun t => some (backslashes (pending / 2) ++ t)) =
        (plainFrom? opened 0 0 rest).map (backslashes (pending / 2) ++ ·)
    rw [← hpass, Option.map_eq_bind]
    rfl

theorem plainFrom?_other (hbackslash : c ≠ 0x5C) (hopen : c ≠ '[') :
    plainFrom? styles pending 0 (c :: rest) =
      (plainFrom? styles 0 0 rest).map fun t =>
        backslashes pending ++ if isDropped c then t else c :: t := by
  rw [plainFrom?, if_neg (by simpa using hbackslash), if_neg (by simpa using hopen)]

end Steps

/-- Reading an escaped text opens and closes no style. -/
theorem plainFrom?_escapeTags {tail : Text} (htail : closes tail = false) (styles : List Text)
    (pending : Nat) (t : Text) :
    plainFrom? styles 0 0 (escapeTags pending t ++ tail) =
      (plainFrom? styles (trailing pending t) 0 tail).map (literal pending t ++ ·) := by
  induction t generalizing pending with
  | nil =>
    rw [escapeTags, plainFrom?_backslashes, Nat.zero_add]
    exact (Option.map_id' ..).symm
  | cons c rest ih =>
    by_cases hbackslash : c = 0x5C
    · subst hbackslash
      exact ih (pending + 1)
    · rw [trailing_of_ne hbackslash]
      have hstep := isSome_tag?_escapeTags (t := rest) (.inl htail)
      by_cases hopen : c = '['
      · subst hopen
        cases htag : (tag? rest).isSome with
        | true =>
          rw [escapeTags_tag htag, literal_tag htag, List.append_assoc, plainFrom?_backslashes,
            Nat.zero_add, List.cons_append, plainFrom?_tag (hstep.trans htag), ih, Option.map_map]
          refine congrArg (Option.map · _) (funext fun shown => ?_)
          simp
        | false =>
          rw [escapeTags_bracket htag, literal_bracket htag, List.append_assoc,
            plainFrom?_backslashes, Nat.zero_add, List.cons_append,
            plainFrom?_bracket (hstep.trans htag), ih, Option.map_map]
          refine congrArg (Option.map · _) (funext fun shown => ?_)
          simp
      · rw [escapeTags_other hbackslash hopen, literal_other hbackslash hopen, List.append_assoc,
          plainFrom?_backslashes, Nat.zero_add, List.cons_append,
          plainFrom?_other hbackslash hopen, ih, Option.map_map]
        refine congrArg (Option.map · _) (funext fun shown => ?_)
        by_cases hdropped : isDropped c = true <;> simp [hdropped]

/-- Besides the escapes of tags, backslashes may stand at the end of an escaped text. -/
theorem exists_escape_eq (t : Text) : ∃ n, escape t = escapeTags 0 t ++ backslashes n := by
  simp only [escape]
  split_ifs
  · exact ⟨1, rfl⟩
  · exact ⟨0, (List.append_nil _).symm⟩

/-- An escaped text is passed over as what is shown of it and some backslashes. -/
theorem exists_plainFrom?_escape (t : Text) : ∃ n, ∀ styles tail, closes tail = false →
    plainFrom? styles 0 0 (escape t ++ tail) =
      (plainFrom? styles n 0 tail).map (literal 0 t ++ ·) := by
  obtain ⟨n, hescape⟩ := exists_escape_eq t
  refine ⟨trailing 0 t + n, fun styles tail htail => ?_⟩
  have hclosed : closes (backslashes n ++ tail) = false := by
    rwa [closes_backslashes_append]
  rw [hescape, List.append_assoc, plainFrom?_escapeTags hclosed, plainFrom?_backslashes]

/-! ## Texts that need no escape -/

/-- Does the text hold a tag? -/
def hasTag : Text → Bool
  | [] => false
  | c :: rest => c == '[' && (tag? rest).isSome || hasTag rest

/-- Is there a backslash at the end, and none before it? -/
def endsOpen (t : Text) : Bool :=
  Text.endsWith (backslashes 1) t && !Text.endsWith (backslashes 2) t

theorem length_le_escapeTags (pending : Nat) (t : Text) :
    pending + t.length ≤ (escapeTags pending t).length := by
  induction t generalizing pending with
  | nil => simp [escapeTags, backslashes]
  | cons c rest ih =>
    rw [escapeTags, List.length_cons]
    split_ifs
    · have hrest := ih (pending + 1)
      omega
    · have hrest := ih 0
      simp only [List.length_append, backslashes, List.length_replicate, List.length_cons]
      omega
    · have hrest := ih 0
      simp only [List.length_append, backslashes, List.length_replicate, List.length_cons]
      omega

theorem backslashes_append_cons (n : Nat) (t : Text) :
    backslashes n ++ 0x5C :: t = backslashes (n + 1) ++ t := by
  induction n with
  | zero => rfl
  | succ n ih => exact congrArg (List.cons 0x5C) ih

/-- Only tags are escaped. -/
theorem escapeTags_eq_iff (pending : Nat) (t : Text) :
    escapeTags pending t = backslashes pending ++ t ↔ hasTag t = false := by
  induction t generalizing pending with
  | nil => simp [escapeTags, hasTag]
  | cons c rest ih =>
    rw [hasTag, Bool.or_eq_false_iff]
    by_cases hbackslash : c = 0x5C
    · subst hbackslash
      rw [backslashes_append_cons, ← ih (pending + 1)]
      exact (and_iff_right rfl).symm
    · by_cases hopen : c = '['
      · subst hopen
        cases htag : (tag? rest).isSome with
        | true =>
          refine iff_of_false (fun h => ?_) fun h => absurd h.1 (by decide)
          have hlength := congrArg List.length h
          have hrest := length_le_escapeTags 0 rest
          rw [escapeTags_tag htag] at hlength
          simp only [List.length_append, backslashes, List.length_replicate,
            List.length_cons] at hlength
          omega
        | false =>
          rw [escapeTags_bracket htag, List.append_cancel_left_eq, List.cons.injEq,
            and_iff_right rfl, and_iff_right (Bool.and_false _)]
          exact ih 0
      · rw [escapeTags_other hbackslash hopen, List.append_cancel_left_eq, List.cons.injEq,
          and_iff_right rfl, beq_eq_false_iff_ne.mpr hopen, Bool.false_and, and_iff_right rfl]
        exact ih 0

/-- **A text needs no escape** exactly if it holds no tag and does not end with a single
backslash. -/
theorem escape_eq_self_iff {t : Text} :
    escape t = t ↔ hasTag t = false ∧ endsOpen t = false := by
  have htags := escapeTags_eq_iff 0 t
  have hescape : escape t =
      if endsOpen (escapeTags 0 t) then escapeTags 0 t ++ backslashes 1 else escapeTags 0 t := rfl
  constructor
  · intro h
    have hlength := length_le_escapeTags 0 t
    have hopen : endsOpen (escapeTags 0 t) = false := by
      by_contra hopen
      rw [hescape, if_pos (eq_true_of_ne_false hopen)] at h
      have hlonger := congrArg List.length h
      rw [List.length_append, backslashes, List.length_replicate] at hlonger
      omega
    rw [hescape, if_neg (Bool.eq_false_iff.mp hopen)] at h
    rw [h] at hopen
    exact ⟨htags.mp h, hopen⟩
  · rintro ⟨htag, hopen⟩
    have hsame : escapeTags 0 t = t := htags.mpr htag
    rw [hescape, hsame, if_neg (Bool.eq_false_iff.mp hopen)]

/-! ## What is kept -/

/-- Is the code point shown as it is, wherever it stands in a text? Blanks may be widened, and
backslashes may get lost. -/
def isSolid (c : CodePoint) : Bool := !c.isBlank && c != 0x5C && !isDropped c

theorem filter_backslashes (n : Nat) : (backslashes n).filter isSolid = [] := by
  rw [List.filter_eq_nil_iff]
  intro c hc
  rw [List.eq_of_mem_replicate hc]
  decide

theorem filter_literal (pending : Nat) (t : Text) :
    (literal pending t).filter isSolid = t.filter isSolid := by
  induction t generalizing pending with
  | nil => rfl
  | cons c rest ih =>
    by_cases hbackslash : c = 0x5C
    · subst hbackslash
      exact ih (pending + 1)
    · by_cases hopen : c = '['
      · subst hopen
        cases htag : (tag? rest).isSome with
        | true => rw [literal_tag htag, List.filter_append, filter_backslashes, List.nil_append,
            List.filter_cons, List.filter_cons, ih]
        | false => rw [literal_bracket htag, List.filter_append, filter_backslashes,
            List.nil_append, List.filter_cons, List.filter_cons, ih]
      · rw [literal_other hbackslash hopen, List.filter_append, filter_backslashes,
          List.nil_append]
        split_ifs with hdropped
        · rw [ih, List.filter_cons_of_neg (by simp [isSolid, hdropped])]
        · rw [List.filter_cons, List.filter_cons, ih]

theorem filter_expandTabs (column : Nat) (t : Text) :
    (expandTabs column t).filter isSolid = t.filter isSolid := by
  induction t generalizing column with
  | nil => rfl
  | cons c rest ih =>
    rw [expandTabs]
    split_ifs with htab hline
    · have htab : c = 9 := Fin.ext (beq_iff_eq.mp htab)
      have hblanks : ∀ n, (List.replicate n (' ' : CodePoint)).filter isSolid = [] := by
        intro n
        rw [List.filter_eq_nil_iff]
        intro d hd
        rw [List.eq_of_mem_replicate hd]
        decide
      rw [List.filter_append, hblanks, List.nil_append, ih, htab]
      rfl
    · rw [List.filter_cons, List.filter_cons, ih]
    · rw [List.filter_cons, List.filter_cons, ih]

/-- Lone surrogates are shown. -/
theorem isSolid_of_isSurrogate {c : CodePoint} (h : c.isSurrogate = true) : isSolid c = true := by
  have hblank : c.isBlank = false := by
    by_contra hblank
    rw [CodePoint.isSurrogate_of_isBlank (eq_true_of_ne_false hblank)] at h
    cases h
  have hrange : 0xD800 ≤ c.val := by
    rw [CodePoint.isSurrogate, Bool.and_eq_true, decide_eq_true_eq] at h
    exact h.1
  have hbackslash : c ≠ 0x5C := by
    rintro rfl
    exact absurd hrange (by decide)
  have hdropped : isDropped c = false := by
    simp only [isDropped, Bool.or_eq_false_iff, beq_eq_false_iff_ne]
    omega
  rw [isSolid, hblank, hdropped, bne_iff_ne.mpr hbackslash]
  rfl

theorem isEncodable_filter_isSolid (t : Text) :
    Text.isEncodable (t.filter isSolid) = t.isEncodable := by
  rw [Bool.eq_iff_iff, Text.isEncodable_iff, Text.isEncodable_iff]
  constructor
  · intro h c hc
    by_contra hsurrogate
    have hsurrogate := eq_true_of_ne_false hsurrogate
    have hkept := h c (List.mem_filter.mpr ⟨hc, isSolid_of_isSurrogate hsurrogate⟩)
    rw [hkept] at hsurrogate
    cases hsurrogate
  · intro h c hc
    exact h c (List.mem_of_mem_filter hc)

theorem isEncodable_backslashes (n : Nat) : (backslashes n).isEncodable = true := by
  rw [← isEncodable_filter_isSolid, filter_backslashes]
  rfl

theorem isEncodable_literal (pending : Nat) (t : Text) :
    (literal pending t).isEncodable = t.isEncodable := by
  rw [← isEncodable_filter_isSolid, filter_literal, isEncodable_filter_isSolid]

theorem isEncodable_expandTabs (column : Nat) (t : Text) :
    (expandTabs column t).isEncodable = t.isEncodable := by
  rw [← isEncodable_filter_isSolid, filter_expandTabs, isEncodable_filter_isSolid]

/-! ## Messages in red -/

/-- Does the code point have no part in markup? -/
def isUnmarked (c : CodePoint) : Bool := c != 0x5C && c != '[' && !isDropped c

theorem plainFrom?_label {label : Text} (h : label.all isUnmarked = true) (styles : List Text)
    (t : Text) :
    plainFrom? styles 0 0 (label ++ t) = (plainFrom? styles 0 0 t).map (label ++ ·) := by
  induction label with
  | nil => exact (Option.map_id' ..).symm
  | cons c rest ih =>
    obtain ⟨hc, hrest⟩ := Bool.and_eq_true_iff.mp h
    simp only [isUnmarked, Bool.and_eq_true, bne_iff_ne, Bool.not_eq_true'] at hc
    obtain ⟨⟨hbackslash, hopen⟩, hdropped⟩ := hc
    rw [List.cons_append, plainFrom?_other hbackslash hopen, ih hrest, Option.map_map]
    refine congrArg (Option.map · _) (funext fun shown => ?_)
    simp [hdropped, backslashes]

/-- The styles of messages and of the lines of a result. -/
def lineStyles : List Text := ["red", "green", "bold"]

section Styles

variable {style : Text} (h : style ∈ lineStyles) (styles : List Text) (rest : Text)
include h

theorem plainFrom?_open : plainFrom? styles 0 0 ("[" ++ style ++ "]" ++ rest) =
    plainFrom? (style :: styles) 0 0 rest := by
  obtain ⟨htag, hopened⟩ : tag? (style ++ ((']' : CodePoint) :: rest)) = some style ∧
      enter? style styles = some (style :: styles) := by
    simp only [lineStyles, List.mem_cons, List.not_mem_nil, or_false] at h
    rcases h with rfl | rfl | rfl <;> exact ⟨rfl, rfl⟩
  have henter := @plainFrom?_enter styles 0 rest style rfl htag
  rw [hopened] at henter
  refine (congrArg (plainFrom? styles 0 0) ?_).trans (henter.trans (Option.map_id' ..))
  simp only [List.append_assoc]
  rfl

theorem plainFrom?_close : plainFrom? (style :: styles) 0 0 ("[/" ++ style ++ "]" ++ rest) =
    plainFrom? styles 0 0 rest := by
  obtain ⟨htag, hclosed⟩ : tag? ("/" ++ style ++ ((']' : CodePoint) :: rest)) =
      some ("/" ++ style) ∧ enter? ("/" ++ style) (style :: styles) = some styles := by
    simp only [lineStyles, List.mem_cons, List.not_mem_nil, or_false] at h
    rcases h with rfl | rfl | rfl <;> exact ⟨rfl, rfl⟩
  have henter := @plainFrom?_enter (style :: styles) 0 rest ("/" ++ style) rfl htag
  rw [hclosed] at henter
  refine (congrArg (plainFrom? (style :: styles) 0 0) ?_).trans (henter.trans (Option.map_id' ..))
  simp only [List.append_assoc]
  rfl

/-- A label in a style is shown. -/
theorem plainFrom?_styled {label : Text} (hlabel : label.all isUnmarked = true) :
    plainFrom? styles 0 0 (Format.styled style label ++ rest) =
      (plainFrom? styles 0 0 rest).map (label ++ ·) := by
  have hline : Format.styled style label ++ rest =
      "[" ++ style ++ "]" ++ (label ++ ("[/" ++ style ++ "]" ++ rest)) := by
    simp only [Format.styled, List.append_assoc]
  rw [hline, plainFrom?_open h, plainFrom?_label hlabel, plainFrom?_close h]

end Styles

/-- The style is closed, unless an odd number of backslashes in front makes a text of the tag. -/
theorem exists_plainFrom?_closeRed (n : Nat) : ∃ extra : Text,
    plainFrom? ["red"] n 0 "[/red]" = some extra ∧ extra.isEncodable = true := by
  have htag : tag? "/red]" = some "/red" := rfl
  show ∃ extra : Text, plainFrom? ["red"] n 0 (('[' : CodePoint) :: "/red]") = some extra ∧ _
  rw [plainFrom?, if_neg (by decide), if_pos (beq_self_eq_true _), htag]
  cases n % 2 == 1 with
  | true =>
    refine ⟨backslashes (n / 2) ++ "[/red]", rfl, ?_⟩
    rw [Text.isEncodable_append, isEncodable_backslashes]
    decide
  | false =>
    refine ⟨backslashes (n / 2) ++ [], rfl, ?_⟩
    rw [List.append_nil, isEncodable_backslashes]

/-- The line shows the message, and nothing before it. -/
def Shows (line message : Text) : Prop :=
  ∃ extra : Text, extra.isEncodable = true ∧
    plain? line = some (expandTabs 0 (literal 0 message ++ extra))

/-- What is shown can be encoded if the message can. -/
theorem isEncodable_shown {extra : Text} (hextra : extra.isEncodable = true) (message : Text) :
    (expandTabs 0 (literal 0 message ++ extra)).isEncodable = message.isEncodable := by
  rw [isEncodable_expandTabs, Text.isEncodable_append, hextra, Bool.and_true, isEncodable_literal]

/-- All of the message is shown. -/
theorem isPrefix_shown (message extra : Text) :
    message.filter isSolid <+: (expandTabs 0 (literal 0 message ++ extra)).filter isSolid := by
  rw [filter_expandTabs, List.filter_append, filter_literal]
  exact List.prefix_append _ _

theorem shows_red (message : Text) : Shows (Format.styled "red" (escape message)) message := by
  obtain ⟨n, hescape⟩ := exists_plainFrom?_escape message
  obtain ⟨extra, hclose, hextra⟩ := exists_plainFrom?_closeRed n
  refine ⟨extra, hextra, ?_⟩
  have hred : ("red" : Text) ∈ lineStyles := by decide
  have hline : Format.styled "red" (escape message) =
      "[" ++ "red" ++ "]" ++ (escape message ++ "[/red]") := by
    simp only [Format.styled, List.append_assoc]
    rfl
  rw [plain?, hline, plainFrom?_open hred, hescape _ _ rfl, hclose]
  rfl

theorem shows_labelled (reason : Text) :
    Shows (Format.styled "red" "Invalid configuration:" ++ " " ++ escape reason)
      ("Invalid configuration: " ++ reason) := by
  obtain ⟨n, hescape⟩ := exists_plainFrom?_escape reason
  have hread := hescape [] [] rfl
  rw [List.append_nil] at hread
  refine ⟨backslashes n, isEncodable_backslashes n, ?_⟩
  have hred : ("red" : Text) ∈ lineStyles := by decide
  have hlabel : ("Invalid configuration:" : Text).all isUnmarked = true := rfl
  have hblank : plainFrom? [] 0 0 (" " ++ escape reason) =
      (plainFrom? [] 0 0 (escape reason)).map ((' ' : CodePoint) :: ·) := rfl
  rw [plain?, List.append_assoc, plainFrom?_styled hred [] _ hlabel, hblank, hread]
  rfl

end Markup

end ProfileFilter
