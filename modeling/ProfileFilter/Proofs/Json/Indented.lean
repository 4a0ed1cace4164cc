import ProfileFilter.Proofs.Json.Clean
import ProfileFilter.Proofs.Json.Keys
import ProfileFilter.Proofs.Json.Reading

/-!
# Laid-out JSON

What is read from JSON (`Value.isJson`) can be laid out again. The text that a value is laid out
as is a JSON text for it, like the compact one, and it holds the code points of the texts in the
value, beside escapes and tokens in ASCII.

Main statements: `exists_indentedAt`, `PassesAscii.all_indentedAt`, `isFaithful_record`.
-/

namespace ProfileFilter

namespace Value

mutual

/-- Can the value be read from JSON? Its keys are texts, its integers have no more digits than may
be written, and it holds neither dates nor fixed sequences. -/
def isJson : Value → Bool
  | .date _ | .dateTime _ | .tuple _ => false
  | .int n => isWritableInt n
  | .list items => areJson items
  | .mapping entries => entriesAreJson entries
  | _ => true

/-- Can all items be read from JSON? -/
def areJson : List Value → Bool
  | [] => true
  | v :: rest => isJson v && areJson rest

/-- Are all keys texts, and can all values be read from JSON? -/
def entriesAreJson : List (Value × Value) → Bool
  | [] => true
  | (.text _, v) :: rest => isJson v && entriesAreJson rest
  | _ => false

end

mutual

/-- Do all code points in the texts of the value pass, those of its keys included? -/
def allPoints (p : CodePoint → Bool) : Value → Bool
  | .text t => t.all p
  | .list items | .tuple items => allPointsOf p items
  | .mapping entries => allPointsIn p entries
  | _ => true

/-- Do all code points in the texts of the items pass? -/
def allPointsOf (p : CodePoint → Bool) : List Value → Bool
  | [] => true
  | v :: rest => allPoints p v && allPointsOf p rest

/-- Do all code points in the texts of the entries pass? -/
def allPointsIn (p : CodePoint → Bool) : List (Value × Value) → Bool
  | [] => true
  | (k, v) :: rest => allPoints p k && allPoints p v && allPointsIn p rest

end

/-- Is no text in the value without an encoding? -/
def isEncodable (v : Value) : Bool := v.allPoints fun c => !c.isSurrogate

@[simp] theorem areJson_eq (items : List Value) : areJson items = items.all isJson := by
  induction items with
  | nil => rfl
  | cons v rest ih => rw [areJson, ih, List.all_cons]

@[simp] theorem allPointsOf_eq (p : CodePoint → Bool) (items : List Value) :
    allPointsOf p items = items.all (allPoints p) := by
  induction items with
  | nil => rfl
  | cons v rest ih => rw [allPointsOf, ih, List.all_cons]

theorem isJson_record (fields : List (Text × Value)) :
    (record fields).isJson = fields.all fun field => field.2.isJson := by
  rw [record, isJson]
  induction fields with
  | nil => rfl
  | cons field rest ih => rw [List.map_cons, entriesAreJson, ih, List.all_cons]

theorem allPoints_record (p : CodePoint → Bool) (fields : List (Text × Value)) :
    (record fields).allPoints p =
      fields.all fun field => field.1.all p && field.2.allPoints p := by
  rw [record, allPoints]
  induction fields with
  | nil => rfl
  | cons field rest ih => rw [List.map_cons, allPointsIn, ih, List.all_cons, allPoints]

theorem isEncodable_record (fields : List (Text × Value)) :
    (record fields).isEncodable =
      fields.all fun field => field.1.isEncodable && field.2.isEncodable :=
  allPoints_record _ fields

@[simp] theorem isEncodable_null : null.isEncodable = true := rfl

@[simp] theorem isEncodable_text (t : Text) : (text t).isEncodable = t.isEncodable := rfl

@[simp] theorem isEncodable_int (n : Int) : (int n).isEncodable = true := rfl

@[simp] theorem isEncodable_bool (b : Bool) : (bool b).isEncodable = true := rfl

theorem entriesAreJson_cons {k v : Value} {rest : Entries} :
    entriesAreJson ((k, v) :: rest) = true ↔
      (∃ t, k = .text t) ∧ v.isJson = true ∧ entriesAreJson rest = true := by
  cases k <;> simp [entriesAreJson]

mutual

/-- What can be read from JSON can be shown. -/
theorem isShowable_of_isJson : ∀ {v : Value}, v.isJson = true → v.isShowable = true
  | .null, _ => rfl
  | .bool _, _ => rfl
  | .int _, h => h
  | .float _, _ => rfl
  | .text _, _ => rfl
  | .list items, h => areItemsShowable_of_areJson (show areJson items = true from h)
  | .mapping entries, h =>
    areEntriesShowable_of_entriesAreJson (show entriesAreJson entries = true from h)

theorem areItemsShowable_of_areJson :
    ∀ {items : List Value}, areJson items = true → areItemsShowable items = true
  | [], _ => rfl
  | v :: rest, h => by
    obtain ⟨hv, hrest⟩ := Bool.and_eq_true_iff.mp h
    rw [areItemsShowable, isShowable_of_isJson hv, areItemsShowable_of_areJson hrest]
    rfl

theorem areEntriesShowable_of_entriesAreJson :
    ∀ {entries : Entries}, entriesAreJson entries = true → areEntriesShowable entries = true
  | [], _ => rfl
  | (k, v) :: rest, h => by
    obtain ⟨⟨t, rfl⟩, hv, hrest⟩ := entriesAreJson_cons.mp h
    rw [areEntriesShowable, isShowable_of_isJson hv, areEntriesShowable_of_entriesAreJson hrest]
    rfl

end

theorem entriesAreJson_insert {key : Text} {v : Value} {entries : Entries}
    (hv : v.isJson = true) (h : entriesAreJson entries = true) :
    entriesAreJson (insert key v entries) = true := by
  induction entries with
  | nil => exact entriesAreJson_cons.mpr ⟨⟨key, rfl⟩, hv, rfl⟩
  | cons e rest ih =>
    obtain ⟨k, w⟩ := e
    obtain ⟨hk, hw, hrest⟩ := entriesAreJson_cons.mp h
    unfold insert
    split_ifs
    · exact entriesAreJson_cons.mpr ⟨hk, hv, hrest⟩
    · exact entriesAreJson_cons.mpr ⟨hk, hw, ih hrest⟩

end Value

namespace Json

/-! ## What is read -/

theorem allDigits_integerPart (t : Text) : (integerPart t).1.AllDigits := by
  have htake (t : Text) : (spanAsciiDigits t).1.AllDigits := fun c hc =>
    List.mem_takeWhile_imp hc
  cases t with
  | nil => exact fun _ h => absurd h List.not_mem_nil
  | cons c rest =>
    rw [integerPart]
    split_ifs with hzero
    · intro d hd
      obtain rfl := List.mem_singleton.mp hd
      rw [beq_iff_eq.mp hzero]
      decide
    · exact htake _

/-- An integer that can be read can be written. -/
theorem isWritableInt_of_digits {digits : Text} (hdigits : digits.AllDigits)
    (hshort : digits.length ≤ maxIntegerDigits) (negative : Bool) :
    Value.isWritableInt (signedInt negative ((readDigits 0 digits).getD 0)) = true := by
  have hbound : digits.digitsValue < 10 ^ maxIntegerDigits :=
    Nat.lt_of_lt_of_le (Text.digitsValue_lt_pow hdigits)
      (Nat.pow_le_pow_right (by decide) hshort)
  rw [Text.readDigits_eq hdigits]
  exact Value.isWritableInt_signedInt hbound negative

theorem isJson_of_scanNumber {negative : Bool} {whole t rest : Text} {v : Value}
    (h : scanNumber negative whole t = .ok (v, rest)) : v.isJson = true := by
  have hdigits := allDigits_integerPart t
  simp only [scanNumber] at h
  split_ifs at h with _ _ hlong
  · obtain ⟨rfl, -⟩ := Prod.mk.inj (Except.ok.inj h)
    exact isWritableInt_of_digits hdigits (Nat.not_lt.mp hlong) negative
  · obtain ⟨rfl, -⟩ := Prod.mk.inj (Except.ok.inj h)
    rfl

/-- Members are filed under texts. -/
theorem isJson_mappingOf {members : List (Text × Value)}
    (h : ∀ member ∈ members, member.2.isJson = true) : (mappingOf members).isJson = true := by
  -- over whatever entries were filed before
  have hfold : ∀ entries : Entries, Value.entriesAreJson entries = true →
      Value.entriesAreJson (members.foldl
        (fun entries member => Value.insert member.1 member.2 entries) entries) = true := by
    induction members with
    | nil => exact fun _ hentries => hentries
    | cons member rest ih =>
      obtain ⟨hmember, hrest⟩ := List.forall_mem_cons.mp h
      exact fun entries hentries => ih hrest _ (Value.entriesAreJson_insert hmember hentries)
  exact hfold [] rfl

/-- **What is read from JSON could be read from JSON**, so to speak. -/
theorem isReadInvariant_isJson : IsReadInvariant fun v => v.isJson = true where
  word := by decide
  number := isJson_of_scanNumber
  text _ := rfl
  list h := by
    rw [Value.isJson, Value.areJson_eq]
    exact List.all_eq_true.mpr h
  mapping := isJson_mappingOf

/-! ## Lines -/

theorem isBlank_newline (depth : Nat) : IsBlank (newline depth) := by
  intro c hc
  rcases List.mem_append.mp hc with hc | hc
  · obtain rfl := List.mem_singleton.mp hc
    rfl
  · obtain rfl := List.eq_of_mem_replicate hc
    rfl

/-- A block is its items between brackets, with blanks before, between and after them. -/
theorem exists_block_eq (left right : Text) (depth : Nat) (items : List Text) :
    ∃ w₀ w w', IsBlank w₀ ∧ IsBlank w ∧ IsBlank w' ∧ block left right depth items =
      left ++ (w₀ ++ (Text.join (0x2C :: w') items ++ (w ++ right))) := by
  cases items with
  | nil => exact ⟨[], [], [], isBlank_nil, isBlank_nil, isBlank_nil, rfl⟩
  | cons item rest =>
    refine ⟨_, _, _, isBlank_newline (depth + 1), isBlank_newline depth,
      isBlank_newline (depth + 1), ?_⟩
    simp only [block, List.isEmpty_cons, Bool.false_eq_true, if_false, List.append_assoc]
    rfl

theorem indentedAt_list_eq_ok {depth : Nat} {items : List Value} {s : Text} :
    indentedAt depth (.list items) = .ok s ↔
      ∃ texts, indentedItems (depth + 1) items = .ok texts ∧ s = block "[" "]" depth texts := by
  simp only [indentedAt, bind_eq_ok, pure_eq_ok]
  exact exists_congr fun _ => and_congr_right fun _ => eq_comm

theorem indentedAt_mapping_eq_ok {depth : Nat} {entries : Entries} {s : Text} :
    indentedAt depth (.mapping entries) = .ok s ↔
      ∃ texts, indentedEntries (depth + 1) entries = .ok texts ∧
        s = block "\x7b" "\x7d" depth texts := by
  simp only [indentedAt, bind_eq_ok, pure_eq_ok]
  exact exists_congr fun _ => and_congr_right fun _ => eq_comm

theorem indentedItems_cons_eq_ok {depth : Nat} {v : Value} {rest : List Value}
    {texts : List Text} :
    indentedItems depth (v :: rest) = .ok texts ↔
      ∃ first others, indentedAt depth v = .ok first ∧ indentedItems depth rest = .ok others ∧
        texts = first :: others := by
  simp only [indentedItems, bind_eq_ok, pure_eq_ok]
  constructor
  · rintro ⟨first, hfirst, others, hothers, rfl⟩
    exact ⟨first, others, hfirst, hothers, rfl⟩
  · rintro ⟨first, others, hfirst, hothers, rfl⟩
    exact ⟨first, hfirst, others, hothers, rfl⟩

theorem indentedEntries_cons_eq_ok {depth : Nat} {k v : Value} {rest : Entries}
    {texts : List Text} :
    indentedEntries depth ((k, v) :: rest) = .ok texts ↔
      ∃ key value others, keyText .lenient k = .ok key ∧ indentedAt depth v = .ok value ∧
        indentedEntries depth rest = .ok others ∧
        texts = (string key ++ 0x3A :: ([0x20] ++ value)) :: others := by
  simp only [indentedEntries, bind_eq_ok, pure_eq_ok]
  constructor
  · rintro ⟨key, hkey, value, hvalue, others, hothers, rfl⟩
    refine ⟨key, value, others, hkey, hvalue, hothers, ?_⟩
    rw [List.append_assoc]
    rfl
  · rintro ⟨key, value, others, hkey, hvalue, hothers, rfl⟩
    refine ⟨key, hkey, value, hvalue, others, hothers, ?_⟩
    rw [List.append_assoc]
    rfl

theorem exists_floatToken_lenient (x : Binary64) : ∃ s, floatToken .lenient x = .ok s := by
  cases x <;> exact ⟨_, rfl⟩

mutual

/-- **What can be read can be laid out.** -/
theorem exists_indentedAt : ∀ {v : Value}, v.isJson = true → ∀ depth,
    ∃ s, indentedAt depth v = .ok s
  | .null, _, _ => ⟨_, rfl⟩
  | .bool _, _, _ => ⟨_, rfl⟩
  | .int _, h, _ => ⟨_, if_pos h⟩
  | .float x, _, _ => exists_floatToken_lenient x
  | .text _, _, _ => ⟨_, rfl⟩
  | .list _, h, depth => by
    obtain ⟨texts, htexts⟩ := exists_indentedItems h (depth + 1)
    exact ⟨_, indentedAt_list_eq_ok.mpr ⟨texts, htexts, rfl⟩⟩
  | .mapping _, h, depth => by
    obtain ⟨texts, htexts⟩ := exists_indentedEntries h (depth + 1)
    exact ⟨_, indentedAt_mapping_eq_ok.mpr ⟨texts, htexts, rfl⟩⟩

theorem exists_indentedItems : ∀ {items : List Value}, Value.areJson items = true → ∀ depth,
    ∃ texts, indentedItems depth items = .ok texts
  | [], _, _ => ⟨[], rfl⟩
  | v :: rest, h, depth => by
    rw [Value.areJson, Bool.and_eq_true] at h
    obtain ⟨first, hfirst⟩ := exists_indentedAt h.1 depth
    obtain ⟨others, hothers⟩ := exists_indentedItems h.2 depth
    exact ⟨_, indentedItems_cons_eq_ok.mpr ⟨first, others, hfirst, hothers, rfl⟩⟩

theorem exists_indentedEntries : ∀ {entries : Entries}, Value.entriesAreJson entries = true →
    ∀ depth, ∃ texts, indentedEntries depth entries = .ok texts
  | [], _, _ => ⟨[], rfl⟩
  | (k, v) :: rest, h, depth => by
    obtain ⟨⟨key, rfl⟩, hv, hrest⟩ := Value.entriesAreJson_cons.mp h
    obtain ⟨value, hvalue⟩ := exists_indentedAt hv depth
    obtain ⟨others, hothers⟩ := exists_indentedEntries hrest depth
    exact ⟨_, indentedEntries_cons_eq_ok.mpr ⟨key, value, others, rfl, hvalue, hothers, rfl⟩⟩

end

/-! ## Code points -/

/-- The printable characters of ASCII and the line break pass. -/
structure PassesAscii (p : CodePoint → Bool) : Prop where
  /-- printable characters pass -/
  printable {c : CodePoint} : 0x20 ≤ c.val → c.val < 0x7F → p c = true
  /-- the line break passes -/
  line : p 0x0A = true

namespace PassesAscii

variable {p : CodePoint → Bool} (hp : PassesAscii p)
include hp

theorem all_of_isToken {t : Text} (h : IsToken t) : t.all p = true :=
  List.all_eq_true.mpr fun c hc => hp.printable (h c hc).1 (h c hc).2

/-- Control characters are escaped, and other code points pass if they do. -/
theorem all_escape (c : CodePoint) :
    (escape c).all p = (decide (c.val < 0x20) || p c) := by
  rcases escape_cases c with ⟨e, he, hmem⟩ | ⟨hlt, he⟩ | ⟨hge, -, -, he⟩
  · have hall : shortEscapes.all (fun q => decide (IsToken [0x5C, q.1] ∧
        (q.2.val < 0x20 ∨ (0x20 ≤ q.2.val ∧ q.2.val < 0x7F)))) = true := by
      decide
    obtain ⟨htoken, hpoint⟩ := of_decide_eq_true (List.all_eq_true.mp hall _ hmem)
    rw [he, hp.all_of_isToken htoken]
    rcases hpoint with hlt | ⟨hlow, hhigh⟩
    · rw [decide_eq_true hlt, Bool.true_or]
    · rw [hp.printable hlow hhigh, Bool.or_true]
  · have hall : ∀ n < 0x20, IsToken (0x5C :: ('u' : CodePoint) :: Text.hexPadded 4 n) := by
      decide
    rw [he, hp.all_of_isToken (hall _ hlt), decide_eq_true hlt, Bool.true_or]
  · rw [he, decide_eq_false (Nat.not_lt.mpr hge), Bool.false_or, List.all_cons, List.all_nil,
      Bool.and_true]

theorem all_string (t : Text) :
    (string t).all p = t.all fun c => decide (c.val < 0x20) || p c := by
  have hquote : p 0x22 = true := hp.printable (by decide) (by decide)
  rw [string_eq, List.all_cons, List.all_append, List.all_cons, List.all_nil, hquote,
    Bool.true_and, Bool.and_true, Bool.and_true, List.all_flatMap]
  exact congrArg _ (funext hp.all_escape)

theorem all_newline (depth : Nat) : (newline depth).all p = true := by
  refine List.all_eq_true.mpr fun c hc => ?_
  rcases List.mem_append.mp hc with hc | hc
  · obtain rfl := List.mem_singleton.mp hc
    exact hp.line
  · rw [List.eq_of_mem_replicate hc]
    exact hp.printable (by decide) (by decide)

theorem all_block {left right : Text} (hleft : IsToken left) (hright : IsToken right)
    (depth : Nat) (texts : List Text) :
    (block left right depth texts).all p = texts.all (·.all p) := by
  have hseparator : (("," : Text) ++ newline (depth + 1)).all p = true := by
    rw [List.all_append, hp.all_of_isToken (t := ",") (by decide), hp.all_newline]
    rfl
  unfold block
  split_ifs with hempty
  · rw [List.isEmpty_iff.mp hempty, List.all_append, hp.all_of_isToken hleft,
      hp.all_of_isToken hright]
    rfl
  · simp only [List.all_append, hp.all_of_isToken hleft, hp.all_of_isToken hright,
      hp.all_newline, Text.all_join hseparator, Bool.true_and, Bool.and_true]

end PassesAscii

mutual

/-- **The text of a value passes exactly if the texts in the value do**, their control characters
left out of account: they are escaped. -/
theorem PassesAscii.all_indentedAt {p : CodePoint → Bool} (hp : PassesAscii p) :
    ∀ {v : Value} {depth : Nat} {s : Text}, v.isJson = true → indentedAt depth v = .ok s →
      s.all p = v.allPoints fun c => decide (c.val < 0x20) || p c
  | .null, _, s, _, h => Except.ok.inj h ▸ hp.all_of_isToken (by decide)
  | .bool b, _, s, _, h => by
    obtain rfl := Except.ok.inj h
    cases b <;> exact hp.all_of_isToken (by decide)
  | .int n, _, s, _, h => hp.all_of_isToken (isToken_of_integerToken h)
  | .float x, _, s, _, h => hp.all_of_isToken (isToken_of_floatToken h)
  | .text t, _, s, _, h => Except.ok.inj h ▸ hp.all_string t
  | .list items, depth, s, hjson, h => by
    obtain ⟨texts, htexts, rfl⟩ := indentedAt_list_eq_ok.mp h
    rw [hp.all_block (by decide) (by decide), hp.all_indentedItems hjson htexts, Value.allPoints]
  | .mapping entries, depth, s, hjson, h => by
    obtain ⟨texts, htexts, rfl⟩ := indentedAt_mapping_eq_ok.mp h
    rw [hp.all_block (by decide) (by decide), hp.all_indentedEntries hjson htexts,
      Value.allPoints]

theorem PassesAscii.all_indentedItems {p : CodePoint → Bool} (hp : PassesAscii p) :
    ∀ {items : List Value} {depth : Nat} {texts : List Text}, Value.areJson items = true →
      indentedItems depth items = .ok texts →
        texts.all (·.all p) = Value.allPointsOf (fun c => decide (c.val < 0x20) || p c) items
  | [], _, texts, _, h => Except.ok.inj h ▸ rfl
  | v :: rest, _, texts, hjson, h => by
    rw [Value.areJson, Bool.and_eq_true] at hjson
    obtain ⟨first, others, hfirst, hothers, rfl⟩ := indentedItems_cons_eq_ok.mp h
    rw [List.all_cons, hp.all_indentedAt hjson.1 hfirst, hp.all_indentedItems hjson.2 hothers,
      Value.allPointsOf]

theorem PassesAscii.all_indentedEntries {p : CodePoint → Bool} (hp : PassesAscii p) :
    ∀ {entries : Entries} {depth : Nat} {texts : List Text},
      Value.entriesAreJson entries = true → indentedEntries depth entries = .ok texts →
        texts.all (·.all p) = Value.allPointsIn (fun c => decide (c.val < 0x20) || p c) entries
  | [], _, texts, _, h => Except.ok.inj h ▸ rfl
  | (k, v) :: rest, _, texts, hjson, h => by
    obtain ⟨⟨t, rfl⟩, hv, hrest⟩ := Value.entriesAreJson_cons.mp hjson
    obtain ⟨key, value, others, hkey, hvalue, hothers, rfl⟩ := indentedEntries_cons_eq_ok.mp h
    obtain rfl := Except.ok.inj hkey
    rw [List.all_cons, List.all_append, hp.all_string, List.all_cons, List.all_append,
      hp.all_of_isToken (t := [0x20]) (by decide), hp.printable (c := 0x3A) (by decide) (by decide),
      hp.all_indentedAt hv hvalue, hp.all_indentedEntries hrest hothers, Value.allPointsIn]
    rfl

end

theorem passesAscii_encodable : PassesAscii fun c => !c.isSurrogate where
  printable _ hhigh := by
    rw [Bool.not_eq_true', CodePoint.isSurrogate_eq_false_iff]
    omega
  line := rfl

/-- A text that is laid out is encodable exactly if the texts in the value are. -/
theorem isEncodable_indentedAt {v : Value} {depth : Nat} {s : Text} (hjson : v.isJson = true)
    (h : indentedAt depth v = .ok s) : s.isEncodable = v.isEncodable := by
  refine (passesAscii_encodable.all_indentedAt hjson h).trans ?_
  refine congrArg (v.allPoints ·) (funext fun c => ?_)
  cases hc : c.isSurrogate with
  | false => exact Bool.or_true _
  | true =>
    rw [Bool.not_true, Bool.or_false, decide_eq_false_iff_not]
    simp only [CodePoint.isSurrogate, Bool.and_eq_true, decide_eq_true_eq] at hc
    omega

/-! ## Reading back -/

/-- The value is laid out as a JSON text for itself. -/
def IsFaithful (v : Value) : Prop :=
  ∀ depth, ∃ s, indentedAt depth v = .ok s ∧ Denotes .distinct s v

theorem isFaithful_null : IsFaithful .null := fun _ => ⟨_, rfl, .null⟩

theorem isFaithful_bool (b : Bool) : IsFaithful (.bool b) := fun _ => ⟨_, rfl, .bool b⟩

theorem isFaithful_text (t : Text) : IsFaithful (.text t) := fun _ =>
  ⟨_, rfl, denotes_string .distinct t⟩

theorem isFaithful_list {items : List Value} (h : ∀ v ∈ items, IsFaithful v) :
    IsFaithful (.list items) := by
  intro depth
  have hitems : ∃ texts, indentedItems (depth + 1) items = .ok texts ∧
      List.Forall₂ (Denotes .distinct) texts items := by
    induction items with
    | nil => exact ⟨[], rfl, .nil⟩
    | cons v rest ih =>
      obtain ⟨hv, hrest⟩ := List.forall_mem_cons.mp h
      obtain ⟨first, hfirst, hdenotes⟩ := hv (depth + 1)
      obtain ⟨others, hothers, hothersDenote⟩ := ih hrest
      exact ⟨_, indentedItems_cons_eq_ok.mpr ⟨first, others, hfirst, hothers, rfl⟩,
        .cons hdenotes hothersDenote⟩
  obtain ⟨texts, htexts, hdenote⟩ := hitems
  obtain ⟨w₀, w, w', hw₀, hw, hw', hblock⟩ := exists_block_eq "[" "]" depth texts
  refine ⟨_, indentedAt_list_eq_ok.mpr ⟨texts, htexts, rfl⟩, ?_⟩
  rw [hblock]
  exact denotes_list hw₀ hw hw' hdenote

/-- A record with distinct names is, if its values are. -/
theorem isFaithful_record {fields : List (Text × Value)} (hnames : (fields.map Prod.fst).Nodup)
    (h : ∀ field ∈ fields, IsFaithful field.2) : IsFaithful (.record fields) := by
  intro depth
  have hentries : ∃ texts, indentedEntries (depth + 1)
      (fields.map fun field => (Value.text field.1, field.2)) = .ok texts ∧
        List.Forall₂ (IsMember .distinct) texts fields := by
    clear hnames
    induction fields with
    | nil => exact ⟨[], rfl, .nil⟩
    | cons field rest ih =>
      obtain ⟨hfield, hrest⟩ := List.forall_mem_cons.mp h
      obtain ⟨value, hvalue, hdenotes⟩ := hfield (depth + 1)
      obtain ⟨others, hothers, hothersDenote⟩ := ih hrest
      exact ⟨_, indentedEntries_cons_eq_ok.mpr ⟨_, value, others, rfl, hvalue, hothers, rfl⟩,
        .cons ⟨[0x20], value, List.forall_mem_singleton.mpr rfl, rfl, hdenotes⟩ hothersDenote⟩
  obtain ⟨texts, htexts, hdenote⟩ := hentries
  obtain ⟨w₀, w, w', hw₀, hw, hw', hblock⟩ := exists_block_eq "\x7b" "\x7d" depth texts
  refine ⟨_, indentedAt_mapping_eq_ok.mpr ⟨texts, htexts, rfl⟩, ?_⟩
  rw [hblock, Value.record, ← mappingOf_of_nodup hnames]
  exact denotes_mapping hw₀ hw hw' hdenote hnames

end Json

end ProfileFilter
