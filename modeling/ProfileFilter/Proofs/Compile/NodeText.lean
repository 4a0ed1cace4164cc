import ProfileFilter.Proofs.Compile.Clauses
import ProfileFilter.Proofs.Json.SameText

/-!
# Nodes can be told from their text

The keys of a node are of two kinds: names of fields, and keys that start with the
operator marker. As long as no name starts with the marker, the text of a node tells
where its path ends and which operator it has, whether the operator stands around the
path (`FlatShape.around`), at its end, or nowhere (`Under`).

The leaf must not be a mapping, for its keys would read on like the path.
-/

namespace ProfileFilter

open Json

/-! ## Marked keys -/

/-- Does the key start with the operator marker? -/
def isMarked (key : Text) : Bool := key.head? == some operatorMarker

namespace OperatorCode

theorem eq_code_of_ofCode? {code : Text} {op : OperatorCode} (h : ofCode? code = some op) :
    code = op.code := by
  have hfound := List.find?_some h
  exact (beq_iff_eq.mp hfound).symm

theorem isMarked_code (op : OperatorCode) : isMarked op.code = true := by
  cases op <;> rfl

theorem ofCode?_code (op : OperatorCode) : ofCode? op.code = some op := by
  cases op <;> rfl

/-- No two operators share a code. -/
theorem code_inj {op op' : OperatorCode} (h : (op.code : Text) = op'.code) : op = op' := by
  have hcode := ofCode?_code op
  rw [h, ofCode?_code] at hcode
  exact (Option.some.inj hcode).symm

theorem code_ne_modeKey (op : OperatorCode) (mode : ListMode) : (op.code : Text) ≠ mode.key := by
  cases op <;> cases mode <;> decide

theorem code_ne_logicKey (op : OperatorCode) (logic : Logic) :
    (op.code : Text) ≠ logic.key := by
  cases op <;> cases logic <;> decide

end OperatorCode

/-- An operator of the catalog has its code for its canonical spelling. -/
theorem canonicalOperator?_eq {spelling : Option Text} {op : OperatorCode}
    (h : findOperator? spelling = some op) :
    canonicalOperator? spelling = some (op.code : Text) := by
  obtain ⟨code, hcode, hop⟩ := Option.bind_eq_some_iff.mp h
  rw [hcode, OperatorCode.eq_code_of_ofCode? hop]

theorem isMarked_modeKey (mode : ListMode) : isMarked mode.key = true := by
  cases mode <;> rfl

theorem isMarked_logicKey (logic : Logic) : isMarked logic.key = true := by
  cases logic <;> rfl

theorem modeKey_inj {mode mode' : ListMode} (h : (mode.key : Text) = mode'.key) :
    mode = mode' := by
  cases mode <;> cases mode' <;> first | rfl | exact absurd h (by decide)

theorem logicKey_inj {logic logic' : Logic} (h : (logic.key : Text) = logic'.key) :
    logic = logic' := by
  cases logic <;> cases logic' <;> first | rfl | exact absurd h (by decide)

/-! ## Paths -/

/-- A path can end in this value: it is no mapping, or its key is marked. -/
def IsEnd (v : Value) : Prop :=
  v.isMapping = false ∨ ∃ key w, v = single key w ∧ isMarked key = true

/-- Where a path can end, it does not go on. -/
theorem IsEnd.not_sameText {v w : Value} {key : Text} (hv : IsEnd v)
    (hkey : isMarked key = false) : ¬ SameText v (single key w) := by
  intro h
  rcases hv with hv | ⟨key', w', rfl, hkey'⟩
  · rw [SameText.isMapping h] at hv
    cases hv
  · obtain ⟨rfl, -⟩ := sameText_single h
    rw [hkey] at hkey'
    cases hkey'

/-- **A path and its end can be told from the text.** -/
theorem sameText_nestSegments {segments segments' : List Text} {v w : Value}
    (hsegments : ∀ s ∈ segments, isMarked s = false)
    (hsegments' : ∀ s ∈ segments', isMarked s = false) (hv : IsEnd v) (hw : IsEnd w)
    (h : SameText (nestSegments segments v) (nestSegments segments' w)) :
    segments = segments' ∧ SameText v w := by
  induction segments generalizing segments' with
  | nil =>
    cases segments' with
    | nil => exact ⟨rfl, h⟩
    | cons s' rest' => exact absurd h (hv.not_sameText (hsegments' s' List.mem_cons_self))
  | cons s rest ih =>
    cases segments' with
    | nil => exact absurd h.symm (hw.not_sameText (hsegments s List.mem_cons_self))
    | cons s' rest' =>
      obtain ⟨rfl, hrest⟩ := sameText_single h
      obtain ⟨rfl, hends⟩ := ih (List.forall_mem_cons.mp hsegments).2
        (List.forall_mem_cons.mp hsegments').2 hrest
      exact ⟨rfl, hends⟩

/-- Is no segment of the path marked? -/
def isPlainPath (path : Text) : Bool := (path.splitOn '.').all fun segment => !isMarked segment

theorem isMarked_of_isPlainPath {path : Text} (h : isPlainPath path = true) :
    ∀ s ∈ path.splitOn '.', isMarked s = false := by
  simpa [isPlainPath] using h

theorem sameText_nestPath {path path' : Text} {v w : Value} (hpath : isPlainPath path = true)
    (hpath' : isPlainPath path' = true) (hv : IsEnd v) (hw : IsEnd w)
    (h : SameText (nestPath path v) (nestPath path' w)) : path = path' ∧ SameText v w := by
  obtain ⟨hsplit, hends⟩ := sameText_nestSegments (isMarked_of_isPlainPath hpath)
    (isMarked_of_isPlainPath hpath') hv hw h
  refine ⟨?_, hends⟩
  rw [← path.join_splitOn '.', hsplit, path'.join_splitOn '.']

/-- A path begins with a key that is not marked. -/
theorem exists_nestPath_eq {path : Text} (hpath : isPlainPath path = true) (v : Value) :
    ∃ key w, nestPath path v = single key w ∧ isMarked key = false := by
  obtain ⟨segment, segments, hsplit⟩ := List.exists_cons_of_ne_nil (path.splitOn_ne_nil '.')
  refine ⟨segment, nestSegments segments v, by rw [nestPath, hsplit]; rfl, ?_⟩
  exact isMarked_of_isPlainPath hpath segment (hsplit ▸ List.mem_cons_self)

/-! ## Operators -/

/-- The value `node` is `v` under an operator, which equality need not show. -/
inductive Under (op : OperatorCode) (v : Value) : Value → Prop where
  /-- the operator is shown -/
  | shown : Under op v (single op.code v)
  /-- the operator is equality, and is not shown -/
  | equality : op = .eq → Under op v v

/-- No marked key stands around the value. -/
def IsBare (v : Value) : Prop := ∀ key w, isMarked key = true → ¬ SameText v (single key w)

theorem isBare_of_not_isMapping {v : Value} (h : v.isMapping = false) : IsBare v := by
  intro key w _ hsame
  rw [SameText.isMapping hsame] at h
  cases h

theorem isBare_single {key : Text} (h : isMarked key = false) (v : Value) :
    IsBare (single key v) := by
  intro key' w hkey' hsame
  obtain ⟨rfl, -⟩ := sameText_single hsame
  rw [h] at hkey'
  cases hkey'

theorem Under.isEnd {op : OperatorCode} {v node : Value} (h : Under op v node)
    (hv : v.isMapping = false) : IsEnd node := by
  cases h with
  | shown => exact .inr ⟨op.code, v, rfl, op.isMarked_code⟩
  | equality _ => exact .inl hv

/-- **The operator can be told from the text**, also where it is not shown. -/
theorem Under.agree {op op' : OperatorCode} {v v' node node' : Value} (h : Under op v node)
    (h' : Under op' v' node') (hv : IsBare v) (hv' : IsBare v') (hsame : SameText node node') :
    op = op' ∧ SameText v v' := by
  cases h with
  | shown =>
    cases h' with
    | shown =>
      obtain ⟨hcode, hvs⟩ := sameText_single hsame
      exact ⟨OperatorCode.code_inj hcode, hvs⟩
    | equality _ => exact absurd hsame.symm (hv' _ _ op.isMarked_code)
  | equality hop =>
    cases h' with
    | shown => exact absurd hsame (hv _ _ op'.isMarked_code)
    | equality hop' => exact ⟨hop.trans hop'.symm, hsame⟩

/-- The node of a flat condition: the operator stands around the path or at its end. -/
inductive FlatShape (op : OperatorCode) (path : Text) (leaf : Value) : Value → Prop where
  /-- the operator stands around the path -/
  | around : FlatShape op path leaf (single op.code (nestPath path leaf))
  /-- the operator stands at the end of the path -/
  | inside {v : Value} : Under op leaf v → FlatShape op path leaf (nestPath path v)

/-- The outermost key of a flat node is neither the key of a mode nor that of a logic. -/
theorem FlatShape.exists_key {op : OperatorCode} {path : Text} {leaf node : Value}
    (h : FlatShape op path leaf node) (hpath : isPlainPath path = true) :
    ∃ key w, node = single key w ∧ (∀ mode : ListMode, key ≠ mode.key) ∧
      ∀ logic : Logic, key ≠ logic.key := by
  cases h with
  | around => exact ⟨op.code, _, rfl, op.code_ne_modeKey, op.code_ne_logicKey⟩
  | inside _ =>
    obtain ⟨key, w, heq, hkey⟩ := exists_nestPath_eq hpath _
    refine ⟨key, w, heq, ?_, ?_⟩
    · rintro mode rfl
      rw [isMarked_modeKey] at hkey
      cases hkey
    · rintro logic rfl
      rw [isMarked_logicKey] at hkey
      cases hkey

/-- **Path, operator and leaf of a flat node can be told from its text.** -/
theorem FlatShape.agree {op op' : OperatorCode} {path path' : Text} {leaf leaf' node node' : Value}
    (h : FlatShape op path leaf node) (h' : FlatShape op' path' leaf' node')
    (hpath : isPlainPath path = true) (hpath' : isPlainPath path' = true)
    (hleaf : leaf.isMapping = false) (hleaf' : leaf'.isMapping = false)
    (hsame : SameText node node') : path = path' ∧ op = op' ∧ SameText leaf leaf' := by
  -- a path begins with a name, an operator around it with a marked key
  have hmixed : ∀ {op : OperatorCode} {path : Text} {v w : Value}, isPlainPath path = true →
      ¬ SameText (single op.code v) (nestPath path w) := by
    intro op path v w hpath hsame
    obtain ⟨key, w', heq, hkey⟩ := exists_nestPath_eq hpath w
    rw [heq] at hsame
    obtain ⟨hcode, -⟩ := sameText_single hsame
    rw [← hcode, op.isMarked_code] at hkey
    cases hkey
  cases h with
  | around =>
    cases h' with
    | around =>
      obtain ⟨hcode, hpaths⟩ := sameText_single hsame
      obtain ⟨rfl, hleaves⟩ := sameText_nestPath hpath hpath' (.inl hleaf) (.inl hleaf') hpaths
      exact ⟨rfl, OperatorCode.code_inj hcode, hleaves⟩
    | inside _ => exact absurd hsame (hmixed hpath')
  | inside hunder =>
    cases h' with
    | around => exact absurd hsame.symm (hmixed hpath)
    | inside hunder' =>
      obtain ⟨rfl, hends⟩ :=
        sameText_nestPath hpath hpath' (hunder.isEnd hleaf) (hunder'.isEnd hleaf') hsame
      exact ⟨rfl, hunder.agree hunder' (isBare_of_not_isMapping hleaf)
        (isBare_of_not_isMapping hleaf') hends⟩

end ProfileFilter
