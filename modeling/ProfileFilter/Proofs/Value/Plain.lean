import ProfileFilter.Compile.Node
import Mathlib.Data.List.Nodup

/-!
# Plain values

The values that JSON can carry: everything but dates, with texts for keys and no key
twice in a mapping. `Value.isPlain` decides it, and `FilterSet.IsPlain` asks it of all
values entered in a filter set.

JSON does not tell a fixed sequence from a list, nor two floats that are shown alike.
`Same` is equality of plain values up to these two.
-/

namespace ProfileFilter

namespace Value

/-- Is the value a mapping? -/
def isMapping : Value → Bool
  | .mapping _ => true
  | _ => false

mutual

/-- Is the value free of dates, and are the keys of its mappings distinct texts? -/
def isPlain : Value → Bool
  | .date _ | .dateTime _ => false
  | .list items | .tuple items => areItemsPlain items
  | .mapping entries => decide (entries.map Prod.fst).Nodup && areEntriesPlain entries
  | _ => true

/-- Are all items plain? -/
def areItemsPlain : List Value → Bool
  | [] => true
  | v :: rest => isPlain v && areItemsPlain rest

/-- Are all keys texts, and all values plain? -/
def areEntriesPlain : List (Value × Value) → Bool
  | [] => true
  | (.text _, v) :: rest => isPlain v && areEntriesPlain rest
  | _ => false

end

mutual

/-- Are two values equal, fixed sequences taken for lists and floats for their tokens? -/
inductive Same : Value → Value → Prop where
  /-- null -/
  | null : Same .null .null
  /-- truth values -/
  | bool (b : Bool) : Same (.bool b) (.bool b)
  /-- integers -/
  | int (n : Int) : Same (.int n) (.int n)
  /-- floats that are shown alike -/
  | float {x y : Binary64} : x.shown = y.shown → Same (.float x) (.float y)
  /-- texts -/
  | text (t : Text) : Same (.text t) (.text t)
  /-- lists or fixed sequences of the same elements -/
  | sequence {v w : Value} {xs ys : List Value} :
    v.elements? = some xs → w.elements? = some ys → SameItems xs ys → Same v w
  /-- mappings with the same entries in the same order -/
  | mapping {es fs : Entries} : SameEntries es fs → Same (.mapping es) (.mapping fs)

/-- Are two lists equal, item by item? -/
inductive SameItems : List Value → List Value → Prop where
  /-- no items -/
  | nil : SameItems [] []
  /-- a first item, and the others -/
  | cons {v w : Value} {xs ys : List Value} :
    Same v w → SameItems xs ys → SameItems (v :: xs) (w :: ys)

/-- Do two mappings have the same keys in the same order, and equal values? -/
inductive SameEntries : Entries → Entries → Prop where
  /-- no entries -/
  | nil : SameEntries [] []
  /-- a first entry, and the others -/
  | cons (k : Text) {v w : Value} {es fs : Entries} :
    Same v w → SameEntries es fs → SameEntries ((.text k, v) :: es) ((.text k, w) :: fs)

end

/-! ## Keys -/

theorem areEntriesPlain_cons {k v : Value} {rest : Entries} :
    areEntriesPlain ((k, v) :: rest) = true ↔
      (∃ t, k = .text t) ∧ v.isPlain = true ∧ areEntriesPlain rest = true := by
  cases k <;> simp [areEntriesPlain]

theorem isPlain_mapping {entries : Entries} :
    (Value.mapping entries).isPlain = true ↔
      (entries.map Prod.fst).Nodup ∧ areEntriesPlain entries = true := by
  rw [isPlain, Bool.and_eq_true, decide_eq_true_eq]

theorem SameEntries.keys_eq : ∀ {es fs : Entries}, SameEntries es fs →
    es.map Prod.fst = fs.map Prod.fst
  | _, _, .nil => rfl
  | _, _, .cons k _ h => by rw [List.map_cons, List.map_cons, SameEntries.keys_eq h]

/-- A new key is filed at the end. -/
theorem insert_of_notMem {key : Text} {v : Value} {entries : Entries}
    (h : .text key ∉ entries.map Prod.fst) :
    insert key v entries = entries ++ [(.text key, v)] := by
  induction entries with
  | nil => rfl
  | cons entry rest ih =>
    obtain ⟨k, w⟩ := entry
    obtain ⟨hne, hrest⟩ := not_or.mp (fun hor => h (List.mem_cons.mpr hor))
    rw [insert, if_neg (by simpa using Ne.symm hne), ih hrest, List.cons_append]

/-! ## Values that equal the same one -/

mutual

theorem Same.of_same {u v : Value} : ∀ {w : Value}, Same u w → Same v w → Same u v
  | _, .null, h => by
    cases h with
    | null => exact .null
    | sequence _ hw _ => cases hw
  | _, .bool b, h => by
    cases h with
    | bool => exact .bool b
    | sequence _ hw _ => cases hw
  | _, .int n, h => by
    cases h with
    | int => exact .int n
    | sequence _ hw _ => cases hw
  | _, .float hx, h => by
    cases h with
    | float hy => exact .float (hx.trans hy.symm)
    | sequence _ hw _ => cases hw
  | _, .text t, h => by
    cases h with
    | text => exact .text t
    | sequence _ hw _ => cases hw
  | w, .sequence hu hw hitems, h => by
    cases h with
    | sequence hv hw' hitems' =>
      rw [hw] at hw'
      cases hw'
      exact .sequence hu hv (SameItems.of_same hitems hitems')
    | _ => cases hw
  | _, .mapping hentries, h => by
    cases h with
    | mapping hentries' => exact .mapping (SameEntries.of_same hentries hentries')
    | sequence _ hw _ => cases hw

theorem SameItems.of_same {xs ys : List Value} :
    ∀ {zs : List Value}, SameItems xs zs → SameItems ys zs → SameItems xs ys
  | _, .nil, h => by
    cases h
    exact .nil
  | _, .cons hv hitems, h => by
    cases h with
    | cons hw hitems' => exact .cons (Same.of_same hv hw) (SameItems.of_same hitems hitems')

theorem SameEntries.of_same {es fs : Entries} :
    ∀ {gs : Entries}, SameEntries es gs → SameEntries fs gs → SameEntries es fs
  | _, .nil, h => by
    cases h
    exact .nil
  | _, .cons k hv hentries, h => by
    cases h with
    | cons _ hw hentries' =>
      exact .cons k (Same.of_same hv hw) (SameEntries.of_same hentries hentries')

end

end Value

end ProfileFilter
