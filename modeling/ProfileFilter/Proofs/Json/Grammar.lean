import ProfileFilter.Proofs.Json.FloatToken

/-!
# The grammar of JSON

`Denotes keys s v` says that the text `s` is a JSON text for the value `v`. It is stated
without the reader and the printer, so that each can be measured against it: the reader
takes every text of the grammar for the value it denotes, and what the printer writes is
a text of the grammar.

The grammar is the strict one. It has no words for numbers that are not finite, no
control character inside a string and no comma before a closing bracket. `KeyRule` says
whether an object may give a key twice; if it may, the later value counts. Quotes,
backslashes, brackets, commas and colons are written by their code points.
-/

namespace ProfileFilter

namespace Json

/-! ## Strings -/

/-- The letters that may follow a backslash, and the code points they stand for. -/
def shortEscapes : List (CodePoint × CodePoint) :=
  [('"', '"'), ('\\', '\\'), ('/', '/'), ('b', 0x08), ('f', 0x0C), ('n', 0x0A), ('r', 0x0D),
    ('t', 0x09)]

/-- A string after its opening quote, the closing one included, and its pieces. -/
inductive Quoted : Text → List Piece → Prop where
  /-- the closing quote -/
  | close : Quoted [0x22] []
  /-- a code point as itself -/
  | plain {c : CodePoint} {t : Text} {pieces : List Piece} :
    0x20 ≤ c.val → c ≠ 0x22 → c ≠ 0x5C → Quoted t pieces → Quoted (c :: t) (.point c :: pieces)
  /-- a backslash and a letter -/
  | short {e c : CodePoint} {t : Text} {pieces : List Piece} :
    (e, c) ∈ shortEscapes → Quoted t pieces → Quoted (0x5C :: e :: t) (.point c :: pieces)
  /-- a backslash, the letter `u` and four hexadecimal digits -/
  | unit {h₁ h₂ h₃ h₄ : CodePoint} {n : Nat} {t : Text} {pieces : List Piece} :
    hex4? h₁ h₂ h₃ h₄ = some n → Quoted t pieces →
    Quoted (0x5C :: 'u' :: h₁ :: h₂ :: h₃ :: h₄ :: t) (.unit n :: pieces)

/-! ## Values -/

/-- A text of blanks. -/
def IsBlank (w : Text) : Prop := ∀ c ∈ w, isSpace c = true

/-- May an object give a key twice? -/
inductive KeyRule where
  /-- the keys of an object are distinct -/
  | distinct
  /-- keys may repeat -/
  | any

/-- The rule admits an object with these keys. -/
def KeyRule.Admits : KeyRule → List Text → Prop
  | .distinct, keys => keys.Nodup
  | .any, _ => True

mutual

/-- The text is a JSON text for the value. -/
inductive Denotes (keys : KeyRule) : Text → Value → Prop where
  /-- the word `null` -/
  | null : Denotes keys "null" .null
  /-- the words `true` and `false` -/
  | bool (b : Bool) : Denotes keys (if b then "true" else "false" : Text) (.bool b)
  /-- a number -/
  | number {n : Numeral} : n.IsValid → Denotes keys n.text n.value
  /-- a string -/
  | string {t : Text} {pieces : List Piece} :
    Quoted t pieces → Denotes keys (0x22 :: t) (.text (spell pieces))
  /-- an array without items -/
  | emptyList {w : Text} : IsBlank w → Denotes keys (0x5B :: (w ++ [0x5D])) (.list [])
  /-- an array -/
  | list {w t : Text} {items : List Value} :
    IsBlank w → Items keys t items → Denotes keys (0x5B :: (w ++ t)) (.list items)
  /-- an object without members -/
  | emptyMapping {w : Text} :
    IsBlank w → Denotes keys (0x7B :: (w ++ [0x7D])) (.mapping [])
  /-- an object -/
  | mapping {w t : Text} {members : List (Text × Value)} :
    IsBlank w → Members keys t members → keys.Admits (members.map Prod.fst) →
    Denotes keys (0x7B :: (w ++ t)) (mappingOf members)

/-- The text of one or more items, the closing bracket included. -/
inductive Items (keys : KeyRule) : Text → List Value → Prop where
  /-- the last item -/
  | last {s w : Text} {v : Value} :
    Denotes keys s v → IsBlank w → Items keys (s ++ (w ++ [0x5D])) [v]
  /-- an item before others -/
  | more {s w w' t : Text} {v : Value} {items : List Value} :
    Denotes keys s v → IsBlank w → IsBlank w' → Items keys t items →
    Items keys (s ++ (w ++ 0x2C :: (w' ++ t))) (v :: items)

/-- The text of one or more members, the closing brace included. -/
inductive Members (keys : KeyRule) : Text → List (Text × Value) → Prop where
  /-- the last member -/
  | last {k w₁ w₂ s w₃ : Text} {pieces : List Piece} {v : Value} :
    Quoted k pieces → IsBlank w₁ → IsBlank w₂ → Denotes keys s v → IsBlank w₃ →
    Members keys (0x22 :: (k ++ (w₁ ++ 0x3A :: (w₂ ++ (s ++ (w₃ ++ [0x7D])))))) [(spell pieces, v)]
  /-- a member before others -/
  | more {k w₁ w₂ s w₃ w₄ t : Text} {pieces : List Piece} {v : Value}
      {members : List (Text × Value)} :
    Quoted k pieces → IsBlank w₁ → IsBlank w₂ → Denotes keys s v → IsBlank w₃ → IsBlank w₄ →
    Members keys t members →
    Members keys (0x22 :: (k ++ (w₁ ++ 0x3A :: (w₂ ++ (s ++ (w₃ ++ 0x2C :: (w₄ ++ t)))))))
      ((spell pieces, v) :: members)

end

end Json

end ProfileFilter
