import ProfileFilter.Number.Binary64

/-!
# Document values

`Value` is what a filter document, an attribute listing or an API answer is made of:
the JSON kinds, and the few more that a configuration document can produce (dates,
fixed sequences, and mappings whose keys are not texts). Mappings keep the order in
which their entries were written.

Three kinds of a configuration document are left out: times with an offset from universal
time, bytes, and sets. Statements about every document are about those without them.
-/

namespace ProfileFilter

/-- A calendar day. -/
structure Date where
  /-- the year -/
  year : Nat
  /-- the month, from 1 -/
  month : Nat
  /-- the day of the month, from 1 -/
  day : Nat
deriving DecidableEq, Repr, Inhabited

/-- A day with a time of day. There is no time zone; times with an offset are left out. -/
structure DateTime where
  /-- the day -/
  date : Date
  /-- the hour -/
  hour : Nat
  /-- the minute -/
  minute : Nat
  /-- the second -/
  second : Nat
  /-- the microsecond -/
  microsecond : Nat
deriving DecidableEq, Repr, Inhabited

/-- A document value. -/
inductive Value where
  /-- the absent value -/
  | null
  /-- a truth value -/
  | bool (b : Bool)
  /-- an integer of any size -/
  | int (n : Int)
  /-- a floating-point number -/
  | float (x : Binary64)
  /-- a text -/
  | text (t : Text)
  /-- a day -/
  | date (d : Date)
  /-- a day with a time -/
  | dateTime (d : DateTime)
  /-- a list -/
  | list (items : List Value)
  /-- a fixed sequence, which is shown with parentheses and otherwise behaves like a list -/
  | tuple (items : List Value)
  /-- a mapping, in the order its entries were written -/
  | mapping (entries : List (Value × Value))
deriving Repr, Inhabited

/-- The entries of a mapping. -/
abbrev Entries := List (Value × Value)

namespace Value

instance : Coe Text Value := ⟨Value.text⟩

/-! ## Equality

Two values are equal when they are built alike. A list and a fixed sequence of the same
elements are different values, and so are mappings whose entries stand in another order.
-/

mutual

/-- Are two values built alike? -/
def beq : Value → Value → Bool
  | .null, .null => true
  | .bool a, .bool b => a == b
  | .int a, .int b => a == b
  | .float a, .float b => a == b
  | .text a, .text b => a == b
  | .date a, .date b => a == b
  | .dateTime a, .dateTime b => a == b
  | .list as, .list bs => beqItems as bs
  | .tuple as, .tuple bs => beqItems as bs
  | .mapping as, .mapping bs => beqEntries as bs
  | _, _ => false

/-- Are two lists of values built alike? -/
def beqItems : List Value → List Value → Bool
  | [], [] => true
  | a :: as, b :: bs => beq a b && beqItems as bs
  | _, _ => false

/-- Are two lists of entries built alike? -/
def beqEntries : List (Value × Value) → List (Value × Value) → Bool
  | [], [] => true
  | (k, a) :: as, (l, b) :: bs => beq k l && beq a b && beqEntries as bs
  | _, _ => false

end

instance : BEq Value := ⟨beq⟩

mutual

protected theorem eq_of_beq : ∀ {a b : Value}, beq a b = true → a = b
  | .null, b, h => by cases b <;> simp_all [beq]
  | .bool a, b, h => by cases b <;> simp_all [beq]
  | .int a, b, h => by cases b <;> simp_all [beq]
  | .float a, b, h => by cases b <;> simp_all [beq]
  | .text a, b, h => by cases b <;> simp_all [beq]
  | .date a, b, h => by cases b <;> simp_all [beq]
  | .dateTime a, b, h => by cases b <;> simp_all [beq]
  | .list as, b, h => by
    cases b with
    | list bs => simp only [beq] at h; rw [eq_of_beqItems h]
    | _ => simp [beq] at h
  | .tuple as, b, h => by
    cases b with
    | tuple bs => simp only [beq] at h; rw [eq_of_beqItems h]
    | _ => simp [beq] at h
  | .mapping as, b, h => by
    cases b with
    | mapping bs => simp only [beq] at h; rw [eq_of_beqEntries h]
    | _ => simp [beq] at h

theorem eq_of_beqItems : ∀ {as bs : List Value}, beqItems as bs = true → as = bs
  | [], bs, h => by cases bs <;> simp_all [beqItems]
  | a :: as, [], h => by simp [beqItems] at h
  | a :: as, b :: bs, h => by
    simp only [beqItems, Bool.and_eq_true] at h
    rw [Value.eq_of_beq h.1, eq_of_beqItems h.2]

theorem eq_of_beqEntries : ∀ {as bs : List (Value × Value)}, beqEntries as bs = true → as = bs
  | [], bs, h => by cases bs <;> simp_all [beqEntries]
  | a :: as, [], h => by simp [beqEntries] at h
  | (k, a) :: as, (l, b) :: bs, h => by
    simp only [beqEntries, Bool.and_eq_true] at h
    rw [Value.eq_of_beq h.1.1, Value.eq_of_beq h.1.2, eq_of_beqEntries h.2]

end

mutual

theorem beq_self : ∀ a : Value, beq a a = true
  | .null => rfl
  | .bool a => by simp [beq]
  | .int a => by simp [beq]
  | .float a => by simp [beq]
  | .text a => by simp [beq]
  | .date a => by simp [beq]
  | .dateTime a => by simp [beq]
  | .list as => by simp [beq, beqItems_self as]
  | .tuple as => by simp [beq, beqItems_self as]
  | .mapping as => by simp [beq, beqEntries_self as]

theorem beqItems_self : ∀ as : List Value, beqItems as as = true
  | [] => rfl
  | a :: as => by simp [beqItems, beq_self a, beqItems_self as]

theorem beqEntries_self : ∀ as : List (Value × Value), beqEntries as as = true
  | [] => rfl
  | (k, a) :: as => by simp [beqEntries, beq_self k, beq_self a, beqEntries_self as]

end

instance : LawfulBEq Value where
  eq_of_beq := Value.eq_of_beq
  rfl := beq_self _

instance : DecidableEq Value := fun a b => decidable_of_iff (a == b) beq_iff_eq

/-! ## Reading values -/

/-- Does the value count as filled in? Null, false, zero and everything empty do not. -/
def isTruthy : Value → Bool
  | .null => false
  | .bool b => b
  | .int n => n != 0
  | .float x => !x.isZero
  | .text t => !t.isEmpty
  | .date _ | .dateTime _ => true
  | .list items | .tuple items => !items.isEmpty
  | .mapping entries => !entries.isEmpty

/-- Is this the absent value? -/
def isNull : Value → Bool
  | .null => true
  | _ => false

/-- The elements of a list or a fixed sequence. -/
def elements? : Value → Option (List Value)
  | .list items | .tuple items => some items
  | _ => none

/-- The value filed under a text key; of several entries with that key, the last. -/
def lookup? (key : Text) : Entries → Option Value
  | [] => none
  | (k, v) :: rest =>
    match lookup? key rest with
    | some found => some found
    | none =>
      match k with
      | .text t => if t == key then some v else none
      | _ => none

/-- The value filed under a text key, null when there is none. -/
def get (key : Text) (entries : Entries) : Value := (lookup? key entries).getD .null

/-- Files a value under a text key: in place of the entry that has the key, else at the end. -/
def insert (key : Text) (value : Value) : Entries → Entries
  | [] => [(.text key, value)]
  | (k, v) :: rest =>
    if k == .text key then (k, value) :: rest else (k, v) :: insert key value rest

/-- A mapping with text keys. -/
def record (fields : List (Text × Value)) : Value :=
  .mapping (fields.map fun field => (.text field.1, field.2))

/-- The value, or null when there is none. -/
def ofOption {α : Type} (wrap : α → Value) : Option α → Value
  | some a => wrap a
  | none => .null

end Value

end ProfileFilter
