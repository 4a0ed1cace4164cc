import ProfileFilter.Value.Basic

/-!
# References to the environment

A text in a settings document may refer to environment variables, by name or by name with
a default. References are replaced from left to right, and what they are replaced by is
not looked at again; everything that is not a well-formed reference stays as it is.
-/

namespace ProfileFilter

/-- The environment: names and values. -/
abbrev Environment := List (Text × Text)

namespace Reference

/-- May a name start with this code point? -/
def isNameStart (c : CodePoint) : Bool := c.isAsciiLetter || c == '_'

/-- May a name go on with this code point? -/
def isNameRest (c : CodePoint) : Bool := isNameStart c || c.isAsciiDigit

/-- A reference: its name and default, and how many code points it is written with. -/
structure Found where
  /-- the name -/
  name : Text
  /-- the default -/
  fallback : Text
  /-- its length -/
  length : Nat

/-- The reference that a text starts with. -/
def atFront? (t : Text) : Option Found := do
  let body ← Text.afterHead? "$\x7b" t
  let name := body.takeWhile isNameRest
  if !name.head?.any isNameStart then none
  else
    let rest := body.drop name.length
    if rest.head? == some 0x7D then some ⟨name, [], name.length + 3⟩
    else
      let fallback ← Text.afterHead? ":-" rest
      match Text.cut 0x7D fallback with
      | (fallback, some _) => some ⟨name, fallback, name.length + fallback.length + 5⟩
      | (_, none) => none

/-- What a reference is replaced by: the value of the variable, else the default. -/
def Found.value (found : Found) (environment : Environment) : Text :=
  (environment.lookup found.name).getD found.fallback

/-- Replaces references, after passing over the rest of the one that was replaced last. -/
def resolveFrom (environment : Environment) : (pass : Nat) → Text → Text
  | _, [] => []
  | pass + 1, _ :: rest => resolveFrom environment pass rest
  | 0, c :: rest =>
    match atFront? (c :: rest) with
    | some found => found.value environment ++ resolveFrom environment (found.length - 1) rest
    | none => c :: resolveFrom environment 0 rest

/-- A text with all references replaced. -/
def resolve (environment : Environment) (t : Text) : Text := resolveFrom environment 0 t

mutual

/-- A document with the references in all its texts replaced; keys stay as they are, and so do
fixed sequences. -/
def expand (environment : Environment) : Value → Value
  | .text t => .text (resolve environment t)
  | .list items => .list (expandAll environment items)
  | .mapping entries => .mapping (expandEntries environment entries)
  | v => v

/-- Several documents expanded. -/
def expandAll (environment : Environment) : List Value → List Value
  | [] => []
  | v :: rest => expand environment v :: expandAll environment rest

/-- Several entries with their values expanded. -/
def expandEntries (environment : Environment) : List (Value × Value) → List (Value × Value)
  | [] => []
  | (k, v) :: rest => (k, expand environment v) :: expandEntries environment rest

end

/-- The names that a text refers to. -/
def names : Text → List Text
  | [] => []
  | c :: rest => (atFront? (c :: rest)).toList.map Found.name ++ names rest

end Reference

end ProfileFilter
