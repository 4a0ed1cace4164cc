import ProfileFilter.Text.Basic

/-!
# Command-line arguments

Splitting arguments into options and operands. A long option takes its value from the next
argument or after an equals sign, a short one from the next argument or right after its
letter; several short flags may share one argument. After `--` everything is an operand.
-/

namespace ProfileFilter

/-- Why arguments make no command. -/
inductive UsageError where
  /-- an option that there is not -/
  | unknownOption
  /-- an option without the value it takes -/
  | missingValue
  /-- a value for an option that takes none -/
  | unexpectedValue
  /-- no command -/
  | missingCommand
  /-- a command that there is not -/
  | unknownCommand
  /-- an operand too few -/
  | missingOperand
  /-- an operand too many -/
  | extraOperand
  /-- a value that is not one of those the option takes -/
  | invalidValue
deriving DecidableEq, Repr

/-- An option. -/
structure OptionRule where
  /-- its long name, without the hyphens -/
  name : Text
  /-- its letter -/
  letter : Option CodePoint := none
  /-- does it take a value? -/
  takesValue : Bool := true
deriving DecidableEq, Repr

/-- Options as they were given, with their values, and operands. -/
structure Arguments where
  /-- the options, in order; a flag has an empty value -/
  options : List (Text × Text) := []
  /-- the operands, in order -/
  operands : List Text := []
deriving DecidableEq, Repr

namespace Arguments

/-- Puts an option in front. -/
def withOption (name value : Text) (a : Arguments) : Arguments :=
  { a with options := (name, value) :: a.options }

/-- Puts an operand in front. -/
def withOperand (operand : Text) (a : Arguments) : Arguments :=
  { a with operands := operand :: a.operands }

/-- The value of an option; of several, the last. -/
def value? (a : Arguments) (name : Text) : Option Text := a.options.reverse.lookup name

/-- Was a flag given? -/
def has (a : Arguments) (name : Text) : Bool := (a.value? name).isSome

/-- The options that one argument spells, the last one first, and the option that still wants
its value. -/
structure Spelled where
  /-- the options with their values -/
  options : List (Text × Text)
  /-- the option that wants a value -/
  wanting : Option Text := none

/-- The options spelled by letters. -/
def spellLetters (rules : List OptionRule) : Text → Except UsageError Spelled
  | [] => .ok ⟨[], none⟩
  | c :: rest =>
    match rules.find? fun rule => rule.letter == some c with
    | none => .error .unknownOption
    | some rule =>
      if rule.takesValue then
        if rest.isEmpty then .ok ⟨[], some rule.name⟩ else .ok ⟨[(rule.name, rest)], none⟩
      else (spellLetters rules rest).map fun s => { s with options := (rule.name, []) :: s.options }

/-- The option spelled by a long name, possibly with a value after an equals sign. -/
def spellName (rules : List OptionRule) (t : Text) : Except UsageError Spelled :=
  let (name, value) := Text.cut '=' t
  match rules.find? fun rule => rule.name == name, value with
  | none, _ => .error .unknownOption
  | some rule, some value =>
    if rule.takesValue then .ok ⟨[(rule.name, value)], none⟩ else .error .unexpectedValue
  | some rule, none =>
    if rule.takesValue then .ok ⟨[], some rule.name⟩ else .ok ⟨[(rule.name, [])], none⟩

/-- The options an argument spells; nothing for an operand. -/
def spell? (rules : List OptionRule) (argument : Text) : Option (Except UsageError Spelled) :=
  match argument with
  | a :: b :: rest =>
    if a == '-' then
      if b == '-' then some (spellName rules rest) else some (spellLetters rules (b :: rest))
    else none
  | _ => none

/-- Splits arguments, the first of which may be the value of an option that wants one. Unless
operands and options may be mixed, everything from the first operand on is an operand. -/
def split (rules : List OptionRule) (mixed : Bool) :
    (wanting : Option Text) → List Text → Except UsageError Arguments
  | none, [] => .ok {}
  | some _, [] => .error .missingValue
  | some name, value :: rest => (split rules mixed none rest).map (withOption name value)
  | none, argument :: rest =>
    if argument == "--" then .ok { operands := rest }
    else
      match spell? rules argument with
      | some (.ok spelled) =>
        (split rules mixed spelled.wanting rest).map fun a =>
          { a with options := spelled.options ++ a.options }
      | some (.error e) => .error e
      | none =>
        if mixed then (split rules mixed none rest).map (withOperand argument)
        else .ok { operands := argument :: rest }

end Arguments

end ProfileFilter
