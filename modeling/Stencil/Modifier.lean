import Stencil.Json.Basic
import Stencil.Text.Case
import Stencil.Text.Quoted
/-! Modifiers and their registry: the built-ins first, names trimmed and lowercased, the first entry
of a name answering. -/

namespace Stencil

structure ModifierError where
  message : String
deriving Repr, DecidableEq

def ModifierError.describe (e : ModifierError) : String := "modifier failed: " ++ e.message

/-- What a modifier does: from the current text and the data, the next text or an error. -/
abbrev Transform := String → Json → Except ModifierError String

structure Modifier where
  name : String
  transform : Transform

/-- Why a modifier could not be registered. -/
inductive RegistrationError where
  | missingName
  | reservedCharacter (name : String) (reserved : Char)
deriving Repr, DecidableEq

def RegistrationError.message : RegistrationError → String
  | .missingName => "modifiers must have a name"
  | .reservedCharacter name reserved =>
    "modifier name " ++ Text.quoted name ++ " contains reserved character " ++ Text.quotedChar reserved

def isReserved (c : Char) : Bool := c = ',' || c = '|'

/-- The form of a name that registration stores and lookup compares: trimmed, lowercased. -/
def normalizeName (name : String) : String := Text.toLower (Text.trim name)

/-- Modifiers in the order they were registered. -/
structure Registry where
  entries : List Modifier

namespace Registry

def builtins : Registry :=
  ⟨[⟨"uppercase", fun s _ => .ok (Text.toUpper s)⟩,
    ⟨"lowercase", fun s _ => .ok (Text.toLower s)⟩,
    ⟨"title", fun s _ => .ok (Text.toTitle s)⟩]⟩

/-- The first modifier registered under the name, compared in normalized form. -/
def lookup (r : Registry) (name : String) : Option Modifier :=
  let key := normalizeName name
  r.entries.find? (·.name == key)

/-- The registry with one more modifier at its end, or why the name is refused. -/
def register (r : Registry) (name : String) (transform : Transform) : Except RegistrationError Registry :=
  let trimmed := Text.trim name
  if trimmed.isEmpty then .error .missingName
  else match trimmed.toList.find? isReserved with
    | some c => .error (.reservedCharacter trimmed c)
    | none => .ok ⟨r.entries ++ [⟨Text.toLower trimmed, transform⟩]⟩

def names (r : Registry) : List String := r.entries.map (·.name)

def size (r : Registry) : Nat := r.entries.length

end Registry

end Stencil
