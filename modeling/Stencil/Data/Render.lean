import Stencil.Json.Printer
/-! How a value found in the data fills a placeholder, and which values count as present. -/

namespace Stencil.Data

def Number.isNonzero : Number → Bool
  | .nat n => n != 0
  | .negInt n => n != 0
  | .float x => !x.isZero

/-- Whether a found value counts as present. -/
def isTruthy : Json → Bool
  | .null => false
  | .bool b => b
  | .number n => Number.isNonzero n
  | .string s => !s.isEmpty
  | .array _ => true
  | .object _ => true

/-- The text of a number: binary64 numbers that are whole and below 2^53 in magnitude drop
their fraction, and negative zero loses its sign. -/
def renderNumber : Number → String
  | .float x =>
    if x.isIntegral ∧ x.wholeMagnitude < Nat.pow 2 53 then
      if x.sign ∧ x.wholeMagnitude ≠ 0 then "-" ++ toString x.wholeMagnitude
      else toString x.wholeMagnitude
    else x.toText
  | n => n.toText

/-- The text that replaces a placeholder whose value was found. -/
def render : Json → String
  | .null => ""
  | .string s => s
  | .bool b => toString b
  | .number n => renderNumber n
  | v => v.compact

end Stencil.Data
