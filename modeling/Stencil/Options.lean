import Stencil.Json.Printer
import Stencil.Text.Quoted
/-! Engine options and how they are read from a JSON value. -/

namespace Stencil

/-- How an engine is set up: its opening and closing markers. -/
structure Options where
  opening : String := "\x7b"
  closing : String := "\x7d"
deriving Repr, DecidableEq

/-- The kind of a JSON value found where another was expected, with the value when it is a
scalar. -/
inductive Unexpected where
  | unit
  | bool (b : Bool)
  | unsigned (n : Nat)
  | signed (n : Int)
  | float (x : Binary64)
  | string (s : String)
  | seq
  | map
deriving Repr, DecidableEq

def Unexpected.describe : Unexpected → String
  | .unit => "null"
  | .bool b => "boolean `" ++ toString b ++ "`"
  | .unsigned n => "integer `" ++ toString n ++ "`"
  | .signed n => "integer `" ++ toString n ++ "`"
  | .float x => "floating point `" ++ x.toText ++ "`"
  | .string s => "string " ++ Text.quoted s
  | .seq => "sequence"
  | .map => "map"

def Unexpected.ofJson : Json → Unexpected
  | .null => .unit
  | .bool b => .bool b
  | .number (.nat n) => .unsigned n
  | .number (.negInt n) => .signed n
  | .number (.float x) => .float x
  | .string s => .string s
  | .array _ => .seq
  | .object _ => .map

/-- Why a JSON value does not describe options. -/
inductive DecodeError where
  | invalidType (found : Unexpected) (expected : String)
  | invalidLength (length : Nat) (expected : String)
deriving Repr, DecidableEq

def DecodeError.message : DecodeError → String
  | .invalidType found expected => "invalid type: " ++ found.describe ++ ", expected " ++ expected
  | .invalidLength length expected => "invalid length " ++ toString length ++ ", expected " ++ expected

def decodeString : Json → Except DecodeError String
  | .string s => .ok s
  | v => .error (.invalidType (.ofJson v) "a string")

/-- The pair of markers: an array of exactly two strings. -/
def decodeMarkers : Json → Except DecodeError (String × String)
  | .array [] => .error (.invalidLength 0 "a tuple of size 2")
  | .array [first] => do
    let _ ← decodeString first
    .error (.invalidLength 1 "a tuple of size 2")
  | .array (first :: second :: more) => do
    let opening ← decodeString first
    let closing ← decodeString second
    if more.isEmpty then pure (opening, closing)
    else .error (.invalidLength (more.length + 2) "fewer elements in array")
  | v => .error (.invalidType (.ofJson v) "a tuple of size 2")

/-- The options a JSON value describes; what it leaves out keeps its default. -/
def Options.ofJson : Json → Except DecodeError Options
  | .object members =>
    match Json.findMember? "delimiter" members with
    | some v => do
      let (opening, closing) ← decodeMarkers v
      pure { opening, closing }
    | none => pure {}
  | .array [] => pure {}
  | .array (first :: more) => do
    let (opening, closing) ← decodeMarkers first
    if more.isEmpty then pure { opening, closing }
    else .error (.invalidLength (more.length + 1) "fewer elements in array")
  | v => .error (.invalidType (.ofJson v) "struct Options")

end Stencil
