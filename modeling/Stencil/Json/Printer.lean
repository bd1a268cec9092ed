import Stencil.Json.Basic
import Stencil.Binary64.Shortest
/-! Compact JSON text, numbers in the shortest form that reads back. -/

namespace Stencil

/-- The text of an exponent: its sign always written. -/
def Decimal.exponentText (e : Int) : String :=
  if e < 0 then "-" ++ toString e.natAbs else "+" ++ toString e

/-- The text of a positive decimal without trailing zeros, `digits · 10^exponent`. With `n`
digits and the leading digit in place `n + exponent`, it is positional when that place is at
most 16 (whole numbers end in `.0`), has a leading `0.` down to four zeros after the point, and
is in scientific form otherwise. -/
def Decimal.layout (d : Decimal) : String :=
  let ds := toString d.digits
  let len : Int := ds.length
  let place := len + d.exponent
  if 0 ≤ d.exponent ∧ place ≤ 16 then
    ds ++ "".pushn '0' d.exponent.toNat ++ ".0"
  else if 0 < place ∧ place ≤ 16 then
    String.ofList (ds.toList.take place.toNat) ++ "." ++ String.ofList (ds.toList.drop place.toNat)
  else if -5 < place ∧ place ≤ 0 then
    "0." ++ "".pushn '0' place.natAbs ++ ds
  else if len = 1 then
    ds ++ "e" ++ Decimal.exponentText (place - 1)
  else
    String.ofList (ds.toList.take 1) ++ "." ++ String.ofList (ds.toList.drop 1) ++ "e" ++
      Decimal.exponentText (place - 1)

def Binary64.toText (x : Binary64) : String :=
  let magnitude := if x.isZero then "0.0" else x.shortestDecimal.layout
  if x.sign then "-" ++ magnitude else magnitude

namespace Number

def toText : Number → String
  | .nat n => toString n
  | .negInt n => toString n
  | .float x => x.toText

end Number

namespace Json

def hexDigit (n : Nat) : Char :=
  if n < 10 then Char.ofNat (48 + n) else Char.ofNat (87 + n)

def escapeChar (c : Char) : List Char :=
  match c with
  | '"' => ['\\', '"']
  | '\\' => ['\\', '\\']
  | '\n' => ['\\', 'n']
  | '\r' => ['\\', 'r']
  | '\t' => ['\\', 't']
  | '\x08' => ['\\', 'b']
  | '\x0c' => ['\\', 'f']
  | c =>
    if c.toNat < 0x20 then ['\\', 'u', '0', '0', hexDigit (c.toNat / 16), hexDigit (c.toNat % 16)]
    else [c]

def quote (s : String) : String := String.ofList ('"' :: s.toList.flatMap escapeChar ++ ['"'])

mutual

/-- The compact text of a value. -/
def compact : Json → String
  | .null => "null"
  | .bool true => "true"
  | .bool false => "false"
  | .number n => n.toText
  | .string s => quote s
  | .array items => "[" ++ compactItems items ++ "]"
  | .object members => "\x7b" ++ compactMembers members ++ "\x7d"

def compactItems : List Json → String
  | [] => ""
  | [item] => compact item
  | item :: rest => compact item ++ "," ++ compactItems rest

def compactMembers : List (String × Json) → String
  | [] => ""
  | [member] => compactMember member
  | member :: rest => compactMember member ++ "," ++ compactMembers rest

def compactMember : String × Json → String
  | (key, value) => quote key ++ ":" ++ compact value

end

end Json

end Stencil
