import Stencil.Json.Basic
import Stencil.Json.Reader.Cursor
/-! Reading JSON numbers: integers that fit stay exact, everything else is scaled into binary64 one
rounding at a time. -/

namespace Stencil.Json

def wordMax : Nat := Nat.pow 2 64 - 1

def exponentMax : Nat := Nat.pow 2 31 - 1

def passes (acc digit limit : Nat) : Bool :=
  acc ≥ limit / 10 && (acc > limit / 10 || digit > limit % 10)

def digitValue (c : Char) : Nat := c.toNat - 48

/-- `significand · 10^exponent` as binary64, positive: the significand rounded first, then
multiplied by `10^exponent` or divided by `10^-exponent` rounded, an exponent below -308 taken
in steps of `10^308`. `none` when the result is too large. -/
def Binary64.ofParts (significand : Nat) (exponent : Int) : Option Binary64 :=
  go 8 (Binary64.ofNat significand) exponent
where
  go : Nat → Binary64 → Int → Option Binary64
    | 0, f, _ => some f
    | fuel + 1, f, e =>
      if e.natAbs ≤ 308 then
        if 0 ≤ e then
          let scaled := f.mul (Binary64.ofNat (Nat.pow 10 e.natAbs))
          if scaled.isInfinite then none else some scaled
        else some (f.div (Binary64.ofNat (Nat.pow 10 e.natAbs)))
      else if f.isZero then some f
      else if 0 ≤ e then none
      else go fuel (f.div (Binary64.ofNat (Nat.pow 10 308))) (e + 308)

def clampExponent (e : Int) : Int :=
  if e > exponentMax then exponentMax else if e < -(Nat.pow 2 31 : Int) then -(Nat.pow 2 31 : Int) else e

namespace Cursor

/-- Digits read into `acc` while it stays at most `wordMax`; the flag tells whether reading
stopped before a digit that would pass it. -/
def gather (acc : Nat) : List Char → Nat → Nat × Cursor × Bool
  | [], offset => (acc, ⟨[], offset⟩, false)
  | d :: rest, offset =>
    if d.isDigit then
      if passes acc (digitValue d) wordMax then (acc, ⟨d :: rest, offset⟩, true)
      else gather (acc * 10 + digitValue d) rest (offset + 1)
    else (acc, ⟨d :: rest, offset⟩, false)

/-- Digits after the point read into `acc`, each lowering the exponent; once one would pass
`wordMax`, it and the digits after it are skipped. Also tells whether any digit was there. -/
def gatherFraction (acc : Nat) (exp : Int) (seen : Bool) : List Char → Nat → Nat × Int × Bool × Cursor
  | [], offset => (acc, exp, seen, ⟨[], offset⟩)
  | d :: rest, offset =>
    if d.isDigit then
      if passes acc (digitValue d) wordMax then
        (acc, exp, true, ⟨(d :: rest).dropWhile Char.isDigit,
          offset + ((d :: rest).takeWhile Char.isDigit).length⟩)
      else gatherFraction (acc * 10 + digitValue d) (exp - 1) true rest (offset + 1)
    else (acc, exp, seen, ⟨d :: rest, offset⟩)

/-- Exponent digits read into `acc`; `none` with the cursor past the digit that would take it
beyond a signed 32-bit word. -/
def gatherExponent (acc : Nat) : List Char → Nat → Option Nat × Cursor
  | [], offset => (some acc, ⟨[], offset⟩)
  | d :: rest, offset =>
    if d.isDigit then
      if passes acc (digitValue d) exponentMax then (none, ⟨rest, offset + 1⟩)
      else gatherExponent (acc * 10 + digitValue d) rest (offset + 1)
    else (some acc, ⟨d :: rest, offset⟩)

def skipDigits (c : Cursor) : Cursor × Nat :=
  let n := (c.rest.takeWhile Char.isDigit).length
  (⟨c.rest.drop n, c.offset + n⟩, n)

def finishFloat (c : Cursor) (positive : Bool) (significand : Nat) (exponent : Int) :
    Except ReadError (Number × Cursor) :=
  match Binary64.ofParts significand exponent with
  | some f => .ok (.float (if positive then f else f.neg), c)
  | none => .error (c.fail .numberOutOfRange)

def readExponent (c : Cursor) (positive : Bool) (significand : Nat) (start : Int) :
    Except ReadError (Number × Cursor) :=
  let c : Cursor := ⟨c.rest.drop 1, c.offset + 1⟩
  let (up, c) : Bool × Cursor :=
    match c.rest with
    | '+' :: rest => (true, ⟨rest, c.offset + 1⟩)
    | '-' :: rest => (false, ⟨rest, c.offset + 1⟩)
    | _ => (true, c)
  match c.rest with
  | [] => .error (c.fail .eofWhileParsingValue)
  | d :: rest =>
    if d.isDigit then
      match gatherExponent (digitValue d) rest (c.offset + 1) with
      | (some e, c') =>
        c'.finishFloat positive significand (clampExponent (if up then start + e else start - e))
      | (none, c') =>
        if significand ≠ 0 ∧ up then .error (c'.fail .numberOutOfRange)
        else
          let zero := if positive then Binary64.zero else Binary64.zero.neg
          .ok (.float zero, c'.skipDigits.1)
    else .error (c.failAhead .invalidNumber)

def readFraction (c : Cursor) (positive : Bool) (significand : Nat) (exponent : Int) :
    Except ReadError (Number × Cursor) :=
  let (acc, exp, seen, c') := gatherFraction significand exponent false (c.rest.drop 1) (c.offset + 1)
  if !seen then
    if c'.rest.isEmpty then .error (c'.failAhead .eofWhileParsingValue)
    else .error (c'.failAhead .invalidNumber)
  else
    match c'.rest with
    | 'e' :: _ | 'E' :: _ => c'.readExponent positive acc exp
    | _ => c'.finishFloat positive acc exp

/-- What follows a significand read to the end or to a digit that would pass 2^64: further
digits count toward the exponent, then a fraction or an exponent may follow. -/
def readAfterDigits (c : Cursor) (positive : Bool) (significand : Nat) (exponent : Int) :
    Except ReadError (Number × Cursor) :=
  match c.rest with
  | '.' :: _ => c.readFraction positive significand exponent
  | 'e' :: _ | 'E' :: _ => c.readExponent positive significand exponent
  | _ => c.finishFloat positive significand exponent

def readAfterInteger (c : Cursor) (positive : Bool) (significand : Nat) :
    Except ReadError (Number × Cursor) :=
  match c.rest with
  | '.' :: _ => c.readFraction positive significand 0
  | 'e' :: _ | 'E' :: _ => c.readExponent positive significand 0
  | _ =>
    if positive then .ok (.nat significand, c)
    else if 0 < significand ∧ significand ≤ Nat.pow 2 63 then .ok (.negInt (-(significand : Int)), c)
    else .ok (.float (Binary64.ofNat significand).neg, c)

/-- A number, the cursor past its minus sign if it has one. -/
def readNumber (c : Cursor) (positive : Bool) : Except ReadError (Number × Cursor) :=
  match c.rest with
  | [] => .error (c.fail .eofWhileParsingValue)
  | '0' :: rest =>
    let c' : Cursor := ⟨rest, c.offset + 1⟩
    match rest with
    | d :: _ => if d.isDigit then .error (c'.failAhead .invalidNumber) else c'.readAfterInteger positive 0
    | [] => c'.readAfterInteger positive 0
  | d :: rest =>
    if d.isDigit then
      match gather (digitValue d) rest (c.offset + 1) with
      | (acc, c', false) => c'.readAfterInteger positive acc
      | (acc, c', true) =>
        let (c'', extra) := c'.skipDigits
        c''.readAfterDigits positive acc extra
    else .error (c.failAhead .invalidNumber)

end Cursor

end Stencil.Json
