/-! Binary64 numbers as their 64-bit patterns. A finite magnitude is a natural number of units of
2^-1074, so rounding an exact ratio is integer arithmetic. -/

namespace Stencil

/-- A binary64 number: sign bit, 11 exponent bits, 52 fraction bits. -/
structure Binary64 where
  bits : UInt64
deriving DecidableEq, Repr

namespace Binary64

def sign (x : Binary64) : Bool := x.bits >>> 63 == 1

def exponentField (x : Binary64) : Nat := (x.bits >>> 52).toNat % 2048

def fractionField (x : Binary64) : Nat := x.bits.toNat % Nat.pow 2 52

def isFinite (x : Binary64) : Bool := x.exponentField != 2047

def isInfinite (x : Binary64) : Bool := x.exponentField == 2047 && x.fractionField == 0

def isZero (x : Binary64) : Bool := x.exponentField == 0 && x.fractionField == 0

/-- The magnitude of a finite number in units of 2^-1074. -/
def units (x : Binary64) : Nat :=
  if x.exponentField = 0 then x.fractionField
  else (Nat.pow 2 52 + x.fractionField) * Nat.pow 2 (x.exponentField - 1)

/-- The distance from a finite number to the next larger magnitude, in units of 2^-1074. -/
def ulpUnits (x : Binary64) : Nat := Nat.pow 2 (x.exponentField - 1)

def infinity (negative : Bool) : Binary64 :=
  ⟨if negative then 0xFFF0000000000000 else 0x7FF0000000000000⟩

def zero : Binary64 := ⟨0⟩

def neg (x : Binary64) : Binary64 := ⟨x.bits ^^^ 0x8000000000000000⟩

/-- The number with the given sign and a magnitude of `n` units, for `n` with at most 53
significant bits; from 2^1024 on the magnitude is infinite. -/
def ofUnits (negative : Bool) (n : Nat) : Binary64 :=
  let signBits : Nat := if negative then Nat.pow 2 63 else 0
  if n < Nat.pow 2 52 then ⟨UInt64.ofNat (signBits + n)⟩
  else
    let shift := Nat.log2 n - 52
    if shift + 1 ≥ 2047 then infinity negative
    else ⟨UInt64.ofNat (signBits + (shift + 1) * Nat.pow 2 52 + (n / Nat.pow 2 shift - Nat.pow 2 52))⟩

/-- `num / den` rounded to the nearest natural number, a tie going to the even one. -/
def divRoundEven (num den : Nat) : Nat :=
  let q := num / den
  let r := num % den
  if 2 * r < den then q
  else if 2 * r > den then q + 1
  else if q % 2 = 0 then q else q + 1

/-- The number nearest to `num / den`, with the given sign. The magnitude in units is
`num · 2^1074 / den`; it is rounded to 53 significant bits, or to whole units when smaller. -/
def ofRatio (negative : Bool) (num den : Nat) : Binary64 :=
  let scaled := num * Nat.pow 2 1074
  let drop := Nat.log2 (scaled / den) + 1 - 53
  ofUnits negative (divRoundEven scaled (den * Nat.pow 2 drop) * Nat.pow 2 drop)

def ofNat (n : Nat) : Binary64 := ofRatio false n 1

def mul (x y : Binary64) : Binary64 :=
  ofRatio (x.sign != y.sign) (x.units * y.units) (Nat.pow 2 2148)

def div (x y : Binary64) : Binary64 :=
  ofRatio (x.sign != y.sign) x.units y.units

def isIntegral (x : Binary64) : Bool := x.units % Nat.pow 2 1074 == 0

def wholeMagnitude (x : Binary64) : Nat := x.units / Nat.pow 2 1074

end Binary64

end Stencil
