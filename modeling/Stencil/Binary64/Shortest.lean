import Stencil.Binary64.Basic
/-! The shortest decimal that reads back as a binary64 number, the nearest one among those of that
length. -/

namespace Stencil

/-- The number `digits · 10^exponent`. -/
structure Decimal where
  digits : Nat
  exponent : Int
deriving Repr, DecidableEq

namespace Decimal

def normalize (d : Decimal) : Decimal :=
  go d.digits.log2.succ d
where
  go : Nat → Decimal → Decimal
    | 0, d => d
    | fuel + 1, d =>
      if d.digits ≠ 0 ∧ d.digits % 10 = 0 then go fuel ⟨d.digits / 10, d.exponent + 1⟩ else d

def digitCount (n : Nat) : Nat := (Nat.toDigits 10 n).length

/-- Compares `c · 10^s` with `num / 2^p`. -/
def compareScaled (c : Nat) (s : Int) (num p : Nat) : Ordering :=
  if 0 ≤ s then compare (c * Nat.pow 10 s.toNat * Nat.pow 2 p) num
  else compare (c * Nat.pow 2 p) (num * Nat.pow 10 s.natAbs)

end Decimal

namespace Binary64

/-- Whether the decimal `c · 10^s` rounds to the positive finite `x`. -/
def readsBackAs (x : Binary64) (c : Nat) (s : Int) : Bool :=
  let four := 4 * x.units
  let spread := 2 * x.ulpUnits
  let below := if x.fractionField = 0 ∧ x.exponentField > 1 then spread / 2 else spread
  let inclusive := x.fractionField % 2 == 0
  let lower := Decimal.compareScaled c s (four - below) 1076
  let upper := Decimal.compareScaled c s (four + spread) 1076
  (lower == .gt || (inclusive && lower == .eq)) && (upper == .lt || (inclusive && upper == .eq))

def ltPow10 (x : Binary64) (k : Int) : Bool := Decimal.compareScaled 1 k x.units 1074 == .gt

/-- The `k` with `10^(k-1) ≤ x < 10^k`, for a positive finite `x`: an estimate from the binary
exponent, then a few steps up or down. -/
def decimalExponent (x : Binary64) : Int :=
  let binary : Int := (Nat.log2 x.units : Int) - 1074
  let guess := binary * 30103 / 100000
  down 8 (up 8 guess)
where
  up : Nat → Int → Int
    | 0, k => k
    | fuel + 1, k => if x.ltPow10 k then k else up fuel (k + 1)
  down : Nat → Int → Int
    | 0, k => k
    | fuel + 1, k => if x.ltPow10 (k - 1) then down fuel (k - 1) else k

/-- The nearest of the decimals with `n` significant digits that read back as `x`, if any. -/
def nearestOfLength (x : Binary64) (top : Int) (n : Nat) : Option Decimal :=
  let s := top - n
  let q :=
    if 0 ≤ s then x.units / (Nat.pow 2 1074 * Nat.pow 10 s.toNat)
    else x.units * Nat.pow 10 s.natAbs / Nat.pow 2 1074
  match x.readsBackAs q s, x.readsBackAs (q + 1) s with
  | true, true =>
    match Decimal.compareScaled (2 * q + 1) s (2 * x.units) 1074 with
    | .gt => some ⟨q, s⟩
    | .lt => some ⟨q + 1, s⟩
    | .eq => if q % 2 = 0 then some ⟨q, s⟩ else some ⟨q + 1, s⟩
  | true, false => some ⟨q, s⟩
  | false, true => some ⟨q + 1, s⟩
  | false, false => none

/-- The shortest decimal that reads back as the positive finite `x`, nearest `x` among those,
without trailing zeros. Seventeen digits always suffice. -/
def shortestDecimal (x : Binary64) : Decimal :=
  let top := x.decimalExponent
  let found := (List.range 17).findSome? fun i => x.nearestOfLength top (i + 1)
  (found.getD ⟨x.units, -1074⟩).normalize

end Binary64

end Stencil
