/-
Double-precision numbers and their shortest decimal text.

A finite number is `significand · 2 ^ (scale - 1074)`, so every comparison below is made between
natural numbers, in units of `2 ^ -1076`.  `shortest` takes the coarsest decimal grid that has a
point among the reals rounding to the number, and of two such points the nearer; a point exactly
between two candidates goes up.
-/

namespace TableDdl

/-- A double-precision number, held as its 64 bits. -/
structure Binary64 where
  bits : UInt64
deriving DecidableEq

/-- The number `digits · 10 ^ exponent`. -/
structure Decimal where
  digits : Nat
  exponent : Int
deriving DecidableEq

namespace Decimal

/-- Positional text: no exponent, and no point after a whole number. -/
def positional (d : Decimal) : String :=
  let all := Nat.toDigits 10 d.digits
  let kept := (all.reverse.dropWhile (· == '0')).reverse
  let exponent := d.exponent + (all.length - kept.length : Nat)
  if kept.isEmpty then "0"
  else if 0 ≤ exponent then String.ofList (kept ++ List.replicate exponent.toNat '0')
  else
    let places := (-exponent).toNat
    let padded := List.replicate (places + 1 - kept.length) '0' ++ kept
    let whole := padded.length - places
    String.ofList (padded.take whole ++ '.' :: padded.drop whole)

end Decimal

namespace Binary64

def negative (x : Binary64) : Bool := decide (Nat.pow 2 63 ≤ x.bits.toNat)

def exponentField (x : Binary64) : Nat := x.bits.toNat / Nat.pow 2 52 % Nat.pow 2 11

def fraction (x : Binary64) : Nat := x.bits.toNat % Nat.pow 2 52

/-- The significand with its leading bit, which numbers near zero lack. -/
def significand (x : Binary64) : Nat :=
  if x.exponentField = 0 then x.fraction else x.fraction + Nat.pow 2 52

def scale (x : Binary64) : Nat := x.exponentField - 1

/-- The magnitude of a finite number, in units of `2 ^ -1076`. -/
def magnitude (x : Binary64) : Nat := 4 * x.significand * Nat.pow 2 x.scale

/-- Half the distance to the next number up. -/
def halfGapAbove (x : Binary64) : Nat := 2 * Nat.pow 2 x.scale

/-- Half the distance to the next number down, which is narrower just above a power of two. -/
def halfGapBelow (x : Binary64) : Nat :=
  if x.fraction = 0 && decide (1 < x.exponentField) then Nat.pow 2 x.scale else 2 * Nat.pow 2 x.scale

/-- Whether the decimal rounds to this number; a midpoint does when the significand is even. -/
def roundsFrom (x : Binary64) (d : Decimal) : Bool :=
  let point := d.digits * Nat.pow 10 d.exponent.toNat * Nat.pow 2 1076
  let lift := Nat.pow 10 (-d.exponent).toNat
  let low := (x.magnitude - x.halfGapBelow) * lift
  let high := (x.magnitude + x.halfGapAbove) * lift
  if x.significand % 2 = 0 then decide (low ≤ point) && decide (point ≤ high)
  else decide (low < point) && decide (point < high)

/-- The best point of the grid `10 ^ exponent` that rounds to the number, if one does. -/
def onGrid? (x : Binary64) (exponent : Int) : Option Decimal :=
  let unit := Nat.pow 10 exponent.toNat * Nat.pow 2 1076
  let value := x.magnitude * Nat.pow 10 (-exponent).toNat
  let below : Decimal := ⟨value / unit, exponent⟩
  let above : Decimal := ⟨value / unit + 1, exponent⟩
  match x.roundsFrom below, x.roundsFrom above with
  | true, true => some (if 2 * (value % unit) < unit then below else above)
  | true, false => some below
  | false, true => some above
  | false, false => none

/-- The power of ten just above the magnitude of a nonzero finite number. -/
def leadingExponent (x : Binary64) : Int :=
  let shifted := x.magnitude * Nat.pow 10 345 / Nat.pow 2 1076
  ((Nat.toDigits 10 shifted).length : Int) - 345

/-- The shortest decimal that rounds to a nonzero finite number.  Seventeen digits always do. -/
def shortest (x : Binary64) : Decimal :=
  ((List.range 17).findSome? fun (n : Nat) => x.onGrid? (x.leadingExponent - (n + 1))).getD ⟨0, 0⟩

def isNaN (x : Binary64) : Bool := x.exponentField = 2047 && x.fraction != 0

def isInfinite (x : Binary64) : Bool := x.exponentField = 2047 && x.fraction == 0

/-- The text of a number: its shortest decimal, written out in full. -/
def text (x : Binary64) : String :=
  if x.isNaN then "NaN"
  else
    let body :=
      if x.isInfinite then "inf"
      else if x.significand = 0 then "0"
      else x.shortest.positional
    if x.negative then "-" ++ body else body

example : text ⟨0x3FB999999999999A⟩ = "0.1" := by decide +kernel

example : text ⟨0x444B1AE4D6E2EF50⟩ = "1000000000000000000000" := by decide +kernel

example : text ⟨0x3E60000000000000⟩ = "0.000000029802322387695313" := by decide +kernel

end Binary64
end TableDdl
