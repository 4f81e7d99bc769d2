import KeyedBatching.Decimal.Binary64

/-!
# Shortest decimals

The text of a floating-point number has the fewest digits that read back as the
number, the nearest such decimal if there are two and the greater of two equally
near ones, written without an exponent.
-/

namespace KeyedBatching.Decimal

/-- A decimal number `digits * 10 ^ scale`. -/
structure ScaledDigits where
  digits : Nat
  scale : Int
deriving DecidableEq

/-- A multiple of a power of two next to a multiple of a power of ten, over one denominator. -/
structure Comparison where
  binaryUnit : Nat
  decimalUnit : Nat

namespace Comparison

/-- The units `2 ^ binary` and `10 ^ decimal` over one denominator. -/
def ofExponents (binary decimal : Int) : Comparison :=
  let two := Binary64.power 2 binary
  let ten := Binary64.power 10 decimal
  ⟨two.1 * ten.2, ten.1 * two.2⟩

end Comparison

/-- The interval of a number in quarters of its last place, and whether its ends belong to it. -/
structure RoundingInterval where
  lower : Nat
  centre : Nat
  upper : Nat
  closed : Bool

/-- The decimals that read back as `significand * 2 ^ exponent`. -/
def RoundingInterval.of (significand : Nat) (exponent : Int) : RoundingInterval :=
  let narrow := significand = Binary64.leastFull ∧ Binary64.leastExponent < exponent
  { lower := 4 * significand - (if narrow then 1 else 2)
    centre := 4 * significand
    upper := 4 * significand + 2
    closed := significand % 2 = 0 }

/-- A decimal lies in the interval. -/
def RoundingInterval.admits (interval : RoundingInterval) (units : Comparison)
    (digits : Nat) : Bool :=
  let value := digits * units.decimalUnit
  let lower := interval.lower * units.binaryUnit
  let upper := interval.upper * units.binaryUnit
  if interval.closed then lower ≤ value && value ≤ upper else lower < value && value < upper

/-- The decimal on one grid that reads back as the number, if there is one: the nearer of the two
neighbours, the upper one if they are equally near. -/
def onGrid? (interval : RoundingInterval) (binary scale : Int) : Option ScaledDigits :=
  let units := Comparison.ofExponents binary scale
  let centre := interval.centre * units.binaryUnit
  let below := centre / units.decimalUnit
  let distanceBelow := centre - below * units.decimalUnit
  let distanceAbove := (below + 1) * units.decimalUnit - centre
  match interval.admits units below, interval.admits units (below + 1) with
  | true, false => some ⟨below, scale⟩
  | false, true => some ⟨below + 1, scale⟩
  | true, true =>
      if distanceBelow < distanceAbove then some ⟨below, scale⟩ else some ⟨below + 1, scale⟩
  | false, false => none

/-- The number of digits in front of the point, counted below zero for small numbers. -/
def leadingPlaces (interval : RoundingInterval) (binary : Int) : Int :=
  let estimate := (((interval.centre.log2 : Int) + binary) * 30103).fdiv 100000
  let candidates := [estimate - 1, estimate, estimate + 1]
  (candidates.find? fun places =>
    let units := Comparison.ofExponents binary places
    interval.centre * units.binaryUnit < units.decimalUnit).getD (estimate + 2)

/-- The decimal with the fewest digits that reads back as a positive number. The first grid is that
of the next power of ten, which may itself be the decimal. -/
def shortest (significand : Nat) (exponent : Int) : ScaledDigits :=
  let interval := RoundingInterval.of significand exponent
  let binary := exponent - 2
  let places := leadingPlaces interval binary
  ((List.range 18).findSome? fun (count : Nat) => onGrid? interval binary (places - count)).getD
    ⟨0, 0⟩

/-- A decimal without an exponent, with at least one digit on each side of the point. -/
def ScaledDigits.positional (number : ScaledDigits) : String :=
  let digits := Nat.toDigits 10 number.digits
  if 0 ≤ number.scale then
    String.ofList (digits ++ List.replicate number.scale.toNat '0') ++ ".0"
  else
    let places := (-number.scale).toNat
    let padded := List.replicate (places + 1 - digits.length) '0' ++ digits
    let whole := padded.take (padded.length - places)
    String.ofList whole ++ "." ++ String.ofList (padded.drop (padded.length - places))

/-- The text of a number. -/
def Binary64.text : Binary64 → String
  | .nan => "NaN"
  | .infinite negative => if negative then "-inf" else "inf"
  | .finite negative significand exponent =>
      let sign := if negative then "-" else ""
      if significand = 0 then sign ++ "0.0"
      else sign ++ (shortest significand exponent).positional

end KeyedBatching.Decimal
