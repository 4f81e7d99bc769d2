/-!
# Binary floating-point numbers of 64 bits

A finite number is a significand below `2 ^ 53` times a power of two from
`2 ^ (-1074)` on. A decimal is read as the nearest such number, the even one of
two, and too large a decimal as an infinity.
-/

namespace KeyedBatching.Decimal

/-- A number of 64 bits, decoded. -/
inductive Binary64 where
  | nan
  | infinite (negative : Bool)
  | finite (negative : Bool) (significand : Nat) (exponent : Int)
deriving DecidableEq

namespace Binary64

/-- The first number that no significand reaches, `2 ^ 53`. -/
def significandLimit : Nat := 9007199254740992

/-- The least significand that fills its places, `2 ^ 52`. -/
def leastFull : Nat := 4503599627370496

/-- The least exponent of a finite number. -/
def leastExponent : Int := -1074

/-- The greatest exponent of a finite number. -/
def greatestExponent : Int := 971

/-- A power with an integer exponent, as a numerator and a denominator. -/
def power (base : Nat) (exponent : Int) : Nat × Nat :=
  if 0 ≤ exponent then (Nat.pow base exponent.toNat, 1)
  else (1, Nat.pow base (-exponent).toNat)

/-- The quotient rounded to the nearest integer, the even one of two. -/
def roundedQuotient (numerator denominator : Nat) : Nat :=
  let below := numerator / denominator
  let rest := numerator % denominator
  if 2 * rest < denominator ∨ (2 * rest = denominator ∧ below % 2 = 0) then below else below + 1

/-- The quotient in units of a power of two, rounded. -/
def roundedIn (numerator denominator : Nat) (exponent : Int) : Nat :=
  let unit := power 2 exponent
  roundedQuotient (numerator * unit.2) (denominator * unit.1)

/-- The exponent with which a positive quotient fills a significand. -/
def fittingExponent (numerator denominator : Nat) : Int :=
  let estimate := max ((numerator.log2 : Int) - denominator.log2 - 53) leastExponent
  let unit := power 2 estimate
  if significandLimit ≤ (numerator * unit.2) / (denominator * unit.1) then estimate + 1
  else estimate

/-- The number nearest to a positive quotient. -/
def nearest (negative : Bool) (numerator denominator : Nat) : Binary64 :=
  let exponent := fittingExponent numerator denominator
  let rounded := roundedIn numerator denominator exponent
  let carried := rounded = significandLimit
  let exponent := if carried then exponent + 1 else exponent
  let significand := if carried then leastFull else rounded
  if greatestExponent < exponent then infinite negative
  else finite negative significand exponent

/-- A decimal exponent beyond which every number is an infinity or zero. -/
def exponentHorizon : Int := 400

/-- The number nearest to `digits * 10 ^ exponent`. -/
def ofDecimal (negative : Bool) (digits : Nat) (exponent : Int) : Binary64 :=
  let magnitude := (Nat.toDigits 10 digits).length + exponent
  if digits = 0 ∨ magnitude < -exponentHorizon then finite negative 0 leastExponent
  else if exponentHorizon < magnitude then infinite negative
  else
    let unit := power 10 exponent
    nearest negative (digits * unit.1) unit.2

end Binary64

end KeyedBatching.Decimal
