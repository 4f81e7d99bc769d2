import KeyedBatching.Toml.Characters

/-!
# Numbers of a TOML document

Integers are signed words of 64 bits in four bases, and floating-point numbers
have a fraction, an exponent or both. An underscore may stand between two digits.
-/

namespace KeyedBatching.Toml

open Text

open Decimal

/-- Reads more digits; an underscore needs a digit behind it. -/
def readMoreDigits (isDigit : Char → Bool) : Reader (List Char)
  | '_' :: character :: rest =>
      if isDigit character then
        (readMoreDigits isDigit rest).map fun outcome => (character :: outcome.1, outcome.2)
      else none
  | ['_'] => none
  | character :: rest =>
      if isDigit character then
        (readMoreDigits isDigit rest).map fun outcome => (character :: outcome.1, outcome.2)
      else some ([], character :: rest)
  | [] => some ([], [])

/-- Reads at least one digit. -/
def readDigits (isDigit : Char → Bool) : Reader (List Char)
  | [] => none
  | character :: rest =>
      if isDigit character then
        (readMoreDigits isDigit rest).map fun outcome => (character :: outcome.1, outcome.2)
      else none

/-- Reads a sign, if there is one; the result says whether it is a minus. -/
def readSign : List Char → Bool × List Char
  | '-' :: rest => (true, rest)
  | '+' :: rest => (false, rest)
  | text => (false, text)

/-- Reads the digits of a decimal integer, which start with zero only if zero is all. -/
def readWhole : Reader (List Char)
  | '0' :: rest => some (['0'], rest)
  | text => readDigits isDecimal text

/-- The first count that is no signed word of 64 bits. -/
def integerLimit : Nat := 9223372036854775808

/-- The integer with a sign and a magnitude, if it is a signed word. -/
def signedWord? (negative : Bool) (magnitude : Nat) : Option Int :=
  if negative then if magnitude ≤ integerLimit then some (-(magnitude : Int)) else none
  else if magnitude < integerLimit then some magnitude else none

/-- Reads an integer in a base that is announced by two characters. -/
def readBased (base : Nat) (isDigit : Char → Bool) (text : List Char) :
    Option (Value × List Char) := do
  let (digits, rest) ← readDigits isDigit text
  let value ← signedWord? false (numberOf base digits)
  some (.integer value, rest)

/-- Reads a decimal integer. -/
def readDecimal (text : List Char) : Option (Value × List Char) := do
  let (negative, unsigned) := readSign text
  let (digits, rest) ← readWhole unsigned
  let value ← signedWord? negative (numberOf 10 digits)
  some (.integer value, rest)

/-- Reads an integer. -/
def readInteger : Reader Value
  | '0' :: 'x' :: rest => readBased 16 isHexadecimal rest
  | '0' :: 'o' :: rest => readBased 8 isOctal rest
  | '0' :: 'b' :: rest => readBased 2 isBinary rest
  | text => readDecimal text

/-- Reads an exponent, if there is one. -/
def readExponent (text : List Char) : Option (Option Int × List Char) :=
  match text with
  | [] => some (none, [])
  | mark :: rest =>
      if mark = 'e' ∨ mark = 'E' then
        let (negative, unsigned) := readSign rest
        (readDigits isDecimal unsigned).map fun outcome =>
          let magnitude : Int := numberOf 10 outcome.1
          (some (if negative then -magnitude else magnitude), outcome.2)
      else some (none, text)

/-- Reads a fraction, if there is one. -/
def readFraction : Reader (Option (List Char))
  | '.' :: rest => (readDigits isDecimal rest).map fun outcome => (some outcome.1, outcome.2)
  | text => some (none, text)

/-- A number that its digits make infinite exists below zero only. -/
def acceptFloat (value : Binary64) : Option Value :=
  if value = .infinite false then none else some (.float value)

/-- Reads a floating-point number with digits. -/
def readFloatDigits (text : List Char) : Option (Value × List Char) := do
  let (negative, unsigned) := readSign text
  let (whole, afterWhole) ← readWhole unsigned
  let (fraction, afterFraction) ← readFraction afterWhole
  let (exponent, rest) ← readExponent afterFraction
  if fraction.isNone && exponent.isNone then none
  else
    let places := fraction.getD []
    let scale := exponent.getD 0 - (places.length : Int)
    let value ← acceptFloat (.ofDecimal negative (numberOf 10 (whole ++ places)) scale)
    some (value, rest)

/-- Reads an infinity or the number that is none. -/
def readSpecial (text : List Char) : Option (Value × List Char) :=
  let (negative, unsigned) := readSign text
  match skipWord "inf".toList unsigned with
  | some rest => some (.float (.infinite negative), rest)
  | none => (skipWord "nan".toList unsigned).map fun rest => (.float .nan, rest)

/-- Reads a floating-point number. -/
def readFloat (text : List Char) : Option (Value × List Char) :=
  match readFloatDigits text with
  | some outcome => some outcome
  | none => readSpecial text

end KeyedBatching.Toml
