import KeyedBatching.Text.Blank
import KeyedBatching.Word

/-!
# Decimal numerals

A numeral is an optional plus sign and at least one ASCII digit. It is read only
when its value lies below a given bound; the bound is tested at every digit, so
no intermediate value exceeds it.
-/

namespace KeyedBatching.Text

/-- The value of an ASCII digit. -/
def digitValue? (character : Char) : Option Nat :=
  if '0' ≤ character ∧ character ≤ '9' then some (character.toNat - 48) else none

/-- Reads further digits after those worth `value`, each result below the bound. -/
def readDigits (bound value : Nat) : List Char → Option Nat
  | [] => some value
  | character :: rest =>
      match digitValue? character with
      | none => none
      | some digit =>
          if value * 10 + digit < bound then readDigits bound (value * 10 + digit) rest
          else none

/-- Reads at least one digit. -/
def readUnsigned (bound : Nat) (text : List Char) : Option Nat :=
  if text.isEmpty then none else readDigits bound 0 text

/-- Reads a numeral below the bound, with at most one plus sign in front. -/
def readNumeral (bound : Nat) : List Char → Option Nat
  | '+' :: rest => readUnsigned bound rest
  | text => readUnsigned bound text

/-- Reads a word between blank characters. -/
def readWord (text : String) : Option Nat :=
  readNumeral wordLimit (trimBlank text.toList)

end KeyedBatching.Text
