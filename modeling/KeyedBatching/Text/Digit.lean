/-!
# Digits

The digits of the bases in which numbers and code points are written, in ASCII
only, and the numbers that they write.
-/

namespace KeyedBatching.Text

/-- A decimal digit. -/
def isDecimal (character : Char) : Bool :=
  '0' ≤ character && character ≤ '9'

/-- A hexadecimal digit. -/
def isHexadecimal (character : Char) : Bool :=
  isDecimal character || ('a' ≤ character && character ≤ 'f') ||
    ('A' ≤ character && character ≤ 'F')

/-- An octal digit. -/
def isOctal (character : Char) : Bool :=
  '0' ≤ character && character ≤ '7'

/-- A binary digit. -/
def isBinary (character : Char) : Bool :=
  character = '0' || character = '1'

/-- The value of a digit in any base up to sixteen. -/
def digitValue (character : Char) : Nat :=
  if isDecimal character then character.toNat - 48
  else if 'a' ≤ character then character.toNat - 87
  else character.toNat - 55

/-- The number written by some digits. -/
def numberOf (base : Nat) (digits : List Char) : Nat :=
  digits.foldl (fun value digit => value * base + digitValue digit) 0

/-- The character with the code point that some hexadecimal digits write. -/
def escapedCharacter? (digits : List Char) : Option Char :=
  let codePoint := numberOf 16 digits
  if digits.all isHexadecimal && codePoint.isValidChar then some (Char.ofNat codePoint) else none

end KeyedBatching.Text
