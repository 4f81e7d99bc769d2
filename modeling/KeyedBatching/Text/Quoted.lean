import KeyedBatching.Text.Printable

/-!
# Quoted text

A text between double quotes, in which the quote, the backslash and every
character that cannot be shown as it is are written with a backslash.
-/

namespace KeyedBatching.Text

/-- A code point as a hexadecimal escape with the fewest digits. -/
def codePointEscape (character : Char) : List Char :=
  ['\x5c', 'u', '\x7b'] ++ Nat.toDigits 16 character.toNat ++ ['\x7d']

/-- A character as it stands inside a quoted text. -/
def quotedCharacter (character : Char) : List Char :=
  if character = '\x22' then ['\x5c', '\x22']
  else if character = '\x5c' then ['\x5c', '\x5c']
  else if character = '\n' then ['\x5c', 'n']
  else if character = '\r' then ['\x5c', 'r']
  else if character = '\t' then ['\x5c', 't']
  else if character = '\x00' then ['\x5c', '0']
  else if isPrintable character then [character]
  else codePointEscape character

/-- A text between double quotes, with escapes. -/
def quoted (text : String) : String :=
  String.ofList (['\x22'] ++ text.toList.flatMap quotedCharacter ++ ['\x22'])

end KeyedBatching.Text
