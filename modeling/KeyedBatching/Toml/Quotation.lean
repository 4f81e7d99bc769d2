import KeyedBatching.Toml.Characters

/-!
# Strings of a TOML document

Basic strings have escapes and literal strings none; each kind exists on one
line, or over several between three delimiters, where up to two delimiters may
stand in front of the closing three.
-/

namespace KeyedBatching.Toml

open Text

/-- The double quote. -/
def quoteMark : Char := '\x22'

/-- The single quote. -/
def apostrophe : Char := '\x27'

/-- The backslash. -/
def backslash : Char := '\x5c'

/-- A character that stands for itself in a basic string. -/
def isPlain (character : Char) : Bool :=
  isText character && character ≠ quoteMark && character ≠ backslash

/-- A character that stands for itself in a literal string. -/
def isLiteral (character : Char) : Bool :=
  isText character && character ≠ apostrophe

/-- The character that a letter after a backslash stands for. -/
def simpleEscape? (letter : Char) : Option Char :=
  if letter = 'b' then some '\x08'
  else if letter = 't' then some '\t'
  else if letter = 'n' then some '\n'
  else if letter = 'f' then some '\x0c'
  else if letter = 'r' then some '\r'
  else if letter = quoteMark then some quoteMark
  else if letter = backslash then some backslash
  else none

/-- Puts a character in front of what was read. -/
def prepend (character : Char) (read : Option (List Char × List Char)) :
    Option (List Char × List Char) :=
  read.map fun outcome => (character :: outcome.1, outcome.2)

/-- Puts a character, if there is one, in front of what was read. -/
def prependSome (character : Option Char) (read : Option (List Char × List Char)) :
    Option (List Char × List Char) :=
  character.bind fun found => prepend found read

/-- Reads the rest of a basic string on one line. -/
def readBasic : Reader (List Char)
  | [] => none
  | '\x5c' :: 'u' :: a :: b :: c :: d :: rest =>
      prependSome (escapedCharacter? [a, b, c, d]) (readBasic rest)
  | '\x5c' :: 'U' :: a :: b :: c :: d :: e :: f :: g :: h :: rest =>
      prependSome (escapedCharacter? [a, b, c, d, e, f, g, h]) (readBasic rest)
  | '\x5c' :: letter :: rest => prependSome (simpleEscape? letter) (readBasic rest)
  | character :: rest =>
      if character = quoteMark then some ([], rest)
      else if isPlain character then prepend character (readBasic rest)
      else none

/-- Only blanks stand in front of the next line end. -/
def lineIsBlank : List Char → Bool
  | [] => false
  | character :: rest => character = '\n' || (isSpace character && lineIsBlank rest)

/-- Reads the rest of a basic string over several lines; `skipping` is on after an escaped line
end. -/
def readBasicLines (skipping : Bool) : Reader (List Char)
  | [] => none
  | '\x22' :: '\x22' :: '\x22' :: '\x22' :: '\x22' :: rest => some ([quoteMark, quoteMark], rest)
  | '\x22' :: '\x22' :: '\x22' :: '\x22' :: rest => some ([quoteMark], rest)
  | '\x22' :: '\x22' :: '\x22' :: rest => some ([], rest)
  | '\x5c' :: 'u' :: a :: b :: c :: d :: rest =>
      prependSome (escapedCharacter? [a, b, c, d]) (readBasicLines false rest)
  | '\x5c' :: 'U' :: a :: b :: c :: d :: e :: f :: g :: h :: rest =>
      prependSome (escapedCharacter? [a, b, c, d, e, f, g, h]) (readBasicLines false rest)
  | '\x5c' :: letter :: rest =>
      if lineIsBlank (letter :: rest) then readBasicLines true rest
      else prependSome (simpleEscape? letter) (readBasicLines false rest)
  | character :: rest =>
      if skipping && (character = '\n' || isSpace character) then readBasicLines true rest
      else if character = '\n' || character = quoteMark || isPlain character then
        prepend character (readBasicLines false rest)
      else none

/-- Reads the rest of a literal string on one line. -/
def readLiteral : Reader (List Char)
  | [] => none
  | character :: rest =>
      if character = apostrophe then some ([], rest)
      else if isLiteral character then prepend character (readLiteral rest)
      else none

/-- Reads the rest of a literal string over several lines. -/
def readLiteralLines : Reader (List Char)
  | [] => none
  | '\x27' :: '\x27' :: '\x27' :: '\x27' :: '\x27' :: rest =>
      some ([apostrophe, apostrophe], rest)
  | '\x27' :: '\x27' :: '\x27' :: '\x27' :: rest => some ([apostrophe], rest)
  | '\x27' :: '\x27' :: '\x27' :: rest => some ([], rest)
  | character :: rest =>
      if character = '\n' || isText character then prepend character (readLiteralLines rest)
      else none

/-- A line end right after the opening delimiter does not belong to the string. -/
def skipFirstLineEnd : List Char → List Char
  | '\n' :: rest => rest
  | text => text

/-- Reads a string of any kind. -/
def readString : Reader (List Char)
  | '\x22' :: '\x22' :: '\x22' :: rest => readBasicLines false (skipFirstLineEnd rest)
  | '\x22' :: rest => readBasic rest
  | '\x27' :: '\x27' :: '\x27' :: rest => readLiteralLines (skipFirstLineEnd rest)
  | '\x27' :: rest => readLiteral rest
  | _ => none

end KeyedBatching.Toml
