import KeyedBatching.Text.Digit
import KeyedBatching.Toml.Value

/-!
# Characters of a TOML document

The classes of characters that the grammar names, and the parts of a document
between its values: blanks, comments and line ends. Line ends are a single line
feed here, since a carriage return counts only in front of one.
-/

namespace KeyedBatching.Toml

/-- A space or a tab. -/
def isSpace (character : Char) : Bool :=
  character = ' ' || character = '\t'

/-- A character beyond ASCII. -/
def isForeign (character : Char) : Bool :=
  0x80 ≤ character.toNat

/-- A character that may stand in a comment or a literal string, its delimiter included. -/
def isText (character : Char) : Bool :=
  character = '\t' || (0x20 ≤ character.toNat && character.toNat ≤ 0x7E) || isForeign character

/-- Carriage returns in front of a line feed leave. -/
def unifyLineEnds : List Char → List Char
  | '\r' :: '\n' :: rest => '\n' :: unifyLineEnds rest
  | character :: rest => character :: unifyLineEnds rest
  | [] => []

/-- Skips spaces and tabs. -/
def skipSpaces (text : List Char) : List Char :=
  text.dropWhile isSpace

/-- Skips blanks, comments and line ends; a comment may hold text only. -/
def skipTrivia (inComment : Bool) : List Char → Option (List Char)
  | [] => some []
  | character :: rest =>
      if character = '\n' then skipTrivia false rest
      else if inComment then if isText character then skipTrivia true rest else none
      else if isSpace character then skipTrivia false rest
      else if character = '#' then skipTrivia true rest
      else some (character :: rest)

/-- Skips the rest of a line after an expression: blanks, a comment, and the line end. -/
def skipLineEnd (inComment : Bool) : List Char → Option (List Char)
  | [] => some []
  | character :: rest =>
      if character = '\n' then some rest
      else if inComment then if isText character then skipLineEnd true rest else none
      else if isSpace character then skipLineEnd false rest
      else if character = '#' then skipLineEnd true rest
      else none

/-- Reads a given character. -/
def skipCharacter (expected : Char) : List Char → Option (List Char)
  | [] => none
  | character :: rest => if character = expected then some rest else none

/-- Reads a given word. -/
def skipWord (word text : List Char) : Option (List Char) :=
  if word.isPrefixOf text then some (text.drop word.length) else none

end KeyedBatching.Toml
