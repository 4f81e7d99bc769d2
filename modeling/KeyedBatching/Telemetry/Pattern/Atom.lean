import KeyedBatching.Telemetry.Pattern.Basic
import KeyedBatching.Text.Blank
import KeyedBatching.Text.Digit
import KeyedBatching.Text.Reader

/-!
# Atoms of a pattern

How the smallest parts of a pattern are written. In the verbose mode, blanks and
comments may stand between them, and between the digits of a code point.
-/

namespace KeyedBatching.Telemetry.Pattern

/-- Skips blanks and comments. -/
def skipTrivia (inComment : Bool) : List Char → List Char
  | [] => []
  | character :: rest =>
      if inComment then skipTrivia (character ≠ '\n') rest
      else if Text.isBlank character then skipTrivia false rest
      else if character = '#' then skipTrivia true rest
      else character :: rest

/-- Skips what means nothing in a mode. -/
def skip (verbose : Bool) (text : List Char) : List Char :=
  if verbose then skipTrivia false text else text

/-- Skipping trivia leaves no more than there was. -/
theorem length_skipTrivia_le (inComment : Bool) (text : List Char) :
    (skipTrivia inComment text).length ≤ text.length := by
  induction text generalizing inComment with
  | nil => exact Nat.le_refl _
  | cons character rest induction =>
      unfold skipTrivia
      split
      · exact Nat.le_succ_of_le (induction _)
      · split
        · exact Nat.le_succ_of_le (induction _)
        · split
          · exact Nat.le_succ_of_le (induction _)
          · exact Nat.le_refl _

/-- Skipping leaves no more than there was. -/
theorem length_skip_le (verbose : Bool) (text : List Char) :
    (skip verbose text).length ≤ text.length := by
  unfold skip
  split
  · exact length_skipTrivia_le false text
  · exact Nat.le_refl _

/-- Reads hexadecimal digits, with nothing of meaning between them. -/
def readDigits (verbose : Bool) : Nat → Reader (List Char)
  | 0, text => some ([], text)
  | count + 1, text =>
      match skip verbose text with
      | [] => none
      | digit :: rest =>
          if Text.isHexadecimal digit then
            (readDigits verbose count rest).map fun outcome => (digit :: outcome.1, outcome.2)
          else none

/-- Reads the code point of a character, which has a number of digits. -/
def readCodePoint (verbose : Bool) (count : Nat) (text : List Char) :
    Option (Atom × List Char) := do
  let (digits, rest) ← readDigits verbose count text
  let character ← Text.escapedCharacter? digits
  pure (.literal { character, isByte := count = 2 }, rest)

/-- The atom that a character after a backslash stands for. -/
def escaped? (character : Char) : Option Atom :=
  if character = 'a' then some (.literal { character := '\x07' })
  else if character = 't' then some (.literal { character := '\t' })
  else if character = 'n' then some (.literal { character := '\n' })
  else if character = 'v' then some (.literal { character := '\x0b' })
  else if character = 'f' then some (.literal { character := '\x0c' })
  else if character = 'r' then some (.literal { character := '\r' })
  else if character = 'A' ∨ character = 'z' then some .anchor
  else if "bB<>".toList.contains character then some .wordBoundary
  else if "dsw".toList.contains character then some (.letterClass false)
  else if "DSW".toList.contains character then some (.letterClass true)
  else if character.toNat < 0x80 && !character.isAlphanum then some (.literal { character })
  else none

/-- Reads what follows a backslash. -/
def readEscape (verbose : Bool) : Reader Atom
  | [] => none
  | 'x' :: rest => readCodePoint verbose 2 rest
  | 'u' :: rest => readCodePoint verbose 4 rest
  | 'U' :: rest => readCodePoint verbose 8 rest
  | character :: rest => (escaped? character).map fun atom => (atom, rest)

/-- Reads an atom between brackets, where a backslash is the only mark. -/
def readMember (verbose : Bool) : Reader Atom
  | [] => none
  | '\x5c' :: rest => readEscape verbose rest
  | character :: rest => some (.literal { character }, rest)

/-- Reads an atom outside of brackets; a counted repetition is no part of a filter. -/
def readAtom (verbose : Bool) : Reader Atom
  | '.' :: rest => some (.anyCharacter, rest)
  | '^' :: rest => some (.anchor, rest)
  | '$' :: rest => some (.anchor, rest)
  | '\x7b' :: _ => none
  | text => readMember verbose text

end KeyedBatching.Telemetry.Pattern
