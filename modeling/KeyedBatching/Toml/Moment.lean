import KeyedBatching.Toml.Characters

/-!
# Dates and times of a TOML document

A date, a time of day, or both with an offset or without. A date exists in the
calendar, and a minute may have a leap second.
-/

namespace KeyedBatching.Toml

open Text

/-- Reads a given number of decimal digits. -/
def readPlaces (count : Nat) (text : List Char) : Option (Nat × List Char) :=
  let digits := text.take count
  if digits.length = count ∧ digits.all isDecimal then
    some (numberOf 10 digits, text.drop count)
  else none

/-- Reads a two-digit number within a range. -/
def readTwoPlaces (least greatest : Nat) (text : List Char) : Option (Nat × List Char) :=
  (readPlaces 2 text).filter fun outcome => least ≤ outcome.1 && outcome.1 ≤ greatest

/-- A year with a day more. -/
def isLeapYear (year : Nat) : Bool :=
  year % 4 = 0 && (year % 100 ≠ 0 || year % 400 = 0)

/-- The number of days of a month. -/
def daysInMonth (year month : Nat) : Nat :=
  if month = 2 then if isLeapYear year then 29 else 28
  else if month = 4 ∨ month = 6 ∨ month = 9 ∨ month = 11 then 30
  else 31

/-- Reads a date. -/
def skipDate (text : List Char) : Option (List Char) := do
  let (year, text) ← readPlaces 4 text
  let text ← skipCharacter '-' text
  let (month, text) ← readTwoPlaces 1 12 text
  let text ← skipCharacter '-' text
  let (_, text) ← readTwoPlaces 1 (daysInMonth year month) text
  some text

/-- Reads the fraction of a second, if there is one. -/
def skipSecondFraction : List Char → List Char
  | '.' :: digit :: rest =>
      if isDecimal digit then rest.dropWhile isDecimal else '.' :: digit :: rest
  | text => text

/-- Reads a time of day. -/
def skipTime (text : List Char) : Option (List Char) := do
  let (_, text) ← readTwoPlaces 0 23 text
  let text ← skipCharacter ':' text
  let (_, text) ← readTwoPlaces 0 59 text
  let text ← skipCharacter ':' text
  let (_, text) ← readTwoPlaces 0 60 text
  some (skipSecondFraction text)

/-- Reads an offset in hours and minutes. -/
def skipOffset (text : List Char) : Option (List Char) := do
  let (_, text) ← readTwoPlaces 0 23 text
  let text ← skipCharacter ':' text
  let (_, text) ← readTwoPlaces 0 59 text
  some text

/-- Reads an offset, if there is one. -/
def skipOptionalOffset (text : List Char) : Option (List Char) :=
  match text with
  | [] => some []
  | mark :: rest =>
      if mark = 'Z' ∨ mark = 'z' then some rest
      else if mark = '+' ∨ mark = '-' then skipOffset rest
      else some text

/-- Reads a time of day behind a date, if there is one. -/
def skipOptionalTime (text : List Char) : Option (List Char) :=
  match text with
  | [] => some []
  | mark :: rest =>
      if mark = 'T' ∨ mark = 't' ∨ mark = ' ' then
        match skipTime rest with
        | some afterTime => skipOptionalOffset afterTime
        | none => some text
      else some text

/-- Reads a date, a time or both. -/
def readMoment (text : List Char) : Option (Value × List Char) := do
  let rest ←
    match skipDate text with
    | some afterDate => skipOptionalTime afterDate
    | none => skipTime text
  some (.moment (String.ofList (text.take (text.length - rest.length))), rest)

end KeyedBatching.Toml
