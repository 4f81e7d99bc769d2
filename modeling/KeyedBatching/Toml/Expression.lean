import KeyedBatching.Toml.Moment
import KeyedBatching.Toml.Number
import KeyedBatching.Toml.Quotation
import KeyedBatching.Toml.Table

/-!
# Keys and values of a TOML document

Arrays and inline tables may nest up to a limit, which is what the reading of
values recurses on. The pairs of an inline table stand on one line.
-/

namespace KeyedBatching.Toml

/-- The first count of nested values, and of parts of a key, that is too many. -/
def nestingLimit : Nat := 80

/-- A character of a key without quotes. -/
def isBareKey (character : Char) : Bool :=
  character.isAlphanum || character = '_' || character = '-'

/-- Reads one part of a key: bare, or a string on one line. -/
def readKeyPart (text : List Char) : Option (List Char × List Char) :=
  match text with
  | '\x22' :: rest => readBasic rest
  | '\x27' :: rest => readLiteral rest
  | _ =>
      let bare := text.takeWhile isBareKey
      if bare.isEmpty then none else some (bare, text.dropWhile isBareKey)

/-- Reads the parts of a key between points, at most as many as the budget says. -/
def readKeyParts : Nat → List Char → Option (List String × List Char)
  | 0, _ => none
  | budget + 1, text => do
      let (part, rest) ← readKeyPart (skipSpaces text)
      let name := String.ofList part
      match skipSpaces rest with
      | '.' :: rest =>
          let (names, rest) ← readKeyParts budget rest
          some (name :: names, rest)
      | rest => some ([name], rest)

/-- Reads a key: the parts in front, and the last part. -/
def readKey (text : List Char) : Option ((List String × String) × List Char) := do
  let (names, rest) ← readKeyParts (nestingLimit - 1) text
  let last ← names.getLast?
  some ((names.dropLast, last), rest)

/-- Reads the values of an array up to its end, with the blanks in between. -/
def readItems (item : Reader Value) : Nat → List Char → Option (List Value × List Char)
  | 0, _ => none
  | budget + 1, text => do
      match ← skipTrivia false text with
      | ']' :: rest => some ([], rest)
      | text =>
          let (value, rest) ← item text
          match ← skipTrivia false rest with
          | ']' :: rest => some ([value], rest)
          | ',' :: rest =>
              let (values, rest) ← readItems item budget rest
              some (value :: values, rest)
          | _ => none

/-- Reads a pair of an inline table into the table. -/
def readInlinePair (item : Reader Value) (table : Table) (text : List Char) :
    Option (Table × List Char) := do
  let ((path, key), rest) ← readKey text
  let rest ← skipCharacter '=' rest
  let (value, rest) ← item (skipSpaces rest)
  let table ← table.insert path key (.leaf value)
  some (table, skipSpaces rest)

/-- Reads the pairs of an inline table up to its end; there is at least one. -/
def readInlinePairs (item : Reader Value) :
    Nat → Table → List Char → Option (Table × List Char)
  | 0, _, _ => none
  | budget + 1, table, text => do
      let (table, rest) ← readInlinePair item table text
      match rest with
      | '\x7d' :: rest => some (table, rest)
      | ',' :: rest => readInlinePairs item budget table rest
      | _ => none

/-- Reads an inline table after its opening brace. -/
def readInlineTable (item : Reader Value) (text : List Char) : Option (Value × List Char) :=
  match skipSpaces text with
  | '\x7d' :: rest => some (.table [], rest)
  | text =>
      (readInlinePairs item text.length {} text).map fun outcome =>
        (.table (Node.toPairs outcome.1.entries), outcome.2)

/-- Reads a number or a date-time. -/
def readNumeric (text : List Char) : Option (Value × List Char) :=
  match readMoment text with
  | some outcome => some outcome
  | none =>
      match readFloat text with
      | some outcome => some outcome
      | none => readInteger text

/-- Reads a value that holds no other values. -/
def readScalar (text : List Char) : Option (Value × List Char) :=
  match text with
  | [] => none
  | first :: _ =>
      if first = quoteMark ∨ first = apostrophe then
        (readString text).map fun outcome => (.string (String.ofList outcome.1), outcome.2)
      else if first = 't' then
        (skipWord "true".toList text).map fun rest => (.boolean true, rest)
      else if first = 'f' then
        (skipWord "false".toList text).map fun rest => (.boolean false, rest)
      else readNumeric text

/-- Reads a value in which at most the given number of values nest. -/
def readValue : Nat → List Char → Option (Value × List Char)
  | 0, text => readScalar text
  | depth + 1, text =>
      match text with
      | '[' :: rest =>
          (readItems (readValue depth) (rest.length + 1) rest).map fun outcome =>
            (.array outcome.1, outcome.2)
      | '\x7b' :: rest => readInlineTable (readValue depth) rest
      | _ => readScalar text

end KeyedBatching.Toml
