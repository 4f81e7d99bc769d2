import KeyedBatching.Telemetry.Pattern.Atom

/-!
# Sets in brackets

A set has characters, ranges, named classes and other sets side by side, and
operations between such unions, the left ones first. A hyphen is a character of
its own at the start of a set and in front of its end, and a closing bracket is
one where the set would have no items otherwise.
-/

namespace KeyedBatching.Telemetry.Pattern

namespace CharacterSet

/-- The words that name a class. -/
def classWords : List String :=
  ["alnum", "alpha", "ascii", "blank", "cntrl", "digit", "graph", "lower", "print", "punct",
   "space", "upper", "word", "xdigit"]

/-- Reads a class named by a word, after its opening bracket. -/
def readWordClass (text : List Char) : Option (CharacterSet × List Char) := do
  let rest ← match text with
    | ':' :: rest => some rest
    | _ => none
  let negated := rest.head? = some '^'
  let text := if negated then rest.drop 1 else rest
  let word := text.takeWhile (· ≠ ':')
  match text.dropWhile (· ≠ ':') with
  | ':' :: ']' :: rest =>
      if classWords.contains (String.ofList word) then some (.wordClass negated, rest) else none
  | _ => none

/-- An atom as an item of a set; places cannot be items. -/
def ofAtom? : Atom → Option CharacterSet
  | .literal member => some (.literal member)
  | .letterClass negated => some (.letterClass negated)
  | .anyCharacter | .anchor | .wordBoundary => none

/-- The range between two atoms, which must be characters in order. -/
def rangeOf? : Atom → Atom → Option CharacterSet
  | .literal first, .literal last =>
      if first.character ≤ last.character then some (.range first last) else none
  | _, _ => none

/-- A hyphen in front of the text is a character of its own or a part of an operation; in the
verbose mode one mark of a comment is passed over, but the comment itself counts. -/
def hyphenStandsAlone (verbose : Bool) (text : List Char) : Bool :=
  let ahead :=
    if verbose then
      match text.dropWhile Text.isBlank with
      | '#' :: comment => (comment.dropWhile Text.isBlank).head?
      | solid => solid.head?
    else none
  let next := ahead.or text.head?
  next = some ']' || next = some '-'

/-- Reads a character, a range, or a class named by a letter. -/
def readItem (verbose : Bool) (text : List Char) : Option (CharacterSet × List Char) := do
  let (first, rest) ← readMember verbose text
  let alone := (ofAtom? first).map fun item => (item, rest)
  match skip verbose rest with
  | '-' :: afterHyphen =>
      if hyphenStandsAlone verbose afterHyphen then alone
      else
        let (last, rest) ← readMember verbose (skip verbose afterHyphen)
        (rangeOf? first last).map fun range => (range, rest)
  | _ => alone

/-- Reads the hyphens at the start of a set, which are characters. -/
def readHyphens (verbose : Bool) : List Char → List CharacterSet × List Char
  | '-' :: rest =>
      let outcome := readHyphens verbose (skip verbose rest)
      (.literal { character := '-' } :: outcome.1, outcome.2)
  | text => ([], text)
termination_by text => text.length
decreasing_by exact Nat.lt_succ_of_le (length_skip_le verbose rest)

/-- Reads the start of a set after its bracket: whether it is negated, and its first characters. -/
def readStart (verbose : Bool) (text : List Char) :
    (Bool × List CharacterSet) × List Char :=
  let text := skip verbose text
  let negated := text.head? = some '^'
  let text := if negated then skip verbose (text.drop 1) else text
  match readHyphens verbose text with
  | ([], ']' :: rest) => ((negated, [.literal { character := ']' }]), rest)
  | (hyphens, rest) => ((negated, hyphens), rest)

/-- The set of what stands before an operation, if there is one, and the items after it, the last
one first. -/
def join (before : Option CharacterSet) (items : List CharacterSet) : CharacterSet :=
  let union := ofItems items.reverse
  match before with
  | none => union
  | some left => .operation left union

/-- The rest of the text after an operation, if one stands in front. -/
def afterOperation? : List Char → Option (List Char)
  | '&' :: '&' :: rest => some rest
  | '-' :: '-' :: rest => some rest
  | '~' :: '~' :: rest => some rest
  | _ => none

/-- Reads the rest of a set up to its closing bracket, after some items of the last union. -/
def readContent (verbose : Bool) :
    Nat → Option CharacterSet → List CharacterSet → List Char → Option (CharacterSet × List Char)
  | 0, _, _, _ => none
  | fuel + 1, before, items, text =>
      match skip verbose text with
      | [] => none
      | ']' :: rest => some (join before items, rest)
      | '[' :: rest =>
          match readWordClass rest with
          | some (named, rest) => readContent verbose fuel before (named :: items) rest
          | none =>
              let ((negated, leading), rest) := readStart verbose rest
              match readContent verbose fuel none leading rest with
              | none => none
              | some (content, rest) =>
                  readContent verbose fuel before (.bracket negated content :: items) rest
      | text =>
          match afterOperation? text with
          | some rest => readContent verbose fuel (some (join before items)) [] rest
          | none =>
              match readItem verbose text with
              | none => none
              | some (item, rest) => readContent verbose fuel before (item :: items) rest

/-- Reads a set after its opening bracket. -/
def read? (verbose : Bool) (text : List Char) : Option (CharacterSet × List Char) :=
  let ((negated, leading), rest) := readStart verbose text
  (readContent verbose (rest.length + 1) none leading rest).map fun outcome =>
    (.bracket negated outcome.1, outcome.2)

end CharacterSet

end KeyedBatching.Telemetry.Pattern
