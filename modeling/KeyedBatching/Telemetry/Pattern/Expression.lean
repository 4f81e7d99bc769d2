import KeyedBatching.Telemetry.Pattern.CharacterSet
import KeyedBatching.Telemetry.Pattern.Mode
import KeyedBatching.Text.Alphanumeric

/-!
# Regular expressions

A pattern is a choice between branches of atoms, sets, groups and repetitions. A
choice of modes lasts to the end of the group in which it stands, across the
branches that follow. A pattern can be used if it is well formed and not nested
too deep, if its groups have different names, and if it can be matched.
-/

namespace KeyedBatching.Telemetry.Pattern

/-- What stands at the start of a group. -/
inductive Opening where
  /-- The group holds nothing but a choice of modes. -/
  | flags (setting : FlagSetting)
  /-- The group has a content. -/
  | group (name : Option (List Char)) (setting : FlagSetting)
deriving DecidableEq

/-- The letters of the modes, and the hyphen before those that are switched off. -/
def flagLetters : List Char :=
  "imsURux-".toList

/-- Whether a mode is switched on or off by some letters. -/
def switch? (letter : Char) (letters : List Char) : Option Bool :=
  if letters.contains letter then some (!(letters.takeWhile (· ≠ letter)).contains '-')
  else none

/-- The choice of modes that some letters write, each of them once. -/
def FlagSetting.ofLetters? (letters : List Char) : Option FlagSetting :=
  if letters.all flagLetters.contains && decide letters.Nodup && letters.getLast? ≠ some '-' then
    some ⟨switch? 'i' letters, switch? 'u' letters, switch? 'x' letters⟩
  else none

/-- Reads a choice of modes, which has a content after a colon. -/
def readFlags (text : List Char) : Option (Opening × List Char) :=
  let endsFlags (character : Char) : Bool := character = ':' || character = ')'
  let letters := text.takeWhile fun character => !endsFlags character
  match FlagSetting.ofLetters? letters, text.dropWhile fun character => !endsFlags character with
  | some setting, ':' :: rest => some (.group none setting, rest)
  | some setting, _ :: rest => if letters.isEmpty then none else some (.flags setting, rest)
  | _, _ => none

/-- A name starts with a letter or an underscore. -/
def startsName (character : Char) : Bool :=
  character = '_' || Text.isAlphabetic character

/-- A further character of a name. -/
def continuesName (character : Char) : Bool :=
  "_.[]".toList.contains character || Text.isAlphanumeric character

/-- Reads the name of a group. -/
def readName (text : List Char) : Option (Opening × List Char) :=
  match text.takeWhile (· ≠ '>'), text.dropWhile (· ≠ '>') with
  | first :: others, _ :: rest =>
      if startsName first && others.all continuesName then
        some (.group (some (first :: others)) {}, rest)
      else none
  | _, _ => none

/-- Reads the start of a group after its parenthesis. -/
def readOpening (verbose : Bool) (text : List Char) : Option (Opening × List Char) :=
  match skip verbose text with
  | '?' :: 'P' :: '<' :: rest => readName rest
  | '?' :: '<' :: rest => readName rest
  | '?' :: rest => readFlags rest
  | rest => some (.group none {}, rest)

/-- Reads a set or an atom. -/
def readOperand (verbose : Bool) : Reader Pattern
  | '[' :: rest =>
      (CharacterSet.read? verbose rest).map fun outcome => (.set outcome.1, outcome.2)
  | text => (readAtom verbose text).map fun outcome => (.atom outcome.1, outcome.2)

/-- Repeats the last of some items, which come in reverse. -/
def repeatLast? : List Pattern → Option (List Pattern)
  | [] => none
  | item :: before => if item.isFlags then none else some (.repetition item :: before)

/-- Skips the mark after a repetition that prefers few times to many. -/
def skipLazyMark : List Char → List Char
  | '?' :: rest => rest
  | text => text

/-- A mark that repeats what stands before it. -/
def isRepetitionMark (character : Char) : Bool :=
  "*+?".toList.contains character

/-- Reads the rest of a group up to its closing parenthesis or the end of the text, after some
branches and the items of the last branch, both in reverse. -/
def readBranches :
    Nat → Bool → List Pattern → List Pattern → List Char → Option (Pattern × List Char)
  | 0, _, _, _, _ => none
  | fuel + 1, verbose, branches, items, text =>
      match skip verbose text with
      | [] => some (ofBranches (ofItems items.reverse :: branches).reverse, [])
      | ')' :: rest => some (ofBranches (ofItems items.reverse :: branches).reverse, ')' :: rest)
      | '|' :: rest => readBranches fuel verbose (ofItems items.reverse :: branches) [] rest
      | '(' :: rest =>
          match readOpening verbose rest with
          | none => none
          | some (.flags setting, rest) =>
              readBranches fuel (setting.verbose.getD verbose) branches (.flags setting :: items)
                rest
          | some (.group name setting, rest) =>
              match readBranches fuel (setting.verbose.getD verbose) [] [] rest with
              | some (content, ')' :: rest) =>
                  readBranches fuel verbose branches (.group name setting content :: items) rest
              | _ => none
      | mark :: rest =>
          if isRepetitionMark mark then
            match repeatLast? items with
            | none => none
            | some items => readBranches fuel verbose branches items (skipLazyMark rest)
          else
            match readOperand verbose (mark :: rest) with
            | none => none
            | some (item, rest) => readBranches fuel verbose branches (item :: items) rest

/-- Reads a pattern. -/
def read? (text : List Char) : Option Pattern :=
  match readBranches (text.length + 1) false [] [] text with
  | some (pattern, []) => some pattern
  | _ => none

/-- How deep a pattern may be nested. -/
def depthLimit : Nat := 250

/-- A pattern can be used in a filter. -/
def isUsable (pattern : Pattern) : Bool :=
  pattern.depth ≤ depthLimit && decide pattern.names.Nodup && pattern.isMatchable

/-- A text is a pattern that can be used in a filter. -/
def isWellFormed (text : List Char) : Bool :=
  (read? text).any isUsable

end KeyedBatching.Telemetry.Pattern
