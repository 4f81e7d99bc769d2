import KeyedBatching.Telemetry.Pattern.Basic

/-!
# Modes of a pattern

A pattern is matched against Unicode characters or against bytes, and with or
without regard to letter case. No Unicode tables are at hand, so a pattern of
characters must do without letter case, word boundaries and classes named by a
letter. A pattern of bytes may use all of these, with their ASCII meaning, but
must not match anything that is no character.
-/

namespace KeyedBatching.Telemetry.Pattern

/-- How a part of a pattern is matched. -/
structure Mode where
  foldsCase : Bool := false
  unicode : Bool := true
deriving DecidableEq

/-- The mode after a choice of modes. -/
def Mode.choose (setting : FlagSetting) (mode : Mode) : Mode :=
  { foldsCase := setting.foldsCase.getD mode.foldsCase
    unicode := setting.unicode.getD mode.unicode }

/-- A character of ASCII. -/
def Literal.isAscii (literal : Literal) : Bool :=
  literal.character.toNat < 0x80

/-- An atom can be matched. -/
def Atom.isMatchable (mode : Mode) : Atom → Bool
  | .literal written =>
      if mode.unicode then !mode.foldsCase else written.isAscii || !written.isByte
  | .anyCharacter => mode.unicode
  | .anchor => true
  | .wordBoundary => !mode.unicode
  | .letterClass negated => !mode.unicode && !negated

namespace CharacterSet

/-- A character of a set can be matched. -/
def isMatchableLiteral (mode : Mode) (member : Literal) : Bool :=
  if mode.unicode then !mode.foldsCase else member.isAscii

mutual

/-- A set can be matched. -/
def isMatchable (mode : Mode) : CharacterSet → Bool
  | .empty => true
  | .literal member => isMatchableLiteral mode member
  | .range first last => isMatchableLiteral mode first && isMatchableLiteral mode last
  | .wordClass negated => if mode.unicode then !mode.foldsCase else !negated
  | .letterClass negated => !mode.unicode && !negated
  | .bracket negated content => (mode.unicode || !negated) && content.isMatchable mode
  | .union items => areMatchable mode items
  | .operation left right => left.isMatchable mode && right.isMatchable mode

/-- Some items of a set can be matched. -/
def areMatchable (mode : Mode) : List CharacterSet → Bool
  | [] => true
  | item :: rest => item.isMatchable mode && areMatchable mode rest

end

end CharacterSet

mutual

/-- The mode after a pattern, if that can be matched from the given mode on. -/
def modeAfter? (mode : Mode) : Pattern → Option Mode
  | .empty => some mode
  | .atom part => if part.isMatchable mode then some mode else none
  | .flags setting => some (mode.choose setting)
  | .set bracket => if bracket.isMatchable mode then some mode else none
  | .repetition operand => operand.modeAfter? mode
  | .group _ setting content => (content.modeAfter? (mode.choose setting)).map fun _ => mode
  | .sequence items => modeAfterItems? mode items
  | .alternatives branches => modeAfterItems? mode branches

/-- The mode after some items, one after the other. -/
def modeAfterItems? (mode : Mode) : List Pattern → Option Mode
  | [] => some mode
  | item :: rest => (item.modeAfter? mode).bind fun reached => modeAfterItems? reached rest

end

/-- A pattern can be matched. -/
def isMatchable (pattern : Pattern) : Bool :=
  (pattern.modeAfter? {}).isSome

end KeyedBatching.Telemetry.Pattern
