/-!
# Patterns of field values

A filter may compare a field with a pattern, a regular expression. Patterns are
kept as trees here, with only as much of them as decides whether they can be
used: which characters a class holds, say, or which mark repeats an operand,
makes no difference. The depth of a tree counts the nodes around one another
that hold other parts.
-/

namespace KeyedBatching.Telemetry

namespace Pattern

/-- A character that stands for itself. -/
structure Literal where
  character : Char
  /-- The character is written by the two digits of its byte. -/
  isByte : Bool := false
deriving DecidableEq

/-- The parts of a pattern without parts of their own. -/
inductive Atom where
  | literal (literal : Literal)
  /-- The point, which stands for any character. -/
  | anyCharacter
  /-- The start or the end of a line or the text. -/
  | anchor
  /-- The start or the end of a word, or a place that is neither. -/
  | wordBoundary
  /-- A class named by a letter: digits, blanks or letters of words, or all but those. -/
  | letterClass (negated : Bool)
deriving DecidableEq

/-- A choice of the modes that decide about a pattern; the others are not kept. -/
structure FlagSetting where
  foldsCase : Option Bool := none
  unicode : Option Bool := none
  verbose : Option Bool := none
deriving DecidableEq

/-- What stands between brackets. -/
inductive CharacterSet where
  | empty
  | literal (literal : Literal)
  | range (first last : Literal)
  /-- A class named by a word. -/
  | wordClass (negated : Bool)
  /-- A class named by a letter. -/
  | letterClass (negated : Bool)
  /-- A set in brackets of its own. -/
  | bracket (negated : Bool) (content : CharacterSet)
  /-- Several items side by side. -/
  | union (items : List CharacterSet)
  /-- An intersection or a difference. -/
  | operation (left right : CharacterSet)

namespace CharacterSet

/-- The set of some items; a single one needs no union. -/
def ofItems : List CharacterSet → CharacterSet
  | [] => .empty
  | [item] => item
  | items => .union items

mutual

/-- The depth of a set. -/
def depth : CharacterSet → Nat
  | .empty | .literal _ | .range _ _ | .wordClass _ | .letterClass _ => 0
  | .bracket _ content => content.depth + 1
  | .union items => depthOfItems items + 1
  | .operation left right => max left.depth right.depth + 1

/-- The depth of the deepest item. -/
def depthOfItems : List CharacterSet → Nat
  | [] => 0
  | item :: rest => max item.depth (depthOfItems rest)

end

end CharacterSet

end Pattern

/-- A regular expression. -/
inductive Pattern where
  | empty
  | atom (atom : Pattern.Atom)
  /-- A choice of modes for what follows in the same group. -/
  | flags (setting : Pattern.FlagSetting)
  /-- A set in brackets. -/
  | set (bracket : Pattern.CharacterSet)
  | repetition (operand : Pattern)
  /-- A group, perhaps with a name, and the modes chosen for its content. -/
  | group (name : Option (List Char)) (setting : Pattern.FlagSetting) (content : Pattern)
  /-- Several items side by side. -/
  | sequence (items : List Pattern)
  | alternatives (branches : List Pattern)

namespace Pattern

/-- The pattern of some items side by side; a single one needs no sequence. -/
def ofItems : List Pattern → Pattern
  | [] => .empty
  | [item] => item
  | items => .sequence items

/-- The pattern of some branches, of which there is at least one. -/
def ofBranches : List Pattern → Pattern
  | [branch] => branch
  | branches => .alternatives branches

/-- A choice of modes, which cannot be repeated. -/
def isFlags : Pattern → Bool
  | .flags _ => true
  | _ => false

mutual

/-- The depth of a pattern. -/
def depth : Pattern → Nat
  | .empty | .atom _ | .flags _ => 0
  | .set bracket => bracket.depth
  | .repetition operand => operand.depth + 1
  | .group _ _ content => content.depth + 1
  | .sequence items => depthOfItems items + 1
  | .alternatives branches => depthOfItems branches + 1

/-- The depth of the deepest item. -/
def depthOfItems : List Pattern → Nat
  | [] => 0
  | item :: rest => max item.depth (depthOfItems rest)

end

mutual

/-- The names of the groups of a pattern. -/
def names : Pattern → List (List Char)
  | .empty | .atom _ | .flags _ | .set _ => []
  | .repetition operand => operand.names
  | .group name _ content => name.toList ++ content.names
  | .sequence items => namesOfItems items
  | .alternatives branches => namesOfItems branches

/-- The names of the groups of some items. -/
def namesOfItems : List Pattern → List (List Char)
  | [] => []
  | item :: rest => item.names ++ namesOfItems rest

end

end Pattern

end KeyedBatching.Telemetry
