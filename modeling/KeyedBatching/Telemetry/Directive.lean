import KeyedBatching.Telemetry.LevelLimit
import KeyedBatching.Telemetry.Pattern.Expression
import KeyedBatching.Text.Bytes

/-!
# Filter directives

A directive limits the level of the events in its scope: those whose target starts
with a text, that happen inside a span, or that have a field. It is written as
`target[span{field=value}]=level`, and every part of that may be left out.

The structure of a directive is found without the blanks at its ends, but its words
are cut out at the same offsets of the text with those blanks. Blanks in front
therefore shift every word, and blanks at the end belong to the last word.
-/

namespace KeyedBatching.Telemetry

/-- A field that an event must have, and perhaps the text of the value it must have. -/
structure FieldCondition where
  name : List Char
  value : Option (List Char)
deriving DecidableEq

namespace FieldCondition

/-- A text without a sign in front. -/
def unsigned : List Char → List Char
  | '+' :: rest => rest
  | '-' :: rest => rest
  | text => text

/-- Digits around a point, with at least one digit. -/
def isDecimal (text : List Char) : Bool :=
  let whole := text.takeWhile Char.isDigit
  match text.dropWhile Char.isDigit with
  | [] => !whole.isEmpty
  | '.' :: fraction => fraction.all Char.isDigit && !(whole.isEmpty && fraction.isEmpty)
  | _ => false

/-- A number, perhaps with an exponent, an infinity or no number at all, in any case. -/
def isNumber (text : List Char) : Bool :=
  let lower := (unsigned text).map Char.toLower
  let hasExponent :=
    match lower.dropWhile (· ≠ 'e') with
    | [] => true
    | _ :: exponent => !(unsigned exponent).isEmpty && (unsigned exponent).all Char.isDigit
  ["inf", "infinity", "nan"].any (fun word => word.toList = lower) ||
    (isDecimal (lower.takeWhile (· ≠ 'e')) && hasExponent)

/-- Reads `name` or `name=value`, where the value is a number or a pattern; a further `=` ends the
value, and what follows it is not looked at. -/
def read? (text : List Char) : Option FieldCondition :=
  let name := text.takeWhile (· ≠ '=')
  match text.dropWhile (· ≠ '=') with
  | [] => if name.isEmpty then none else some ⟨name, none⟩
  | _ :: rest =>
      let value := rest.takeWhile (· ≠ '=')
      if isNumber value || Pattern.isWellFormed value then some ⟨name, some value⟩ else none

end FieldCondition

/-- The events that a directive speaks about. -/
structure Scope where
  /-- The start of their targets. -/
  target : Option (List Char) := none
  /-- The span in which they happen; an empty name stands for any span. -/
  span : Option (List Char) := none
  field : Option FieldCondition := none
deriving DecidableEq

/-- A rule that limits the level of the events in a scope. -/
structure Directive where
  scope : Scope
  limit : LevelLimit
deriving DecidableEq

namespace Directive

/-- How far a directive was read; the number is the byte offset at which the current word starts. -/
inductive Reading where
  | start
  | word
  | span (target : Option (List Char)) (opening : Nat)
  | field (scope : Scope) (opening : Nat)
  | fieldEnd (scope : Scope)
  | scopeEnd (scope : Scope)
  | level (scope : Scope) (opening : Nat)
deriving DecidableEq

/-- A character with which a level or a target may start. -/
def startsWord (character : Char) : Bool :=
  character = '-' || character = ':' || character = '_' || Text.isAlphanumeric character

/-- Reads the character at an offset; the words are cut out of the text. -/
def Reading.step (text : List Char) (offset : Nat) (character : Char) :
    Reading → Option Reading
  | .start =>
      if character = '[' then some (.span none (offset + 1))
      else if startsWord character then some .word
      else none
  | .word =>
      if character = '=' then
        (Text.cut? text 0 offset).map fun target => .level { target := some target } (offset + 1)
      else if character = '[' then
        (Text.cut? text 0 offset).map fun target => .span (some target) (offset + 1)
      else some .word
  | .span target opening =>
      if character = ']' then
        (Text.cut? text opening offset).map fun name => .scopeEnd { target, span := some name }
      else if character = '\x7b' then
        (Text.cut? text opening offset).map fun name =>
          .field { target, span := if name.isEmpty then none else some name } (offset + 1)
      else some (.span target opening)
  | .field scope opening =>
      if character = '\x7d' then
        ((Text.cut? text opening offset).bind FieldCondition.read?).map fun condition =>
          .fieldEnd { scope with field := some condition }
      else some (.field scope opening)
  | .fieldEnd scope => if character = ']' then some (.scopeEnd scope) else none
  | .scopeEnd scope => if character = '=' then some (.level scope (offset + 1)) else none
  | .level scope opening => some (.level scope opening)

/-- Reads the characters from an offset on. -/
def Reading.advance (text : List Char) : Nat → List Char → Reading → Option Reading
  | _, [], reading => some reading
  | offset, character :: rest, reading =>
      (reading.step text offset character).bind
        (advance text (offset + character.utf8Size) rest)

/-- The directive at the end of a text. A lone word is a level if it reads as one and a target
otherwise; a scope without a level has no limit but the least urgent one. -/
def Reading.finish (text : List Char) : Reading → Option Directive
  | .word =>
      match LevelLimit.read? text with
      | some limit => some ⟨{}, limit⟩
      | none => some ⟨{ target := some text }, some .trace⟩
  | .scopeEnd scope => some ⟨scope, some .trace⟩
  | .level scope opening =>
      (Text.dropBytes? opening text).bind fun word =>
        if word.isEmpty then some ⟨scope, some .trace⟩
        else (LevelLimit.read? word).map fun limit => ⟨scope, limit⟩
  | _ => none

/-- Reads a directive. -/
def read? (text : List Char) : Option Directive :=
  (Reading.start.advance text 0 (Text.trimBlank text)).bind (Reading.finish text)

/-- The directive decides about events outside spans by their names alone. -/
def isStatic (directive : Directive) : Bool :=
  directive.scope.span.isNone && directive.scope.field.all fun field => field.value.isNone

/-- The directive speaks about an event, wherever it happens. -/
def concerns (directive : Directive) (event : LogEvent) : Bool :=
  directive.scope.target.all (fun target => target.isPrefixOf event.target.toList) &&
    directive.scope.field.all fun field =>
      event.fields.any fun (name, _) => name.toList = field.name

/-- The length of the target, with a place below all targets for none. -/
def targetLength (directive : Directive) : Nat :=
  directive.scope.target.elim 0 fun target => target.length + 1

/-- The directive describes events less closely than another one: by a shorter target, without a
field, or by a field whose name comes earlier. -/
def isVaguerThan (directive other : Directive) : Bool :=
  if directive.targetLength = other.targetLength then
    match directive.scope.field, other.scope.field with
    | none, field => field.isSome
    | some _, none => false
    | some field, some other =>
        List.lex field.name other.name fun first second => first.toNat < second.toNat
  else directive.targetLength < other.targetLength

end Directive

end KeyedBatching.Telemetry
