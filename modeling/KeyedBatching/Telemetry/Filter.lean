import KeyedBatching.Telemetry.Directive

/-!
# Log filters

A filter is a comma-separated list of directives. Nothing here happens inside a
span, so only directives without a span and without a value decide about an event:
the one that describes it most closely, and no event passes without such a one.
A logger takes any reader of filters; this is the one with which a program runs.
-/

namespace KeyedBatching.Telemetry

/-- Directives in the order in which they were written. -/
structure Filter where
  directives : List Directive
deriving DecidableEq

namespace Filter

/-- The parts of a text between commas. -/
def splitAtCommas : List Char → List (List Char)
  | [] => [[]]
  | ',' :: rest => [] :: splitAtCommas rest
  | character :: rest =>
      match splitAtCommas rest with
      | [] => [[character]]
      | part :: parts => (character :: part) :: parts

/-- Reads a filter; empty parts are skipped. -/
def read? (text : String) : Option Filter :=
  let parts := (splitAtCommas text.toList).filter fun part => !part.isEmpty
  (parts.mapM Directive.read?).map Filter.mk

/-- The directive that decides about an event: the closest one, the last of equals. -/
def deciding (filter : Filter) (event : LogEvent) : Option Directive :=
  (filter.directives.filter fun directive => directive.isStatic && directive.concerns event).foldl
    (fun best directive =>
      match best with
      | none => some directive
      | some found => if directive.isVaguerThan found then some found else some directive)
    none

/-- An event passes the filter. -/
def admits (filter : Filter) (event : LogEvent) : Bool :=
  match filter.deciding event with
  | none => false
  | some directive => directive.limit.admits event.level

end Filter

end KeyedBatching.Telemetry
