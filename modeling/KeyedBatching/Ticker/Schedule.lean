import KeyedBatching.KeyTable
import KeyedBatching.Time

/-!
# The ticker's schedule

Every registration is looked at at a fixed rate of its own. Collecting at an
instant takes the registrations that are due, each once, and moves each of them
to the next point of its grid, or a period from now if that point has passed too:
missed looks are skipped, not made up for in a burst.
-/

namespace KeyedBatching

/-- What a handler does in a simulation, which can be told from outside. -/
structure Handler where
  /-- How long the handler runs. -/
  duration : Duration := 0
  /-- The handler shuts its owner's ticker down first, whichever ticker calls it. -/
  stopsTicker : Bool := false
  /-- The handler panics at the end of each of its calls. -/
  panics : Bool := false
deriving DecidableEq

/-- A timer that a ticker watches, and the handler of its expired windows. -/
structure Registration where
  id : Nat
  /-- The number of the watched timer. -/
  timer : Nat
  /-- The number of the inbox in which the handler leaves what it was called with. -/
  inbox : Nat
  handler : Handler
deriving DecidableEq

/-- When a registration is looked at next, and how often after that. -/
structure Appointment where
  registration : Registration
  due : Instant
  period : Duration
deriving DecidableEq

namespace Appointment

/-- The same appointment at another instant. -/
def movedTo (appointment : Appointment) (due : Instant) : Appointment :=
  { appointment with due }

/-- The appointment after one that has come, unless it lies beyond the clock's range. -/
def next? (now : Instant) (appointment : Appointment) : Option Appointment :=
  match Instant.add? appointment.due appointment.period with
  | none => none
  | some onGrid =>
      if onGrid ≤ now then (Instant.add? now appointment.period).map appointment.movedTo
      else some (appointment.movedTo onGrid)

end Appointment

/-- The appointments of the live registrations, by their numbers. -/
abbrev Schedule :=
  KeyTable Nat Appointment

namespace Schedule

/-- The registrations due among some entries, and the entries after them. -/
def collectEntries (now : Instant) :
    List (Nat × Appointment) → Option (List Registration × List (Nat × Appointment))
  | [] => some ([], [])
  | (id, appointment) :: rest =>
      if now < appointment.due then
        (collectEntries now rest).map fun later => (later.1, (id, appointment) :: later.2)
      else
        match appointment.next? now, collectEntries now rest with
        | some moved, some later =>
            some (appointment.registration :: later.1, (id, moved) :: later.2)
        | _, _ => none

/-- Takes the registrations that are due; without a result some next look has no instant. -/
def collect (now : Instant) (schedule : Schedule) : Option (List Registration × Schedule) :=
  (collectEntries now schedule.entries).map fun outcome => (outcome.1, ⟨outcome.2⟩)

/-- The earliest instant at which a registration is due. -/
def earliest (schedule : Schedule) : Option Instant :=
  (schedule.values.map Appointment.due).min?

end Schedule

end KeyedBatching
