import KeyedBatching.Word

/-!
# Time

Durations and instants are counted in nanoseconds. A clock reading fits in a
signed 64-bit count of seconds, so an instant beyond that range does not exist
and moving past it has no result.
-/

namespace KeyedBatching

/-- A span of time in nanoseconds. -/
abbrev Duration := Nat

/-- A moment in nanoseconds after the origin of a clock that never goes back. -/
abbrev Instant := Nat

namespace Duration

/-- The nanoseconds in one second. -/
def second : Duration := 1000000000

/-- A duration of whole milliseconds. -/
def ofMilliseconds (milliseconds : Nat) : Duration :=
  milliseconds * 1000000

/-- A duration of whole seconds and further nanoseconds. -/
def ofSeconds (seconds nanoseconds : Nat) : Duration :=
  seconds * second + nanoseconds

/-- The whole milliseconds of a duration. -/
def wholeMilliseconds (duration : Duration) : Nat :=
  duration / 1000000

/-- The whole milliseconds as a word, which drops what does not fit. -/
def reportedMilliseconds (duration : Duration) : Nat :=
  wholeMilliseconds duration % wordLimit

theorem wholeMilliseconds_ofMilliseconds (milliseconds : Nat) :
    wholeMilliseconds (ofMilliseconds milliseconds) = milliseconds := by
  simp [wholeMilliseconds, ofMilliseconds]

theorem reportedMilliseconds_ofMilliseconds {milliseconds : Nat}
    (fits : milliseconds < wordLimit) :
    reportedMilliseconds (ofMilliseconds milliseconds) = milliseconds := by
  simp only [reportedMilliseconds, wholeMilliseconds_ofMilliseconds]
  exact Nat.mod_eq_of_lt fits

/-- The digits of a fraction with the given number of places, without trailing zeros. -/
def fractionDigits (fraction places : Nat) : List Char :=
  let digits := Nat.toDigits 10 fraction
  let padded := List.replicate (places - digits.length) '0' ++ digits
  (padded.reverse.dropWhile (· == '0')).reverse

/-- A duration in a unit of `10 ^ places` nanoseconds, the rest as a decimal fraction. -/
def inUnit (duration : Duration) (places : Nat) (unit : String) : String :=
  let whole := toString (duration / Nat.pow 10 places)
  let fraction := duration % Nat.pow 10 places
  if fraction = 0 then whole ++ unit
  else whole ++ "." ++ String.ofList (fractionDigits fraction places) ++ unit

/-- A duration in the largest unit that it fills, with every further digit. -/
def text (duration : Duration) : String :=
  if second ≤ duration then inUnit duration 9 "s"
  else if 1000000 ≤ duration then inUnit duration 6 "ms"
  else if 1000 ≤ duration then inUnit duration 3 "µs"
  else toString duration ++ "ns"

end Duration

namespace Instant

/-- The first count of nanoseconds that is no instant: `2 ^ 63` seconds. -/
def limit : Nat := 9223372036854775808 * 1000000000

/-- The instant after a duration, if the clock reaches it. -/
def add? (instant : Instant) (duration : Duration) : Option Instant :=
  if instant + duration < limit then some (instant + duration) else none

theorem add?_eq_some_iff {instant later : Instant} {duration : Duration} :
    add? instant duration = some later ↔
      later = instant + duration ∧ instant + duration < limit := by
  unfold add?
  split <;> simp_all [eq_comm]

end Instant

end KeyedBatching
