import KeyedBatching.Time

/-!
# Demands on the machine

A call may ask for more than there is: for an instant that the clock never reaches,
or for more memory in one piece than the machine can give.  Then it does not return.
Demands are named here, apart from the machines that meet them or do not.
-/

namespace KeyedBatching

/-- What a call asks of the machine on which it runs. -/
inductive Demand where
  /-- The instant some time after another. -/
  | instant (start : Instant) (duration : Duration)
  /-- Memory for a number of requests, in one piece. -/
  | room (requests : Nat)
deriving DecidableEq

/-- How large requests are on a machine, and how much memory it has for them. -/
structure Machine where
  /-- The bytes of a request. -/
  requestSize : Nat := 64
  /-- The bytes that can be had in one piece; by default, those that 47 bits can address. -/
  memory : Nat := 140737488355328
deriving DecidableEq

namespace Machine

/-- The most bytes that a piece of memory has on any machine, `2 ^ 63 - 1`. -/
def pieceLimit : Nat := 9223372036854775807

/-- A machine meets a demand. -/
def meets (machine : Machine) : Demand → Bool
  | .instant start duration => (Instant.add? start duration).isSome
  | .room requests => requests * machine.requestSize ≤ min machine.memory pieceLimit

variable {machine : Machine}

theorem meets_instant_iff {start : Instant} {duration : Duration} :
    machine.meets (.instant start duration) = true ↔ start + duration < Instant.limit := by
  simp [meets, Option.isSome_iff_exists, Instant.add?_eq_some_iff]

/-- No machine has room for as many requests as a word can count. -/
theorem not_meets_room_largest (sized : 0 < machine.requestSize) :
    ¬machine.meets (.room 18446744073709551615) = true := by
  intro room
  have fits := of_decide_eq_true room
  rw [pieceLimit] at fits
  omega

end Machine

end KeyedBatching
