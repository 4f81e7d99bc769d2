/-!
# Priorities

A priority is a signed 32-bit number; higher ones are more urgent. The least
number means that a request has no preference and waits behind all others.
-/

namespace KeyedBatching

/-- A signed 32-bit priority; higher values are more urgent. -/
structure Priority where
  value : Int
  least_le : -2147483648 ≤ value
  le_greatest : value ≤ 2147483647
deriving DecidableEq

namespace Priority

/-- The least priority, which stands for no preference. -/
def least : Priority :=
  ⟨-2147483648, by decide, by decide⟩

/-- The priority of a request for which none was chosen. -/
def usual : Priority :=
  ⟨0, by decide, by decide⟩

instance : Inhabited Priority :=
  ⟨usual⟩

/-- The priority with the given value, if it is a signed 32-bit number. -/
def ofInt? (value : Int) : Option Priority :=
  if fits : -2147483648 ≤ value ∧ value ≤ 2147483647 then some ⟨value, fits.1, fits.2⟩ else none

instance : LT Priority :=
  ⟨fun first second => first.value < second.value⟩

instance : LE Priority :=
  ⟨fun first second => first.value ≤ second.value⟩

instance (first second : Priority) : Decidable (first < second) :=
  inferInstanceAs (Decidable (first.value < second.value))

instance (first second : Priority) : Decidable (first ≤ second) :=
  inferInstanceAs (Decidable (first.value ≤ second.value))

instance : Ord Priority :=
  ⟨fun first second => compare first.value second.value⟩

/-- A request with this priority has no preference. -/
def isLeast (priority : Priority) : Bool :=
  priority = least

theorem least_le_self (priority : Priority) : least ≤ priority :=
  priority.least_le

theorem lt_iff {first second : Priority} : first < second ↔ first.value < second.value :=
  Iff.rfl

theorem le_iff {first second : Priority} : first ≤ second ↔ first.value ≤ second.value :=
  Iff.rfl

theorem not_lt_least (priority : Priority) : ¬ priority < least := by
  have := priority.least_le
  simp only [lt_iff, least]
  omega

/-- The greatest of some priorities. -/
def greatest? (priorities : List Priority) : Option Priority :=
  priorities.foldl (fun best priority =>
    match best with
    | none => some priority
    | some found => if found ≤ priority then some priority else some found) none

/-- Some priorities from the least to the greatest. -/
def ascending (priorities : List Priority) : List Priority :=
  priorities.mergeSort fun first second => first ≤ second

/-- The value in decimal, or the word for no preference. -/
def text (priority : Priority) : String :=
  if priority.isLeast then "min" else toString priority.value

/-- The priority as it stands in the description of a request. -/
def describe (priority : Priority) : String :=
  "Priority(" ++ toString priority.value ++ ")"

end Priority

end KeyedBatching
