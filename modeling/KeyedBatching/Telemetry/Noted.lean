import KeyedBatching.Machine
import KeyedBatching.Telemetry.LogEvent
import KeyedBatching.Telemetry.Metrics

/-!
# Results with notices and demands

An operation yields its value together with what it reported on the way, log events
and measurements, and with what it asks of the machine, both in order.  The value is
what comes of the operation where all it asks for is there.  On a machine that does
not meet some demand the operation does not return, and nobody gets to see the value.
-/

namespace KeyedBatching.Telemetry

/-- One thing that an operation reports. -/
inductive Notice where
  | log (event : LogEvent)
  | measure (measurement : Measurement)
deriving DecidableEq

/-- A value, and the notices and demands of the operation that yields it. -/
structure Noted (α : Type) where
  value : α
  notices : List Notice := []
  demands : List Demand := []
deriving DecidableEq

namespace Noted

variable {α β : Type}

/-- Goes on with a value; the notices follow each other, and so do the demands. -/
def andThen (first : Noted α) (next : α → Noted β) : Noted β :=
  ⟨(next first.value).value, first.notices ++ (next first.value).notices,
    first.demands ++ (next first.value).demands⟩

instance : Monad Noted where
  pure value := ⟨value, [], []⟩
  bind := andThen

/-- Reports an event. -/
def log (event : LogEvent) : Noted Unit :=
  ⟨(), [.log event], []⟩

/-- Reports a measurement. -/
def measure (measurement : Measurement) : Noted Unit :=
  ⟨(), [.measure measurement], []⟩

/-- Asks something of the machine. -/
def demand (demand : Demand) : Noted Unit :=
  ⟨(), [], [demand]⟩

/-- The instant some time after another, which is asked of the clock. -/
def later (start : Instant) (duration : Duration) : Noted Instant := do
  demand (.instant start duration)
  pure (start + duration)

/-- The operation returns on a machine. -/
def returns (machine : Machine) (noted : Noted α) : Bool :=
  noted.demands.all machine.meets

@[simp] theorem value_pure (value : α) : (pure value : Noted α).value = value :=
  rfl

@[simp] theorem notices_pure (value : α) : (pure value : Noted α).notices = [] :=
  rfl

@[simp] theorem value_bind (first : Noted α) (next : α → Noted β) :
    (first >>= next).value = (next first.value).value :=
  rfl

@[simp] theorem notices_bind (first : Noted α) (next : α → Noted β) :
    (first >>= next).notices = first.notices ++ (next first.value).notices :=
  rfl

@[simp] theorem value_log (event : LogEvent) : (log event).value = () :=
  rfl

@[simp] theorem notices_log (event : LogEvent) : (log event).notices = [.log event] :=
  rfl

@[simp] theorem value_measure (measurement : Measurement) : (measure measurement).value = () :=
  rfl

@[simp] theorem notices_measure (measurement : Measurement) :
    (measure measurement).notices = [.measure measurement] :=
  rfl

@[simp] theorem value_later (start : Instant) (duration : Duration) :
    (later start duration).value = start + duration :=
  rfl

@[simp] theorem notices_later (start : Instant) (duration : Duration) :
    (later start duration).notices = [] :=
  rfl

variable {machine : Machine}

@[simp] theorem returns_pure (value : α) : (pure value : Noted α).returns machine = true :=
  rfl

@[simp] theorem returns_bind (first : Noted α) (next : α → Noted β) :
    (first >>= next).returns machine =
      (first.returns machine && (next first.value).returns machine) :=
  List.all_append

@[simp] theorem returns_log (event : LogEvent) : (log event).returns machine = true :=
  rfl

@[simp] theorem returns_measure (measurement : Measurement) :
    (measure measurement).returns machine = true :=
  rfl

@[simp] theorem returns_demand (asked : Demand) :
    (demand asked).returns machine = machine.meets asked := by
  simp [returns, demand]

@[simp] theorem returns_later (start : Instant) (duration : Duration) :
    (later start duration).returns machine = machine.meets (.instant start duration) := by
  simp [later]

/-- Where the clock reaches an instant, that is the one which is told. -/
theorem add?_eq_later {start : Instant} {duration : Duration}
    (reached : (later start duration).returns machine = true) :
    Instant.add? start duration = some (later start duration).value := by
  rw [returns_later, Machine.meets_instant_iff] at reached
  exact Instant.add?_eq_some_iff.mpr ⟨rfl, reached⟩

end Noted

/-- The events among some notices. -/
def eventsOf (notices : List Notice) : List LogEvent :=
  notices.filterMap fun
    | .log event => some event
    | .measure _ => none

/-- The metrics after the measurements among some notices. -/
def Metrics.absorb (metrics : Metrics) (notices : List Notice) : Metrics :=
  notices.foldl (fun reached notice =>
    match notice with
    | .log _ => reached
    | .measure measurement => reached.record measurement) metrics

theorem Metrics.absorb_append (metrics : Metrics) (first second : List Notice) :
    metrics.absorb (first ++ second) = (metrics.absorb first).absorb second :=
  List.foldl_append

end KeyedBatching.Telemetry
