import KeyedBatching.Proofs.DocumentOutcomes
import KeyedBatching.Word
import Mathlib.Control.Monad.Basic

/-!
# Values of a document

The numbers of an accepted document are those of its configuration, and missing
ones are the usual ones, with one exception: an interval of zero, which is accepted
beside a timeout of zero, becomes one millisecond like that of any other source.
Every number is less than half of what a word holds, so the summary of the values in
effect shows it whole.
-/

namespace KeyedBatching

open DocumentFields

variable {read : DocumentReader} {text : String} {pairs : List (String × Toml.Value)}

/-! ## Accepted documents -/

theorem mem_of_lookup {key : String} {value : Toml.Value}
    (found : pairs.lookup key = some value) : (key, value) ∈ pairs := by
  obtain ⟨before, after, rfl, _⟩ := List.lookup_eq_some_iff.mp found
  exact List.mem_append_right before List.mem_cons_self

/-- A word, or else another one, is a word. -/
theorem getD_lt_wordLimit {usual : Nat} {count : Option Nat} (small : usual < wordLimit)
    (word : ∀ number ∈ count, number < wordLimit) : count.getD usual < wordLimit := by
  cases count with
  | none => exact small
  | some number => exact word number rfl

/-- A count of a document is a word. -/
theorem DocumentFields.countUnder_lt (lawful : read.IsLawful) (reads : read text = some pairs)
    {key : String} {count : Nat} (present : countUnder key pairs = some count) :
    count < wordLimit := by
  obtain ⟨value, found, counted⟩ := Option.bind_eq_some_iff.mp present
  cases value with
  | integer number =>
      obtain rfl := Option.some.inj counted
      have below : number < 9223372036854775808 :=
        (lawful.signed text pairs reads key number (mem_of_lookup found)).2
      have half : 9223372036854775808 < wordLimit := by decide
      omega
  | _ => simp [Toml.Value.count?] at counted

theorem DocumentFields.countUnder_getD_lt (lawful : read.IsLawful)
    (reads : read text = some pairs) (key : String) {usual : Nat} (small : usual < wordLimit) :
    (countUnder key pairs).getD usual < wordLimit :=
  getD_lt_wordLimit small fun _ present => countUnder_lt lawful reads present

theorem DocumentFields.overlay_empty (pairs : List (String × Toml.Value)) :
    ({} : DocumentFields).overlay pairs =
      { timeout := countUnder "buffer_timeout_ms" pairs
        interval := countUnder "timeout_check_interval_ms" pairs
        batchSize := countUnder "batch_size" pairs
        logLevel := textUnder "log_level" pairs
        logFormat := textUnder "log_format" pairs } := by
  simp only [overlay, Option.or_none]

namespace Configuration

variable {configuration : Configuration}

/-- An accepted document reads, its pairs fit, and the fields that they set describe the
configuration. -/
theorem ofDocument_eq_ok (lawful : read.IsLawful)
    (accepted : ofDocument read text = .ok configuration) :
    ∃ pairs, read text = some pairs ∧ (∀ pair ∈ pairs, Fits pair.1 pair.2) ∧
      (({} : DocumentFields).overlay pairs).configuration = .ok configuration := by
  cases reads : read text with
  | none => simp [ofDocument, reads] at accepted
  | some pairs =>
      by_cases fit : ∀ pair ∈ pairs, Fits pair.1 pair.2
      · exact ⟨pairs, rfl, fit, (ofDocument_of_fit lawful reads fit).symm.trans accepted⟩
      · obtain ⟨fault, refused⟩ := ofDocument_of_unfit reads (by simpa using fit)
        exact absurd (refused.symm.trans accepted) (by simp)

/-! ## Numbers in effect -/

theorem effective_clamped {timeout interval batchSize : Nat} (log : Telemetry.LogSettings)
    (shortTimeout : timeout < wordLimit) (shortInterval : interval < wordLimit) :
    let effective := ({ controller := clamped timeout interval batchSize, log } :
      Configuration).effective
    effective.timeout = timeout ∧ effective.interval = max interval 1 ∧
      effective.batchSize = max batchSize 1 := by
  have raised : max interval 1 < wordLimit := Nat.max_lt.mpr ⟨shortInterval, by decide⟩
  exact ⟨Duration.reportedMilliseconds_ofMilliseconds shortTimeout,
    Duration.reportedMilliseconds_ofMilliseconds raised, rfl⟩

/-- The numbers of an accepted document, or the usual ones, are found in the configuration and in
the summary of the values in effect.  Only an interval of zero is not: it needs a timeout of zero,
and becomes one millisecond. -/
theorem ofDocument_values (lawful : read.IsLawful)
    (accepted : ofDocument read text = .ok configuration) :
    ∃ pairs, read text = some pairs ∧ (∀ pair ∈ pairs, Fits pair.1 pair.2) ∧
      let timeout := (countUnder "buffer_timeout_ms" pairs).getD 1000
      let interval := (countUnder "timeout_check_interval_ms" pairs).getD 100
      let batchSize := (countUnder "batch_size" pairs).getD 1000
      let buffer := configuration.controller.buffer
      let effective := configuration.effective
      buffer.timeout = Duration.ofMilliseconds timeout ∧ effective.timeout = timeout ∧
      configuration.controller.batchSize = batchSize ∧ effective.batchSize = batchSize ∧
      (interval ≠ 0 → buffer.interval = Duration.ofMilliseconds interval ∧
        effective.interval = interval) ∧
      (interval = 0 → timeout = 0 ∧ buffer.interval = Duration.ofMilliseconds 1 ∧
        effective.interval = 1) := by
  obtain ⟨pairs, reads, fit, described⟩ := ofDocument_eq_ok lawful accepted
  rw [overlay_empty] at described
  obtain ⟨format, _, filled, checked, rfl⟩ := configuration_eq_ok_iff.mp described
  refine ⟨pairs, reads, fit, ?_⟩
  intro timeout interval batchSize buffer effective
  obtain ⟨shownTimeout, shownInterval, shownSize⟩ :
      effective.timeout = timeout ∧ effective.interval = max interval 1 ∧
        effective.batchSize = max batchSize 1 :=
    effective_clamped _ (countUnder_getD_lt lawful reads _ (by decide))
      (countUnder_getD_lt lawful reads _ (by decide))
  have positive : max batchSize 1 = batchSize := by
    have present : batchSize ≠ 0 := by
      cases size : countUnder "batch_size" pairs with
      | none => simp [batchSize, size]
      | some count => simpa [batchSize, size] using filled
    omega
  refine ⟨rfl, shownTimeout, positive, shownSize.trans positive, ?_, ?_⟩
  · intro spaced
    have kept : max interval 1 = interval := by omega
    exact ⟨congrArg Duration.ofMilliseconds kept, shownInterval.trans kept⟩
  · intro unspaced
    have raised : max interval 1 = 1 := by omega
    have untimed : timeout = 0 := Nat.eq_zero_of_not_pos fun timed => checked ⟨timed, unspaced⟩
    exact ⟨untimed, congrArg Duration.ofMilliseconds raised, shownInterval.trans raised⟩

/-- One number is chosen, the others are the usual ones. -/
theorem ofDocument_values_interval :
    let text := "timeout_check_interval_ms=7"
    let read := DocumentReader.single text [("timeout_check_interval_ms", .integer 7)]
    read.IsLawful ∧
      ofDocument read text =
        .ok
          { controller := clamped 1000 7 1000
            log := { format := .usual, level := "info", output := none } } ∧
      (clamped 1000 7 1000).buffer.interval = Duration.ofMilliseconds 7 := by
  intro text read
  have lawful : read.IsLawful := DocumentReader.isLawful_single (by simp) (by simp)
  have accepted : ofDocument read text =
      .ok
        { controller := clamped 1000 7 1000
          log := { format := .usual, level := "info", output := none } } := by
    simp only [ofDocument, read, DocumentReader.single_self]
    rfl
  obtain ⟨pairs, reads, _, _, _, _, _, spaced, _⟩ := ofDocument_values lawful accepted
  obtain rfl := Option.some.inj (reads.symm.trans (DocumentReader.single_self ..))
  exact ⟨lawful, accepted, (spaced (by decide)).1⟩

/-- A document may ask for no interval beside no timeout, and gets one of a millisecond. -/
theorem not_forall_interval_verbatim :
    ¬∀ (read : DocumentReader) text pairs configuration interval, read.IsLawful →
      read text = some pairs → ofDocument read text = .ok configuration →
      countUnder "timeout_check_interval_ms" pairs = some interval →
      configuration.controller.buffer.interval = Duration.ofMilliseconds interval ∧
        configuration.effective.interval = interval := by
  intro verbatim
  let text := "buffer_timeout_ms=0\ntimeout_check_interval_ms=0"
  let pairs : List (String × Toml.Value) :=
    [("buffer_timeout_ms", .integer 0), ("timeout_check_interval_ms", .integer 0)]
  have lawful : (DocumentReader.single text pairs).IsLawful := by
    apply DocumentReader.isLawful_single (by simp [pairs])
    intro name number member
    have zero : name = "buffer_timeout_ms" ∧ number = 0 ∨
        name = "timeout_check_interval_ms" ∧ number = 0 := by
      simpa [pairs] using member
    omega
  have accepted : ofDocument (.single text pairs) text =
      .ok
        { controller := clamped 0 0 1000
          log := { format := .usual, level := "info", output := none } } := by
    simp only [ofDocument, DocumentReader.single_self]
    rfl
  obtain ⟨_, reported⟩ :=
    verbatim _ text pairs _ 0 lawful (DocumentReader.single_self ..) accepted rfl
  have raised : ({ controller := clamped 0 0 1000, log := {} } : Configuration).effective.interval =
      1 := (effective_clamped {} (by decide) (by decide)).2.1
  exact absurd (reported.symm.trans raised) (by decide)

end Configuration

end KeyedBatching
