import KeyedBatching.Configuration.Document
import KeyedBatching.Controller
import Mathlib.Tactic.SplitIfs

/-!
# Outcomes of a document

What becomes of a document that reads depends on its pairs alone, and in two
steps. A pair that does not fit refuses the document, wherever it stands. When all
pairs fit, each field has the value of its key, since no key stands there twice,
and the log format, the batch size and the timing are judged in this order. A
configuration that comes out of it is good enough for a controller. The reader may
be any that keeps the laws of the format.
-/

namespace KeyedBatching

open Telemetry

variable {K P : Type}

/-! ## Values -/

/-- The count that a value is. -/
def Toml.Value.count? : Toml.Value → Option Nat
  | .integer number => some number.toNat
  | _ => none

/-- The text that a value is. -/
def Toml.Value.text? : Toml.Value → Option String
  | .string text => some text
  | _ => none

/-- The document is refused for its text or for a pair, not for what the values are. -/
def ConfigurationError.RefusesDocument : ConfigurationError → Prop
  | .malformed => True
  | .mismatch _ => True
  | _ => False

namespace DocumentFields

variable {fields changed : DocumentFields} {name : String} {value : Toml.Value}
  {pairs : List (String × Toml.Value)}

/-- The key is one of the five, and the value is of its type: a count under the keys of numbers
and a text under the keys of the log. -/
def Fits (name : String) (value : Toml.Value) : Prop :=
  (name ∈ ["buffer_timeout_ms", "timeout_check_interval_ms", "batch_size"] ∧
      ∃ count : Nat, value = .integer count) ∨
    (name ∈ ["log_level", "log_format"] ∧ ∃ text, value = .string text)

/-- A field of a count is set to the count that the value is. -/
theorem map_countOf_eq_ok_iff (expected : String) (old : Option Nat)
    (update : Option Nat → DocumentFields) :
    ((countOf expected value).map fun count => update (some count)) = .ok changed ↔
      (∃ count : Nat, value = .integer count) ∧ changed = update (value.count?.or old) := by
  cases value with
  | integer number =>
      simp only [countOf, Toml.Value.integer.injEq, Toml.Value.count?, Option.some_or]
      split
      · have negative : ¬∃ count : Nat, number = count := by omega
        simp [Except.map, negative]
      · have whole : ∃ count : Nat, number = count := ⟨number.toNat, by omega⟩
        simp [Except.map, whole, eq_comm]
  | _ => simp [countOf, Except.map]

/-- A field of a text is set to the text that the value is. -/
theorem map_textOf_eq_ok_iff (old : Option String) (update : Option String → DocumentFields) :
    ((textOf value).map fun text => update (some text)) = .ok changed ↔
      (∃ text, value = .string text) ∧ changed = update (value.text?.or old) := by
  cases value with
  | string text => simp [textOf, Except.map, Toml.Value.text?, eq_comm]
  | _ => simp [textOf, Except.map]

/-- The count that stands under a key. -/
def countUnder (name : String) (pairs : List (String × Toml.Value)) : Option Nat :=
  (pairs.lookup name).bind Toml.Value.count?

/-- The text that stands under a key. -/
def textUnder (name : String) (pairs : List (String × Toml.Value)) : Option String :=
  (pairs.lookup name).bind Toml.Value.text?

/-- The fields with those that some pairs name replaced by what stands there. -/
def overlay (fields : DocumentFields) (pairs : List (String × Toml.Value)) : DocumentFields :=
  { timeout := (countUnder "buffer_timeout_ms" pairs).or fields.timeout
    interval := (countUnder "timeout_check_interval_ms" pairs).or fields.interval
    batchSize := (countUnder "batch_size" pairs).or fields.batchSize
    logLevel := (textUnder "log_level" pairs).or fields.logLevel
    logFormat := (textUnder "log_format" pairs).or fields.logFormat }

/-- A pair sets its own field, and only if it fits. -/
theorem set_eq_ok_iff :
    fields.set name value = .ok changed ↔
      Fits name value ∧ changed = fields.overlay [(name, value)] := by
  unfold set
  split_ifs with timeout interval batchSize logLevel logFormat
  · subst timeout
    simpa [Fits, overlay, countUnder, textUnder, List.lookup_cons] using
      map_countOf_eq_ok_iff "u64" fields.timeout fun timeout => { fields with timeout }
  · subst interval
    simpa [Fits, overlay, countUnder, textUnder, List.lookup_cons] using
      map_countOf_eq_ok_iff "u64" fields.interval fun interval => { fields with interval }
  · subst batchSize
    simpa [Fits, overlay, countUnder, textUnder, List.lookup_cons] using
      map_countOf_eq_ok_iff "usize" fields.batchSize fun batchSize => { fields with batchSize }
  · subst logLevel
    simpa [Fits, overlay, countUnder, textUnder, List.lookup_cons] using
      map_textOf_eq_ok_iff fields.logLevel fun logLevel => { fields with logLevel }
  · subst logFormat
    simpa [Fits, overlay, countUnder, textUnder, List.lookup_cons] using
      map_textOf_eq_ok_iff fields.logFormat fun logFormat => { fields with logFormat }
  · simp [Fits, *]

theorem lookup_cons_or {V : Type} {rest : List (String × Toml.Value)} (view : Toml.Value → Option V)
    (key : String) (apart : name ∉ rest.map Prod.fst) (old : Option V) :
    ((((name, value) :: rest).lookup key).bind view).or old =
      ((rest.lookup key).bind view).or ((([(name, value)].lookup key).bind view).or old) := by
  by_cases same : key = name
  · subst same
    have absent : rest.lookup key = none := by
      apply List.lookup_eq_none_iff.mpr
      intro pair member
      simpa using fun same : key = pair.1 => apart (List.mem_map.mpr ⟨pair, member, same.symm⟩)
    simp [absent]
  · have differs : (key == name) = false := by simpa using same
    simp [List.lookup_cons, differs]

theorem overlay_cons {rest : List (String × Toml.Value)} (apart : name ∉ rest.map Prod.fst) :
    fields.overlay ((name, value) :: rest) = (fields.overlay [(name, value)]).overlay rest := by
  simp only [overlay, countUnder, textUnder, ← lookup_cons_or _ _ apart]

/-- Some pairs that fit set their fields, each once. -/
theorem setAll_eq_overlay (fit : ∀ pair ∈ pairs, Fits pair.1 pair.2)
    (distinct : (pairs.map Prod.fst).Nodup) : fields.setAll pairs = .ok (fields.overlay pairs) := by
  induction pairs generalizing fields with
  | nil => rfl
  | cons pair rest remaining =>
      obtain ⟨name, value⟩ := pair
      obtain ⟨first, later⟩ := List.forall_mem_cons.mp fit
      obtain ⟨apart, distinct⟩ := List.nodup_cons.mp distinct
      simp only [setAll, set_eq_ok_iff.mpr ⟨first, rfl⟩]
      rw [remaining later distinct, overlay_cons apart]

/-- The first pair that does not fit stops the reading. -/
theorem exists_setAll_error_iff :
    (∃ fault, fields.setAll pairs = .error fault) ↔ ∃ pair ∈ pairs, ¬Fits pair.1 pair.2 := by
  induction pairs generalizing fields with
  | nil => simp [setAll]
  | cons pair rest remaining =>
      obtain ⟨name, value⟩ := pair
      cases result : fields.set name value with
      | error fault =>
          have unfit : ¬Fits name value := by
            intro fits
            simp [set_eq_ok_iff.mpr ⟨fits, rfl⟩] at result
          simp [setAll, result, unfit]
      | ok changed =>
          have fits : Fits name value := (set_eq_ok_iff.mp result).1
          simp [setAll, result, fits, remaining]

/-! ## The verdict on the fields -/

/-- The fields name a log format, and it is none of the known ones. -/
def Misnames (fields : DocumentFields) (text : String) : Prop :=
  fields.logFormat = some text ∧
    LogFormat.normalize text ≠ "json" ∧ LogFormat.normalize text ≠ "pretty"

theorem format_of_misnames {text : String} (misnames : fields.Misnames text) :
    fields.format = .error (.invalid ("Invalid log format: " ++ LogFormat.normalize text)) := by
  obtain ⟨named, json, pretty⟩ := misnames
  simp only [format, named, LogFormat.ofText, json, pretty, if_false]
  rfl

theorem exists_format (known : ¬∃ text, fields.Misnames text) :
    ∃ format, fields.format = .ok format := by
  cases named : fields.logFormat with
  | none => exact ⟨.usual, by simp only [format, named]⟩
  | some text =>
      by_cases json : LogFormat.normalize text = "json"
      · exact ⟨.json, by simp only [format, named, LogFormat.ofText, if_pos json]⟩
      · by_cases pretty : LogFormat.normalize text = "pretty"
        · refine ⟨.pretty, ?_⟩
          simp only [format, named, LogFormat.ofText, if_neg json, if_pos pretty]
        · exact absurd ⟨text, named, json, pretty⟩ known

/-- A timeout is in effect, and nobody would ever check it. -/
def Unchecked (fields : DocumentFields) : Prop :=
  0 < fields.timeout.getD 1000 ∧ fields.interval.getD 100 = 0

theorem configuration_of_misnames {text : String} (misnames : fields.Misnames text) :
    fields.configuration =
      .error (.invalid ("Invalid log format: " ++ LogFormat.normalize text)) := by
  simp only [configuration, format_of_misnames misnames]

theorem configuration_of_zero (known : ¬∃ text, fields.Misnames text)
    (zero : fields.batchSize = some 0) :
    fields.configuration = .error (.invalid "batch_size must be at least 1") := by
  obtain ⟨format, named⟩ := exists_format known
  simp only [configuration, named, zero, if_true]
  rfl

theorem configuration_of_unchecked (known : ¬∃ text, fields.Misnames text)
    (filled : fields.batchSize ≠ some 0) (unchecked : fields.Unchecked) :
    fields.configuration =
      .error (.invalid
        "timeout_check_interval_ms must be at least 1 when buffer_timeout_ms is set") := by
  obtain ⟨format, named⟩ := exists_format known
  have late : 0 < fields.timeout.getD Configuration.usualTimeout ∧
      fields.interval.getD Configuration.usualInterval = 0 := unchecked
  simp only [configuration, named, if_neg filled, if_pos late]
  rfl

/-- Fields that pass the three tests describe the values that they set and the usual ones. -/
theorem configuration_eq_ok_iff {configuration : Configuration} :
    fields.configuration = .ok configuration ↔
      ∃ format, fields.format = .ok format ∧ fields.batchSize ≠ some 0 ∧ ¬fields.Unchecked ∧
        configuration =
          { controller :=
              Configuration.clamped (fields.timeout.getD Configuration.usualTimeout)
                (fields.interval.getD Configuration.usualInterval)
                (fields.batchSize.getD Configuration.usualBatchSize)
            log :=
              { format
                level := fields.logLevel.getD Configuration.usualLogLevel
                output := none } } := by
  have late : fields.Unchecked ↔ 0 < fields.timeout.getD Configuration.usualTimeout ∧
      fields.interval.getD Configuration.usualInterval = 0 := Iff.rfl
  simp only [DocumentFields.configuration, late]
  cases fields.format with
  | error fault => simp
  | ok format =>
      dsimp only
      split_ifs with zero unchecked
      · simp [zero]
      · simp [unchecked]
      · simp only [Except.ok.injEq, exists_eq_left', ne_eq, zero, unchecked, not_false_eq_true,
          true_and]
        exact eq_comm

theorem exists_configuration (known : ¬∃ text, fields.Misnames text)
    (filled : fields.batchSize ≠ some 0) (checked : ¬fields.Unchecked) :
    ∃ configuration timeout interval batchSize, fields.configuration = .ok configuration ∧
      configuration.controller = Configuration.clamped timeout interval batchSize := by
  obtain ⟨format, named⟩ := exists_format known
  exact ⟨_, _, _, _, configuration_eq_ok_iff.mpr ⟨format, named, filled, checked, rfl⟩, rfl⟩

theorem exists_invalid_iff :
    (∃ reason, fields.configuration = .error (.invalid reason)) ↔
      (∃ text, fields.Misnames text) ∨ fields.batchSize = some 0 ∨ fields.Unchecked := by
  by_cases misnames : ∃ text, fields.Misnames text
  · obtain ⟨text, misnames⟩ := misnames
    exact iff_of_true ⟨_, configuration_of_misnames misnames⟩ (.inl ⟨text, misnames⟩)
  by_cases zero : fields.batchSize = some 0
  · exact iff_of_true ⟨_, configuration_of_zero misnames zero⟩ (.inr (.inl zero))
  by_cases unchecked : fields.Unchecked
  · exact iff_of_true ⟨_, configuration_of_unchecked misnames zero unchecked⟩
      (.inr (.inr unchecked))
  obtain ⟨configuration, _, _, _, accepted, _⟩ := exists_configuration misnames zero unchecked
  simp [accepted, misnames, zero, unchecked]

/-- Values are judged when the document is accepted as such. -/
theorem not_refusesDocument {fault : ConfigurationError}
    (refused : fields.configuration = .error fault) : ¬fault.RefusesDocument := by
  by_cases wrong : (∃ text, fields.Misnames text) ∨ fields.batchSize = some 0 ∨ fields.Unchecked
  · obtain ⟨reason, invalid⟩ := exists_invalid_iff.mpr wrong
    obtain rfl := Except.error.inj (refused.symm.trans invalid)
    exact id
  · obtain ⟨known, wrong⟩ := not_or.mp wrong
    obtain ⟨filled, checked⟩ := not_or.mp wrong
    obtain ⟨configuration, _, _, _, accepted, _⟩ := exists_configuration known filled checked
    exact absurd (refused.symm.trans accepted) (by simp)

end DocumentFields

/-! ## Controllers -/

namespace Configuration

/-- Settings from clamped values have an interval. -/
theorem validate_clamped (timeout interval batchSize : Nat) :
    (clamped timeout interval batchSize).buffer.validate = .ok () := by
  have spaced : Duration.ofMilliseconds (max interval 1) ≠ 0 :=
    Nat.mul_ne_zero (by omega) (by omega)
  simp [BufferSettings.validate, clamped, spaced]

theorem checkSettings_clamped (timeout interval batchSize : Nat) :
    Controller.checkSettings (clamped timeout interval batchSize) = .ok () := by
  have filled : max batchSize 1 ≠ 0 := by omega
  simp [Controller.checkSettings, clamped, filled]

end Configuration

namespace Controller

variable {settings : ControllerSettings}

theorem unwatched_value_isOk (sized : checkSettings settings = .ok ())
    (timed : settings.buffer.validate = .ok ()) :
    ∃ controller : Controller K P, (unwatched settings).value = .ok controller := by
  simp only [unwatched, sized, RequestBuffer.unwatched, timed, Noted.value_bind, Noted.value_pure]
  exact ⟨_, rfl⟩

/-- A ticker may refuse a controller, but not for its settings. -/
theorem watched_value_ne_invalidSettings (sized : checkSettings settings = .ok ())
    (timed : settings.buffer.validate = .ok ()) (place timer inbox : Nat) (handler : Handler)
    (now : Instant) (ticker : Ticker) (reason : String) :
    (watched (K := K) (P := P) settings place timer inbox handler now ticker).value.1 ≠
      .error (.invalidSettings reason) := by
  simp only [watched, sized, RequestBuffer.watched, timed, Noted.value_bind, Noted.value_pure]
  split
  · simp only [Noted.value_bind]
    split <;> simp [Except.map]
  · simp [Except.map]

end Controller

/-! ## Documents -/

/-- The reader that knows a single document, and takes all others for malformed. -/
def DocumentReader.single (text : String) (pairs : List (String × Toml.Value)) : DocumentReader :=
  fun other => if other = text then some pairs else none

theorem DocumentReader.single_self (text : String) (pairs : List (String × Toml.Value)) :
    single text pairs text = some pairs :=
  if_pos rfl

theorem DocumentReader.isLawful_single {text : String} {pairs : List (String × Toml.Value)}
    (distinct : (pairs.map Prod.fst).Nodup)
    (signed : ∀ name number, (name, .integer number) ∈ pairs →
      -9223372036854775808 ≤ number ∧ number < 9223372036854775808) :
    (single text pairs).IsLawful := by
  have known : ∀ other found, single text pairs other = some found → found = pairs := by
    intro other found member
    obtain ⟨_, same⟩ := Option.ite_none_right_eq_some.mp member
    exact (Option.some.inj same).symm
  constructor
  · intro other found member
    rw [known other found member]
    exact distinct
  · intro other found member
    rw [known other found member]
    exact signed

namespace Configuration

open DocumentFields

variable {read : DocumentReader} {text : String} {pairs : List (String × Toml.Value)}

theorem ofDocument_of_unfit (reads : read text = some pairs)
    (unfit : ∃ pair ∈ pairs, ¬Fits pair.1 pair.2) :
    ∃ fault, ofDocument read text = .error (.mismatch fault) := by
  obtain ⟨fault, refused⟩ : ∃ fault, ({} : DocumentFields).setAll pairs = .error fault :=
    exists_setAll_error_iff.mpr unfit
  exact ⟨fault, by simp only [ofDocument, reads, ofPairs, refused]⟩

theorem ofDocument_of_fit (lawful : read.IsLawful) (reads : read text = some pairs)
    (fit : ∀ pair ∈ pairs, Fits pair.1 pair.2) :
    ofDocument read text = (({} : DocumentFields).overlay pairs).configuration := by
  simp only [ofDocument, reads, ofPairs, setAll_eq_overlay fit (lawful.distinct text pairs reads)]

/-- The outcome of every document that reads, by its pairs at the top level.  The document is
refused exactly if a pair does not fit: its key is not one of the five, or its value is not of
the key's type.  When all pairs fit, some value is invalid exactly if the log format is none of
the two, the batch size is zero, or a timeout is in effect with an interval of zero, and the first
of these gives the message.  Otherwise there is a configuration, and no controller is refused for
its settings. -/
theorem ofDocument_outcome (lawful : read.IsLawful) (reads : read text = some pairs) :
    let outcome := ofDocument read text
    let format := textUnder "log_format" pairs
    let batchSize := countUnder "batch_size" pairs
    let timeout := (countUnder "buffer_timeout_ms" pairs).getD 1000
    let interval := (countUnder "timeout_check_interval_ms" pairs).getD 100
    let misnamed := ∃ name, format = some name ∧
      LogFormat.normalize name ≠ "json" ∧ LogFormat.normalize name ≠ "pretty"
    let unchecked := 0 < timeout ∧ interval = 0
    ((∃ fault, outcome = .error fault ∧ fault.RefusesDocument) ↔
      ∃ pair ∈ pairs, ¬Fits pair.1 pair.2) ∧
    ((∀ pair ∈ pairs, Fits pair.1 pair.2) →
      ((∃ reason, outcome = .error (.invalid reason)) ↔
        misnamed ∨ batchSize = some 0 ∨ unchecked) ∧
      (∀ name, format = some name → LogFormat.normalize name ≠ "json" →
        LogFormat.normalize name ≠ "pretty" →
        outcome = .error (.invalid ("Invalid log format: " ++ LogFormat.normalize name))) ∧
      (¬misnamed → batchSize = some 0 →
        outcome = .error (.invalid "batch_size must be at least 1")) ∧
      (¬misnamed → batchSize ≠ some 0 → unchecked →
        outcome = .error (.invalid
          "timeout_check_interval_ms must be at least 1 when buffer_timeout_ms is set")) ∧
      (¬misnamed → batchSize ≠ some 0 → ¬unchecked →
        ∃ configuration, outcome = .ok configuration ∧
          (∃ controller : Controller K P,
            (Controller.unwatched configuration.controller).value = .ok controller) ∧
          ∀ place timer inbox handler now ticker reason,
            (Controller.watched (K := K) (P := P) configuration.controller place timer inbox
              handler now ticker).value.1 ≠ .error (.invalidSettings reason))) := by
  intro outcome format batchSize timeout interval misnamed unchecked
  let fields := ({} : DocumentFields).overlay pairs
  have named : fields.logFormat = format := Option.or_none
  have sized : fields.batchSize = batchSize := Option.or_none
  have misnames : (∃ name, fields.Misnames name) ↔ misnamed := by
    simp only [Misnames, named, misnamed]
  have untimed : fields.Unchecked ↔ unchecked := by
    simp only [Unchecked, unchecked, timeout, interval, fields, overlay, Option.or_none]
  by_cases fit : ∀ pair ∈ pairs, Fits pair.1 pair.2
  · have judged : outcome = fields.configuration := ofDocument_of_fit lawful reads fit
    rw [← sized, ← misnames, ← untimed, judged]
    refine ⟨iff_of_false ?_ ?_, fun _ => ⟨exists_invalid_iff, ?_, configuration_of_zero,
      configuration_of_unchecked, ?_⟩⟩
    · rintro ⟨fault, refused, document⟩
      exact not_refusesDocument refused document
    · rintro ⟨pair, member, unfit⟩
      exact unfit (fit pair member)
    · intro name chosen json pretty
      exact configuration_of_misnames ⟨named.trans chosen, json, pretty⟩
    · intro known filled checked
      obtain ⟨configuration, timeout, interval, batchSize, accepted, clamped⟩ :=
        exists_configuration known filled checked
      have checkedSize := checkSettings_clamped timeout interval batchSize
      have checkedTime := validate_clamped timeout interval batchSize
      rw [← clamped] at checkedSize checkedTime
      exact ⟨configuration, accepted, Controller.unwatched_value_isOk checkedSize checkedTime,
        Controller.watched_value_ne_invalidSettings checkedSize checkedTime⟩
  · have unfit : ∃ pair ∈ pairs, ¬Fits pair.1 pair.2 := by simpa using fit
    obtain ⟨fault, refused⟩ := ofDocument_of_unfit reads unfit
    exact ⟨iff_of_true ⟨_, refused, trivial⟩ unfit, fun fits => absurd fits fit⟩

/-- An interval of zero is judged against the timeout that nobody wrote down. -/
theorem ofDocument_outcome_interval_alone :
    let text := "timeout_check_interval_ms=0"
    let read := DocumentReader.single text [("timeout_check_interval_ms", .integer 0)]
    read.IsLawful ∧ read text = some [("timeout_check_interval_ms", .integer 0)] ∧
      ofDocument read text =
        .error (.invalid
          "timeout_check_interval_ms must be at least 1 when buffer_timeout_ms is set") := by
  intro text read
  have lawful : read.IsLawful :=
    DocumentReader.isLawful_single (by simp) (by simp)
  have reads : read text = some [("timeout_check_interval_ms", .integer 0)] :=
    DocumentReader.single_self ..
  obtain ⟨_, judged⟩ := ofDocument_outcome (K := Nat) (P := Nat) lawful reads
  have fit : ∀ pair ∈ [("timeout_check_interval_ms", Toml.Value.integer 0)],
      Fits pair.1 pair.2 := by
    simpa [Fits] using ⟨0, rfl⟩
  obtain ⟨_, _, _, unchecked, _⟩ := judged fit
  refine ⟨lawful, reads, unchecked ?_ ?_ ?_⟩
  · rintro ⟨name, chosen, _⟩
    simp [textUnder, List.lookup_cons] at chosen
  · simp [countUnder, List.lookup_cons]
  · simp [countUnder, List.lookup_cons, Toml.Value.count?]

end Configuration

end KeyedBatching
