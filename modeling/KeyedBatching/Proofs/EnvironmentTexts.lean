import KeyedBatching.Configuration.Environment
import KeyedBatching.Proofs.DocumentValues
import KeyedBatching.Proofs.Numerals

/-!
# Configurations as variables

Each of the three numeric variables gives the word that its text denotes, and the
usual number if it holds anything else.

The numbers and texts of a document, and those of a configuration in effect, can be
written to the five variables of a process.  Both meet at the texts of the
environment: a word is read from its decimal digits as it was, and a format from its
name.  So loading the written variables gives the configuration of the document, or
the same configuration once more.
-/

namespace KeyedBatching

open DocumentFields Telemetry

namespace Environment

/-! ## Writing -/

/-- The five variables with their texts. -/
def entries (environment : Environment) : List (String × Option String) :=
  [("ARB_BUFFER_TIMEOUT_MS", environment.timeout),
   ("ARB_TIMEOUT_CHECK_INTERVAL_MS", environment.interval),
   ("ARB_BATCH_SIZE", environment.batchSize),
   ("ARB_LOG_LEVEL", environment.logLevel),
   ("ARB_LOG_FORMAT", environment.logFormat)]

/-- The variables of a process after the five are set, or removed where there is no text. -/
def write (environment : Environment) (held : ProcessVariables) : ProcessVariables := fun name =>
  match environment.entries.lookup name with
  | some text => text.map String.toUTF8
  | none => held name

theorem fromUTF8?_eq_some_iff {bytes : ByteArray} {text : String} :
    String.fromUTF8? bytes = some text ↔ bytes = text.toUTF8 := by
  constructor
  · intro decoded
    unfold String.fromUTF8? at decoded
    split at decoded
    · cases decoded
      rfl
    · cases decoded
  · rintro rfl
    exact dif_pos text.isValidUTF8

theorem bind_fromUTF8?_map_toUTF8 (text : Option String) :
    (text.map String.toUTF8).bind String.fromUTF8? = text := by
  cases text with
  | none => rfl
  | some text => exact fromUTF8?_eq_some_iff.mpr rfl

@[simp] theorem ofProcess_write (environment : Environment) (held : ProcessVariables) :
    ofProcess (environment.write held) = environment := by
  simp [ofProcess, ofVariables, write, entries, List.lookup_cons, bind_fromUTF8?_map_toUTF8]

/-! ## Reading -/

theorem numberOr_lt {usual : Nat} (small : usual < wordLimit) (text : Option String) :
    numberOr usual text < wordLimit := by
  refine getD_lt_wordLimit small ?_
  intro number member
  obtain ⟨_, _, read⟩ := Option.bind_eq_some_iff.mp member
  exact Text.readWord_lt read

theorem numberOr_toString {number : Nat} (usual : Nat) (word : number < wordLimit) :
    numberOr usual (some (toString number)) = number := by
  simp only [numberOr, Option.bind_some, Text.readWord_toString word, Option.getD_some]

/-- A word that is written down is read back, and one that is missing is the usual one. -/
theorem numberOr_map_toString {count : Option Nat} (usual : Nat)
    (word : ∀ number ∈ count, number < wordLimit) :
    numberOr usual (count.map toString) = count.getD usual := by
  cases count with
  | none => rfl
  | some number => exact numberOr_toString usual (word number rfl)

/-- The number that a variable gives: the word that its text denotes, and the usual number if the
variable is missing or holds anything else. -/
inductive GivesNumber (usual : Nat) (held : Option ByteArray) : Nat → Prop
  | denoted {text : String} {number : Nat} (isText : held = some text.toUTF8)
      (denotes : Text.DenotesWord text number) : GivesNumber usual held number
  | unread (refused : ∀ text number, held = some text.toUTF8 → ¬Text.DenotesWord text number) :
      GivesNumber usual held usual

theorem bind_readWord_eq_some_iff {held : Option ByteArray} {number : Nat} :
    (held.bind String.fromUTF8?).bind Text.readWord = some number ↔
      ∃ text, held = some text.toUTF8 ∧ Text.DenotesWord text number := by
  simp only [Option.bind_eq_some_iff, fromUTF8?_eq_some_iff, Text.readWord_eq_some_iff]
  constructor
  · rintro ⟨text, ⟨_, present, rfl⟩, denotes⟩
    exact ⟨text, present, denotes⟩
  · rintro ⟨text, present, denotes⟩
    exact ⟨text, ⟨_, present, rfl⟩, denotes⟩

theorem numberOr_eq_iff {usual number : Nat} {held : Option ByteArray} :
    numberOr usual (held.bind String.fromUTF8?) = number ↔ GivesNumber usual held number := by
  rw [numberOr]
  cases found : (held.bind String.fromUTF8?).bind Text.readWord with
  | none =>
      have refused : ∀ text number, held = some text.toUTF8 → ¬Text.DenotesWord text number := by
        intro text number isText denotes
        have read := bind_readWord_eq_some_iff.mpr ⟨text, isText, denotes⟩
        exact Option.some_ne_none _ (read.symm.trans found)
      constructor
      · rintro rfl
        exact .unread refused
      · rintro (⟨isText, denotes⟩ | _)
        · exact absurd denotes (refused _ _ isText)
        · rfl
  | some word =>
      obtain ⟨text, isText, denotes⟩ := bind_readWord_eq_some_iff.mp found
      constructor
      · rintro rfl
        exact .denoted isText denotes
      · rintro (⟨otherIsText, otherDenotes⟩ | refused)
        · have read := bind_readWord_eq_some_iff.mpr ⟨_, otherIsText, otherDenotes⟩
          exact Option.some.inj (found.symm.trans read)
        · exact absurd denotes (refused _ _ isText)

/-- Behind the controller settings of a process stand three numbers, each the one that its own
variable gives. -/
theorem ofProcess_numbers_iff (held : ProcessVariables) :
    let environment := ofProcess held
    let timeout := numberOr Configuration.usualTimeout environment.timeout
    let interval := numberOr Configuration.usualInterval environment.interval
    let batchSize := numberOr Configuration.usualBatchSize environment.batchSize
    environment.configuration.controller = Configuration.clamped timeout interval batchSize ∧
      (∀ number, timeout = number ↔
        GivesNumber Configuration.usualTimeout (held "ARB_BUFFER_TIMEOUT_MS") number) ∧
      (∀ number, interval = number ↔
        GivesNumber Configuration.usualInterval (held "ARB_TIMEOUT_CHECK_INTERVAL_MS") number) ∧
      (∀ number, batchSize = number ↔
        GivesNumber Configuration.usualBatchSize (held "ARB_BATCH_SIZE") number) := by
  intro environment timeout interval batchSize
  exact ⟨rfl, fun _ => numberOr_eq_iff, fun _ => numberOr_eq_iff, fun _ => numberOr_eq_iff⟩

theorem formatOr_name (format : LogFormat) : formatOr (some format.name) = format := by
  cases format <;> rfl

theorem formatOr_of_format {fields : DocumentFields} {format : LogFormat}
    (named : fields.format = .ok format) : formatOr fields.logFormat = format := by
  simp only [DocumentFields.format] at named
  cases chosen : fields.logFormat with
  | none => simpa [chosen, formatOr] using named
  | some text =>
      cases read : LogFormat.ofText text with
      | error fault => simp [chosen, read] at named
      | ok known => simpa [chosen, read, formatOr] using named

end Environment

/-! ## Documents -/

/-- A number in decimal digits, or a text as it is. -/
def Toml.Value.written? : Toml.Value → Option String
  | .integer number => some (toString number)
  | .string text => some text
  | _ => none

/-- What stands in a document, each value under the variable of its key. -/
def Environment.ofPairs (pairs : List (String × Toml.Value)) : Environment :=
  { timeout := (pairs.lookup "buffer_timeout_ms").bind Toml.Value.written?
    interval := (pairs.lookup "timeout_check_interval_ms").bind Toml.Value.written?
    batchSize := (pairs.lookup "batch_size").bind Toml.Value.written?
    logLevel := (pairs.lookup "log_level").bind Toml.Value.written?
    logFormat := (pairs.lookup "log_format").bind Toml.Value.written? }

namespace DocumentFields

variable {read : DocumentReader} {text : String} {pairs : List (String × Toml.Value)}

theorem disjoint_keys :
    ∀ key ∈ ["buffer_timeout_ms", "timeout_check_interval_ms", "batch_size"],
      key ∉ ["log_level", "log_format"] := by
  decide

/-- A count that fits has no sign, so its digits are those of a natural number. -/
theorem lookup_bind_written?_of_number (fit : ∀ pair ∈ pairs, Fits pair.1 pair.2) (key : String)
    (number : key ∈ ["buffer_timeout_ms", "timeout_check_interval_ms", "batch_size"]) :
    (pairs.lookup key).bind Toml.Value.written? = (countUnder key pairs).map toString := by
  cases found : pairs.lookup key with
  | none => simp [countUnder, found]
  | some value =>
      obtain ⟨_, count, rfl⟩ | ⟨text, _⟩ := fit _ (mem_of_lookup found)
      · simp only [countUnder, found]
        rfl
      · exact absurd text (disjoint_keys key number)

theorem lookup_bind_written?_of_text (fit : ∀ pair ∈ pairs, Fits pair.1 pair.2) (key : String)
    (text : key ∈ ["log_level", "log_format"]) :
    (pairs.lookup key).bind Toml.Value.written? = textUnder key pairs := by
  cases found : pairs.lookup key with
  | none => simp [textUnder, found]
  | some value =>
      obtain ⟨number, _⟩ | ⟨_, chosen, rfl⟩ := fit _ (mem_of_lookup found)
      · exact absurd text (disjoint_keys key number)
      · simp only [textUnder, found]
        rfl

/-- A number of a document and the variable with its digits come to the same. -/
theorem numberOr_lookup (lawful : read.IsLawful) (reads : read text = some pairs)
    (fit : ∀ pair ∈ pairs, Fits pair.1 pair.2) (key : String)
    (number : key ∈ ["buffer_timeout_ms", "timeout_check_interval_ms", "batch_size"])
    (usual : Nat) :
    Environment.numberOr usual ((pairs.lookup key).bind Toml.Value.written?) =
      (countUnder key pairs).getD usual := by
  rw [lookup_bind_written?_of_number fit key number]
  exact Environment.numberOr_map_toString usual fun _ present =>
    countUnder_lt lawful reads present

end DocumentFields

namespace Configuration

variable {read : DocumentReader} {text : String} {configuration : Configuration}

/-- A document that is accepted and the variables with the texts of its values, each set exactly
if its key is present, give the same configuration. -/
theorem ofProcess_write_ofPairs (lawful : read.IsLawful)
    (accepted : ofDocument read text = .ok configuration) :
    ∃ pairs, read text = some pairs ∧ (∀ pair ∈ pairs, Fits pair.1 pair.2) ∧
      ∀ held, (Environment.ofProcess ((Environment.ofPairs pairs).write held)).configuration =
        configuration := by
  obtain ⟨pairs, reads, fit, described⟩ := ofDocument_eq_ok lawful accepted
  rw [overlay_empty] at described
  obtain ⟨format, named, _, _, rfl⟩ := configuration_eq_ok_iff.mp described
  have formatted : Environment.formatOr (textUnder "log_format" pairs) = format :=
    Environment.formatOr_of_format named
  refine ⟨pairs, reads, fit, ?_⟩
  intro held
  rw [Environment.ofProcess_write]
  simp only [Environment.configuration, Environment.ofPairs,
    numberOr_lookup lawful reads fit "buffer_timeout_ms" (by decide),
    numberOr_lookup lawful reads fit "timeout_check_interval_ms" (by decide),
    numberOr_lookup lawful reads fit "batch_size" (by decide),
    lookup_bind_written?_of_text fit "log_level" (by decide),
    lookup_bind_written?_of_text fit "log_format" (by decide), formatted]

/-- A number with another base stands in its variable in decimal digits, and a text with its blanks
and capitals. -/
theorem ofProcess_write_ofPairs_hexadecimal :
    let text := "batch_size = 0x10\nlog_format = ' Pretty'"
    let read := DocumentReader.single text
      [("batch_size", .integer 16), ("log_format", .string " Pretty")]
    let configuration : Configuration :=
      { controller := clamped 1000 100 16, log := { format := .pretty } }
    read.IsLawful ∧ ofDocument read text = .ok configuration ∧
      (Environment.ofProcess (({ batchSize := some "16", logFormat := some " Pretty" } :
        Environment).write fun _ => none)).configuration = configuration := by
  intro text read configuration
  have lawful : read.IsLawful := DocumentReader.isLawful_single (by simp) (by simp)
  have accepted : ofDocument read text = .ok configuration := by
    simp only [ofDocument, read, DocumentReader.single_self]
    decide +kernel
  obtain ⟨pairs, reads, _, same⟩ := ofProcess_write_ofPairs lawful accepted
  obtain rfl := Option.some.inj (reads.symm.trans (DocumentReader.single_self ..))
  exact ⟨lawful, accepted, same fun _ => none⟩

/-! ## Values in effect -/

end Configuration

/-- The values in effect as texts, with the numbers in decimal digits. -/
def Environment.ofEffective (effective : EffectiveValues) : Environment :=
  { timeout := some (toString effective.timeout)
    interval := some (toString effective.interval)
    batchSize := some (toString effective.batchSize)
    logLevel := some effective.logLevel
    logFormat := some effective.logFormat }

namespace Configuration

/-- Values that were raised once are not raised again. -/
theorem clamped_max (timeout interval batchSize : Nat) :
    clamped timeout (max interval 1) (max batchSize 1) = clamped timeout interval batchSize := by
  simp only [clamped, Nat.max_assoc, Nat.max_self]

/-- A configuration is described by the texts of its values in effect. -/
theorem configuration_ofEffective {timeout interval batchSize : Nat} (format : LogFormat)
    (level : String) (timeoutWord : timeout < wordLimit) (intervalWord : interval < wordLimit)
    (sizeWord : batchSize < wordLimit) :
    let configuration : Configuration :=
      { controller := clamped timeout interval batchSize, log := { format, level, output := none } }
    (Environment.ofEffective configuration.effective).configuration = configuration := by
  intro configuration
  obtain ⟨shownTimeout, shownInterval, shownSize⟩ :
      configuration.effective.timeout = timeout ∧
        configuration.effective.interval = max interval 1 ∧
        configuration.effective.batchSize = max batchSize 1 :=
    effective_clamped configuration.log timeoutWord intervalWord
  have raisedInterval : max interval 1 < wordLimit := Nat.max_lt.mpr ⟨intervalWord, by decide⟩
  have raisedSize : max batchSize 1 < wordLimit := Nat.max_lt.mpr ⟨sizeWord, by decide⟩
  have named : Environment.formatOr (some configuration.effective.logFormat) = format :=
    Environment.formatOr_name format
  simp only [Environment.configuration, Environment.ofEffective, shownTimeout, shownInterval,
    shownSize, Environment.numberOr_toString _ timeoutWord,
    Environment.numberOr_toString _ raisedInterval, Environment.numberOr_toString _ raisedSize,
    named, clamped_max]
  rfl

/-- Whatever the variables of a process hold, the configuration that they give is a valid one, and
the texts of its values in effect give it once more. -/
theorem ofProcess_write_ofEffective (held : ProcessVariables) :
    let loaded := (Environment.ofProcess held).configuration
    let reloaded :=
      (Environment.ofProcess ((Environment.ofEffective loaded.effective).write held)).configuration
    loaded.controller.buffer.validate = .ok () ∧ 1 ≤ loaded.controller.batchSize ∧
      reloaded = loaded ∧ reloaded.effective = loaded.effective := by
  intro loaded reloaded
  have same : reloaded = loaded := by
    simp only [reloaded, Environment.ofProcess_write]
    exact configuration_ofEffective _ _ (Environment.numberOr_lt (by decide) _)
      (Environment.numberOr_lt (by decide) _) (Environment.numberOr_lt (by decide) _)
  exact ⟨validate_clamped _ _ _, Nat.le_max_right _ 1, same, congrArg effective same⟩

end Configuration

end KeyedBatching
