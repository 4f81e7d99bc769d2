import KeyedBatching.ActiveQueue
import KeyedBatching.Batch
import KeyedBatching.BatchTimer
import KeyedBatching.BufferSettings
import KeyedBatching.Configuration.Basic
import KeyedBatching.Configuration.Document
import KeyedBatching.Configuration.Environment
import KeyedBatching.Controller
import KeyedBatching.Decimal.Binary64
import KeyedBatching.Decimal.Shortest
import KeyedBatching.Error
import KeyedBatching.KeyTable
import KeyedBatching.Machine
import KeyedBatching.Priority
import KeyedBatching.Request
import KeyedBatching.RequestBuffer
import KeyedBatching.Simulation.Basic
import KeyedBatching.Simulation.Claims
import KeyedBatching.Simulation.Members
import KeyedBatching.Simulation.Signals
import KeyedBatching.Simulation.Tickers
import KeyedBatching.Telemetry.Directive
import KeyedBatching.Telemetry.Filter
import KeyedBatching.Telemetry.LevelLimit
import KeyedBatching.Telemetry.LogEvent
import KeyedBatching.Telemetry.LogFormat
import KeyedBatching.Telemetry.Logger
import KeyedBatching.Telemetry.Metrics
import KeyedBatching.Telemetry.Noted
import KeyedBatching.Telemetry.Pattern.Atom
import KeyedBatching.Telemetry.Pattern.Basic
import KeyedBatching.Telemetry.Pattern.CharacterSet
import KeyedBatching.Telemetry.Pattern.Expression
import KeyedBatching.Telemetry.Pattern.Mode
import KeyedBatching.Text.Alphanumeric
import KeyedBatching.Text.Blank
import KeyedBatching.Text.Bytes
import KeyedBatching.Text.Digit
import KeyedBatching.Text.Numeral
import KeyedBatching.Text.Printable
import KeyedBatching.Text.Quoted
import KeyedBatching.Text.Reader
import KeyedBatching.Ticker.Basic
import KeyedBatching.Ticker.Schedule
import KeyedBatching.Time
import KeyedBatching.Toml.Characters
import KeyedBatching.Toml.Document
import KeyedBatching.Toml.Expression
import KeyedBatching.Toml.Moment
import KeyedBatching.Toml.Number
import KeyedBatching.Toml.Quotation
import KeyedBatching.Toml.Table
import KeyedBatching.Toml.Value
import KeyedBatching.WaitingList
import KeyedBatching.WaitingRoom
import KeyedBatching.Word
import KeyedBatching.Proofs.ControllerMoves
import KeyedBatching.Proofs.TimerRuns
import KeyedBatching.Proofs.ControllerRuns
import KeyedBatching.Proofs.WaitingRoomContents
import KeyedBatching.Proofs.WaitingOrder
import KeyedBatching.Proofs.WaitingListRuns
import KeyedBatching.Proofs.AdmissionOrder
import KeyedBatching.Proofs.KeyIsolation
import KeyedBatching.Proofs.BatchWindows
import KeyedBatching.Proofs.ControllerDemands
import KeyedBatching.Proofs.BatchNumbers
import KeyedBatching.Proofs.RequestConservation
import KeyedBatching.Proofs.KeyExclusivity
import KeyedBatching.Proofs.CompletionAccounts
import KeyedBatching.Proofs.Draining
import KeyedBatching.Proofs.TickerInterleaving
import KeyedBatching.Proofs.InterleavingInvariant
import KeyedBatching.Proofs.InterleavingSteps
import KeyedBatching.Proofs.TimeoutSignals
import KeyedBatching.Proofs.SignalOrder
import KeyedBatching.Proofs.SignalRounds
import KeyedBatching.Proofs.TickerMoves
import KeyedBatching.Proofs.ClosingInterleaving
import KeyedBatching.Proofs.SimulatedThread
import KeyedBatching.Proofs.ClosingInvariant
import KeyedBatching.Proofs.ClosedBuffers
import KeyedBatching.Proofs.BufferDeadlines
import KeyedBatching.Proofs.TimerAccesses
import KeyedBatching.Proofs.TimerReports
import KeyedBatching.Proofs.HandlerRounds
import KeyedBatching.Proofs.ShutdownInterleaving
import KeyedBatching.Proofs.ShutdownInvariant
import KeyedBatching.Proofs.ShutdownReturns
import KeyedBatching.Proofs.ShutdownDeadlock
import KeyedBatching.Proofs.RegistrationBookings
import KeyedBatching.Proofs.CloseOutcomes
import KeyedBatching.Proofs.RegistrationLedger
import KeyedBatching.Proofs.RoundOverflow
import KeyedBatching.Proofs.ScheduleRounds
import KeyedBatching.Proofs.SignalInterleaving
import KeyedBatching.Proofs.SignalDelivery
import KeyedBatching.Proofs.ReportLatency
import KeyedBatching.Proofs.WaitingRoomRuns
import KeyedBatching.Proofs.QueueExtraction
import KeyedBatching.Proofs.PublishedMetrics
import KeyedBatching.Proofs.Numerals
import KeyedBatching.Proofs.DocumentOutcomes
import KeyedBatching.Proofs.DocumentValues
import KeyedBatching.Proofs.EnvironmentTexts
import KeyedBatching.Proofs.TickerService
import KeyedBatching.Proofs.RegistrationIsolation
