import KeyedBatching.Decimal.Binary64
import KeyedBatching.Word

/-!
# Metrics

Gauges of the queue depths, counters of flushes, fired timeouts and panics of
handlers, and the histogram of batch sizes. A metric that was never touched is
absent. Gauges and histograms are kept exactly and read with the precision of a
53-bit significand.
-/

namespace KeyedBatching.Telemetry

open Decimal

/-- Something that the metrics record. -/
inductive Measurement where
  | queueDepths (active waiting keys : Nat)
  | batchFlushed (size : Nat) (byTimeout : Bool)
  | timeoutFired
  | handlerPanicked
deriving DecidableEq

/-- The depths of the queues of one buffer. -/
structure QueueDepths where
  active : Nat
  waiting : Nat
  keys : Nat
deriving DecidableEq

/-- The values of all metrics. -/
structure Metrics where
  depths : Option QueueDepths := none
  flushedByTimeout : Nat := 0
  flushedBySize : Nat := 0
  batchSizes : List Nat := []
  timeoutsFired : Nat := 0
  handlerPanics : Nat := 0
deriving DecidableEq

namespace Metrics

/-- The metrics after one more measurement. -/
def record (metrics : Metrics) : Measurement → Metrics
  | .queueDepths active waiting keys => { metrics with depths := some ⟨active, waiting, keys⟩ }
  | .batchFlushed size true =>
      { metrics with
        flushedByTimeout := metrics.flushedByTimeout + 1
        batchSizes := metrics.batchSizes ++ [size] }
  | .batchFlushed size false =>
      { metrics with
        flushedBySize := metrics.flushedBySize + 1
        batchSizes := metrics.batchSizes ++ [size] }
  | .timeoutFired => { metrics with timeoutsFired := metrics.timeoutsFired + 1 }
  | .handlerPanicked => { metrics with handlerPanics := metrics.handlerPanics + 1 }

/-- A count as a number with a 53-bit significand, within the range of a word. -/
def reading (value : Nat) : Nat :=
  if value < Binary64.significandLimit then value
  else
    let unit := Nat.pow 2 (Nat.log2 value - 52)
    min (Binary64.roundedQuotient value unit * unit) (wordLimit - 1)

/-- The counters that were ever raised, by name. -/
def counters (metrics : Metrics) : List (String × Nat) :=
  [("arb_batches_flushed_total\x7btrigger=timeout\x7d", metrics.flushedByTimeout),
    ("arb_batches_flushed_total\x7btrigger=size\x7d", metrics.flushedBySize),
    ("arb_timeouts_fired_total", metrics.timeoutsFired),
    ("arb_timeout_handler_panics_total", metrics.handlerPanics)].filter fun entry => entry.2 ≠ 0

/-- The gauges that were ever set, by name. -/
def gauges (metrics : Metrics) : List (String × Nat) :=
  match metrics.depths with
  | none => []
  | some depths =>
      [("arb_active_queue_depth", reading depths.active),
        ("arb_blocking_queue_depth", reading depths.waiting),
        ("arb_blocking_keys", reading depths.keys)]

/-- The histograms with at least one value, by name. -/
def histograms (metrics : Metrics) : List (String × List Nat) :=
  if metrics.batchSizes.isEmpty then []
  else [("arb_batch_size", metrics.batchSizes.map reading)]

end Metrics

end KeyedBatching.Telemetry
