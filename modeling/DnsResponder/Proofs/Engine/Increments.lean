import DnsResponder.Proofs.Administration
import DnsResponder.Proofs.Engine.Outcome
import DnsResponder.Proofs.Metrics.Tally

namespace DnsResponder

/-!
# What a run adds to the counters

A run is counted when its frame was received, and once more by its outcome, if it has one, and then
its time is noted.  Each of these is one `Increment` of the shared counters.

A `Gauge` is a number in a snapshot to which outcomes and times add fixed amounts: the counters of
outcomes are gauges, and so is the number of times.  What a run adds to a gauge follows from the run
alone.  It is the same whatever the counters showed before, whichever shard was used and however long
the frame took, and it needs no bucket of the histogram.
-/

/-! ## Increments -/

namespace Engine

variable (settings : Settings) (moment : Moment) (run : Run)

/-- The increments by which a run is counted. -/
def increments : List Increment :=
  if settings.metricsEnabled && run.reception.isSome then
    .outcome moment.worker .received :: (run.outcome?.map (.outcome moment.worker)).toList
      ++ [.time moment.worker (holdTime moment.elapsed)]
  else []

theorem count_eq_foldl (metrics : Metrics) :
    count settings moment run metrics =
      (increments settings moment run).foldl Metrics.apply metrics := by
  rw [count, increments]
  split
  · cases run.outcome? <;> rfl
  · rfl

theorem length_increments_le : (increments settings moment run).length ≤ 3 := by
  rw [increments]
  split
  · cases run.outcome? with
    | none => exact Nat.le_succ 2
    | some outcome => exact Nat.le_refl 3
  · exact Nat.zero_le 3

end Engine

/-! ## Gauges -/

/-- A number in a snapshot, and what is added to it with each outcome and with each time. -/
structure Gauge where
  read : Snapshot → UInt64
  perOutcome : Outcome → Nat
  perTime : Nat
  increments : ∀ (metrics : Metrics) (worker : Nat) (outcome : Outcome),
    read (metrics.increment worker outcome).snapshot =
      read metrics.snapshot + UInt64.ofNat (perOutcome outcome)
  observes : ∀ (metrics : Metrics) (worker : Nat) (time : UInt64),
    read (metrics.observe worker time).snapshot = read metrics.snapshot + UInt64.ofNat perTime

namespace Gauge

/-- The counter of an outcome. -/
def count (counted : Outcome) : Gauge where
  read := (·.count counted)
  perOutcome outcome := if outcome = counted then 1 else 0
  perTime := 0
  increments metrics worker outcome := by
    rw [Metrics.count_snapshot, Metrics.count_snapshot]
    exact (congrArg (·.count counted) (metrics.merged_apply (.outcome worker outcome))).trans
      (metrics.merged.count_increment outcome counted)
  observes metrics worker time := by
    rw [Metrics.count_snapshot, Metrics.count_snapshot]
    exact ((congrArg (·.count counted) (metrics.merged_apply (.time worker time))).trans
      (metrics.merged.count_observe time counted)).trans (UInt64.add_zero _).symm

/-- The number of times. -/
def times : Gauge where
  read := Snapshot.timeCount
  perOutcome _ := 0
  perTime := 1
  increments metrics worker outcome :=
    ((congrArg Shard.timeCount (metrics.merged_apply (.outcome worker outcome))).trans
      (metrics.merged.timeCount_increment outcome)).trans (UInt64.add_zero _).symm
  observes metrics worker time :=
    congrArg Shard.timeCount (metrics.merged_apply (.time worker time))

/-! ## Runs -/

open Engine (Run)

variable (gauge : Gauge)

/-- What a run adds to a gauge, where frames are counted or not. -/
def adds (counting : Bool) (run : Run) : Nat :=
  if counting && run.reception.isSome then
    gauge.perOutcome .received + (run.outcome?.map gauge.perOutcome).getD 0 + gauge.perTime
  else 0

/-- What a single increment adds to a gauge. -/
def weight : Increment → Nat
  | .outcome _ outcome => gauge.perOutcome outcome
  | .time _ _ => gauge.perTime

theorem read_apply (metrics : Metrics) (increment : Increment) :
    gauge.read (metrics.apply increment).snapshot =
      gauge.read metrics.snapshot + UInt64.ofNat (gauge.weight increment) := by
  cases increment with
  | outcome worker outcome => exact gauge.increments metrics worker outcome
  | time worker time => exact gauge.observes metrics worker time

theorem read_foldl (increments : List Increment) (metrics : Metrics) :
    gauge.read (increments.foldl Metrics.apply metrics).snapshot =
      gauge.read metrics.snapshot + UInt64.ofNat (increments.map gauge.weight).sum := by
  induction increments generalizing metrics with
  | nil => exact (UInt64.add_zero _).symm
  | cons increment rest ih =>
    rw [List.foldl_cons, ih, read_apply, List.map_cons, List.sum_cons, UInt64.ofNat_add,
      UInt64.add_assoc]

/-- The increments of a run are together what it adds. -/
theorem sum_weight (settings : Settings) (moment : Moment) (run : Run) :
    ((Engine.increments settings moment run).map gauge.weight).sum =
      gauge.adds settings.metricsEnabled run := by
  rw [Engine.increments, adds]
  split
  · cases run.outcome? <;> simp [weight, Nat.add_assoc]
  · rfl

theorem read_count (settings : Settings) (moment : Moment) (run : Run) (metrics : Metrics) :
    gauge.read (Engine.count settings moment run metrics).snapshot =
      gauge.read metrics.snapshot + UInt64.ofNat (gauge.adds settings.metricsEnabled run) := by
  rw [Engine.count_eq_foldl, read_foldl, sum_weight]

/-- What handling a frame adds to a gauge. -/
theorem read_process (responder : Responder) (moment : Moment) (frame : Frame) (log : Log) :
    gauge.read (responder.process moment frame log).2.2.1.metrics.snapshot =
      gauge.read responder.metrics.snapshot
        + UInt64.ofNat (gauge.adds responder.settings.metricsEnabled
          (Engine.handle responder.settings responder.tables frame)) := by
  rw [Responder.metrics_process, read_count]

end Gauge
end DnsResponder
