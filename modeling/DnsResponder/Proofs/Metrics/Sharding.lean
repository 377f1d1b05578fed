import DnsResponder.Proofs.Metrics.Histogram
import Mathlib.Data.List.DropRight

namespace DnsResponder
namespace Metrics

/-!
# Sharding is invisible

Workers count on shards of their own so that they do not get in each other's way.  Whoever reads the
counters should not notice.  A snapshot after any history shows what one set of counters would, on
which all events since the last reset were counted one after another.  It does not depend on the
number of shards, nor on which worker counted what.

What it shows is stated by the events alone: numbers of outcomes and of times, the least and the
greatest time, the sum as far as 64 bits hold it, and the number of times in each bucket.  The least
time is the one number that an unused shard has to take part in without showing: it starts at the
largest time, and at zero in the snapshot.
-/

/-! ## Histories -/

/-- What can happen to the counters. -/
inductive Event
  | count (increment : Increment)
  | reset

namespace Event

def isReset : Event → Bool
  | .count _ => false
  | .reset => true

/-- The outcome that is counted. -/
def outcome? : Event → Option Outcome
  | .count (.outcome _ outcome) => some outcome
  | .count (.time _ _) | .reset => none

/-- The time that is observed. -/
def time? : Event → Option UInt64
  | .count (.time _ time) => some time
  | .count (.outcome _ _) | .reset => none

def run (metrics : Metrics) : Event → Metrics
  | .count increment => metrics.apply increment
  | .reset => metrics.reset

/-- The event on a single set of counters. -/
def record (counters : Shard) : Event → Shard
  | .count increment => counters.apply increment
  | .reset => {}

end Event

/-- The counters after a history, on a number of shards. -/
def after (shards : Nat) (history : List Event) : Metrics :=
  history.foldl Event.run (withShards shards)

/-- The events behind the last reset, or all of them without one. -/
def sinceReset (history : List Event) : List Event :=
  history.rtakeWhile (!·.isReset)

/-! ## One set of counters -/

theorem merged_run (metrics : Metrics) (event : Event) :
    (event.run metrics).merged = event.record metrics.merged := by
  cases event with
  | count increment => exact metrics.merged_apply increment
  | reset => exact (IsFresh.reset metrics).merged_eq

/-- Merged after a history, the shards are what the events make of a single set of counters. -/
theorem merged_after (shards : Nat) (history : List Event) :
    (after shards history).merged = history.foldl Event.record {} := by
  have begun (metrics : Metrics) :
      (history.foldl Event.run metrics).merged = history.foldl Event.record metrics.merged := by
    induction history generalizing metrics with
    | nil => rfl
    | cons event rest ih => rw [List.foldl_cons, List.foldl_cons, ih, merged_run]
  rw [after, begun, (IsFresh.made shards).merged_eq]

/-- What was counted before a reset is gone. -/
theorem foldl_record_sinceReset (history : List Event) :
    (sinceReset history).foldl Event.record {} = history.foldl Event.record {} := by
  induction history using List.reverseRecOn with
  | nil => rfl
  | append_singleton history event ih =>
    rw [sinceReset, List.rtakeWhile_concat, List.foldl_append]
    cases event with
    | count increment =>
      have kept : (!(Event.count increment).isReset) = true := rfl
      rw [if_pos kept, List.foldl_append]
      exact congrArg (Shard.apply · increment) ih
    | reset => rfl

theorem isReset_of_mem {history : List Event} {event : Event} (member : event ∈ sinceReset history) :
    event.isReset = false := by
  have kept := List.mem_rtakeWhile_imp member
  rwa [Bool.not_eq_true'] at kept

theorem snapshot_congr {first second : Metrics} (same : first.merged = second.merged) :
    first.snapshot = second.snapshot := by
  simp only [snapshot, same]

/-! ## What is recorded -/

section Recorded

variable {events : List Event} (counts : ∀ event ∈ events, event.isReset = false)

include counts

/-- A tallied number grows by what the outcomes and the times add. -/
theorem recorded {read : Shard → UInt64} {perOutcome : Outcome → Nat} {perTime : UInt64 → Nat}
    (tally : Tally read perOutcome perTime) {shard : Shard} (whole : shard.Complete) :
    read (events.foldl Event.record shard) = read shard + UInt64.ofNat
      (((events.filterMap Event.outcome?).map perOutcome).sum
        + ((events.filterMap Event.time?).map perTime).sum) := by
  induction events generalizing shard with
  | nil => exact (UInt64.add_zero _).symm
  | cons event rest ih =>
    rw [List.forall_mem_cons] at counts
    rw [List.foldl_cons]
    cases event with
    | reset => cases counts.1
    | count increment =>
      rw [Event.record, ih counts.2 (whole.apply increment)]
      cases increment with
      | outcome worker outcome =>
        rw [Shard.apply, tally.increment whole, List.filterMap_cons_some (f := Event.outcome?) rfl,
          List.filterMap_cons_none (f := Event.time?) rfl, List.map_cons, List.sum_cons, UInt64.add_assoc,
          ← UInt64.ofNat_add, Nat.add_assoc]
      | time worker time =>
        rw [Shard.apply, tally.observe whole, List.filterMap_cons_none (f := Event.outcome?) rfl,
          List.filterMap_cons_some (f := Event.time?) rfl, List.map_cons, List.sum_cons, UInt64.add_assoc,
          ← UInt64.ofNat_add, Nat.add_left_comm]

theorem extremes_recorded (shard : Shard) :
    (events.foldl Event.record shard).timeMin =
        (events.filterMap Event.time?).foldl min shard.timeMin
      ∧ (events.foldl Event.record shard).timeMax =
        (events.filterMap Event.time?).foldl max shard.timeMax := by
  induction events generalizing shard with
  | nil => exact ⟨rfl, rfl⟩
  | cons event rest ih =>
    rw [List.forall_mem_cons] at counts
    rw [List.foldl_cons]
    cases event with
    | reset => cases counts.1
    | count increment =>
      rcases ih counts.2 (shard.apply increment) with ⟨least, greatest⟩
      rw [Event.record, least, greatest]
      cases increment with
      | outcome worker outcome =>
        rw [List.filterMap_cons_none (f := Event.time?) rfl]
        cases outcome <;> exact ⟨rfl, rfl⟩
      | time worker time =>
        rw [List.filterMap_cons_some (f := Event.time?) rfl, List.foldl_cons, List.foldl_cons]
        exact ⟨rfl, rfl⟩

end Recorded

/-! ## What is shown -/

section Shown

variable {history : List Event} (shards : Nat)

theorem merged_eq : (after shards history).merged =
    (sinceReset history).foldl Event.record {} := by
  rw [merged_after, foldl_record_sinceReset]

/-- A number in the merged counters, by the events since the last reset. -/
theorem read_merged {read : Shard → UInt64} {perOutcome : Outcome → Nat} {perTime : UInt64 → Nat}
    (tally : Tally read perOutcome perTime) :
    read (after shards history).merged = UInt64.ofNat
      ((((sinceReset history).filterMap Event.outcome?).map perOutcome).sum
        + (((sinceReset history).filterMap Event.time?).map perTime).sum) := by
  rw [merged_eq, recorded (fun _ member => isReset_of_mem member) tally Shard.complete_empty,
    tally.empty, UInt64.zero_add]

theorem complete_after : (after shards history).Complete := by
  have kept (metrics : Metrics) (complete : metrics.Complete) :
      (history.foldl Event.run metrics).Complete := by
    induction history generalizing metrics with
    | nil => exact complete
    | cons event rest ih =>
      apply ih
      cases event with
      | reset => exact complete_reset metrics
      | count increment =>
        cases increment with
        | outcome worker outcome => exact complete.increment worker outcome
        | time worker time => exact complete.observe worker time
  exact kept _ (IsFresh.made shards).complete

theorem foldl_min_maxTime (times : List UInt64) :
    times.foldl min maxTime = times.min?.getD maxTime := by
  cases times with
  | nil => rfl
  | cons time rest =>
    have small : time.toNat < 2 ^ 64 := time.toNat_lt
    have largest : maxTime.toNat = 2 ^ 64 - 1 := rfl
    have least : min maxTime time = time := by
      rw [← UInt64.toNat_inj, UInt64.toNat_min]
      omega
    rw [List.foldl_cons, least, List.min?_cons', Option.getD_some]

theorem foldl_max_zero (times : List UInt64) : times.foldl max 0 = times.max?.getD 0 := by
  cases times with
  | nil => rfl
  | cons time rest =>
    have greatest : max 0 time = time := by
      rw [← UInt64.toNat_inj, UInt64.toNat_max]
      exact Nat.zero_max _
    rw [List.foldl_cons, greatest, List.max?_cons', Option.getD_some]

/-- The least and the greatest time, where no time has come before the largest and after zero. -/
theorem extremes_merged :
    (after shards history).merged.timeMin =
        ((sinceReset history).filterMap Event.time?).min?.getD maxTime
      ∧ (after shards history).merged.timeMax =
        ((sinceReset history).filterMap Event.time?).max?.getD 0 := by
  have counts : ∀ event ∈ sinceReset history, event.isReset = false := fun _ => isReset_of_mem
  rcases extremes_recorded counts {} with ⟨least, greatest⟩
  rw [merged_eq, least, greatest]
  exact ⟨foldl_min_maxTime _, foldl_max_zero _⟩

theorem toNat_timeSum :
    (after shards history).merged.timeSum.toNat =
      (((sinceReset history).filterMap Event.time?).map UInt64.toNat).sum % 2 ^ 64 := by
  rw [read_merged shards Tally.timeSum, List.sum_map_zero, Nat.zero_add, UInt64.toNat_ofNat']

variable (few : (sinceReset history).length < 2 ^ 64)

include few

/-- A number is held whole when all events together add no more to it than there are of them. -/
theorem toNat_read {read : Shard → UInt64} {perOutcome : Outcome → Nat} {perTime : UInt64 → Nat}
    (tally : Tally read perOutcome perTime) {number : Nat}
    (adds : (((sinceReset history).filterMap Event.outcome?).map perOutcome).sum
      + (((sinceReset history).filterMap Event.time?).map perTime).sum = number)
    (within : number ≤ (sinceReset history).length) :
    (read (after shards history).merged).toNat = number := by
  rw [read_merged shards tally, adds]
  exact UInt64.toNat_ofNat_of_lt' (Nat.lt_of_le_of_lt within few)

theorem toNat_count (outcome : Outcome) :
    ((after shards history).snapshot.count outcome).toNat =
      ((sinceReset history).filterMap Event.outcome?).count outcome := by
  have adds : (((sinceReset history).filterMap Event.outcome?).map fun other =>
      if other = outcome then 1 else 0).sum
        + (((sinceReset history).filterMap Event.time?).map fun _ => 0).sum =
      ((sinceReset history).filterMap Event.outcome?).count outcome := by
    rw [List.sum_map_zero, Nat.add_zero, List.count_eq_countP, countP_eq_sum_map]
    simp only [beq_iff_eq]
  rw [count_snapshot]
  exact toNat_read shards few (Tally.count outcome) adds
    (List.count_le_length.trans (List.length_filterMap_le ..))

/-- A number that counts the times of a kind. -/
theorem toNat_ofTimes {read : Shard → UInt64} {kind : UInt64 → Bool}
    (tally : Tally read (fun _ => 0) fun time => if kind time then 1 else 0) :
    (read (after shards history).merged).toNat =
      ((sinceReset history).filterMap Event.time?).countP kind := by
  have adds : (((sinceReset history).filterMap Event.outcome?).map fun _ => 0).sum
        + (((sinceReset history).filterMap Event.time?).map fun time =>
          if kind time then 1 else 0).sum =
      ((sinceReset history).filterMap Event.time?).countP kind := by
    rw [List.sum_map_zero, Nat.zero_add, ← countP_eq_sum_map]
  exact toNat_read shards few tally adds
    (List.countP_le_length.trans (List.length_filterMap_le ..))

theorem toNat_timeCount : (after shards history).merged.timeCount.toNat =
    ((sinceReset history).filterMap Event.time?).length := by
  have tally : Tally Shard.timeCount (fun _ => 0) fun _ => if true then 1 else 0 := Tally.timeCount
  rw [toNat_ofTimes shards few tally, List.countP_true]

theorem toNat_bucket {bucket : Nat} (inside : bucket < histogramBuckets) :
    ((after shards history).merged.bucket bucket).toNat =
      ((sinceReset history).filterMap Event.time?).countP (log2Bucket · = bucket) := by
  have tally : Tally (·.bucket bucket) (fun _ => 0) fun time =>
      if decide (log2Bucket time = bucket) then 1 else 0 := by
    simpa only [decide_eq_true_eq] using Tally.bucket inside
  exact toNat_ofTimes shards few tally

theorem timeMin_snapshot : (after shards history).snapshot.timeMin =
    ((sinceReset history).filterMap Event.time?).min?.getD 0 := by
  have counted := toNat_timeCount shards few
  have least : (after shards history).merged.timeMin = _ := (extremes_merged shards).1
  change (if (after shards history).merged.timeCount = 0 then 0
    else (after shards history).merged.timeMin) = _
  cases times : (sinceReset history).filterMap Event.time? with
  | nil =>
    rw [times] at counted
    exact if_pos (UInt64.toNat_inj.mp counted)
  | cons time rest =>
    have some_counted : (after shards history).merged.timeCount ≠ 0 := by
      intro none_counted
      rw [times, none_counted] at counted
      cases counted
    rw [if_neg some_counted, least, times]
    rfl

end Shown

/-- Whatever happened to the counters, on however many shards and by whichever workers, a snapshot
shows the same as one set of counters that took the events since the last reset one after another.
Every outcome and every time of these is counted once; the least and the greatest time are the true
ones, and zero without any; the sum is exact as far as 64 bits hold it; a bucket has the times from
its power of two up to the next one, and the buckets together have all times. -/
theorem sharding_is_invisible {history : List Event}
    (few : (sinceReset history).length < 2 ^ 64) (shards : Nat) :
    let shown := (after shards history).snapshot
    let outcomes := (sinceReset history).filterMap Event.outcome?
    let times := (sinceReset history).filterMap Event.time?
    shown = (after 1 (sinceReset history)).snapshot
    ∧ (∀ outcome, (shown.count outcome).toNat = outcomes.count outcome)
    ∧ shown.timeCount.toNat = times.length
    ∧ shown.timeMin = times.min?.getD 0
    ∧ shown.timeMax = times.max?.getD 0
    ∧ shown.timeSum.toNat = (times.map UInt64.toNat).sum % 2 ^ 64
    ∧ shown.histogram.length = 64
    ∧ (∀ bucket < 64, (shown.histogram.getD bucket 0).toNat = times.countP fun time =>
        2 ^ bucket ≤ max time.toNat 1 ∧ max time.toNat 1 < 2 ^ (bucket + 1))
    ∧ (shown.histogram.map UInt64.toNat).sum = shown.timeCount.toNat := by
  intro shown outcomes times
  have timed : shown.timeCount.toNat = times.length := toNat_timeCount shards few
  have inBucket (bucket : Nat) (inside : bucket < histogramBuckets) :
      (shown.histogram.getD bucket 0).toNat = times.countP (log2Bucket · = bucket) :=
    toNat_bucket shards few inside
  refine ⟨?_, toNat_count shards few, timed, timeMin_snapshot shards few,
    (extremes_merged shards).2, toNat_timeSum shards, complete_merged (complete_after shards), ?_, ?_⟩
  · apply snapshot_congr
    rw [merged_after, merged_after, foldl_record_sinceReset]
  · intro bucket inside
    rw [inBucket bucket inside]
    simp only [log2Bucket_eq_iff]
  · calc
      (shown.histogram.map UInt64.toNat).sum
        = ∑ bucket ∈ Finset.range histogramBuckets,
            ((after shards history).merged.bucket bucket).toNat :=
          sum_histogram (complete_after shards)
      _ = ∑ bucket ∈ Finset.range histogramBuckets,
            times.countP fun time => true && decide (log2Bucket time = bucket) := by
          apply Finset.sum_congr rfl
          intro bucket inside
          rw [toNat_bucket shards few (Finset.mem_range.mp inside)]
          simp only [Bool.true_and]
          rfl
      _ = times.countP fun _ => true := sum_countP log2Bucket_lt (fun _ => true) times
      _ = shown.timeCount.toNat := by rw [timed, List.countP_true]

/-- Times of four workers on three shards, behind a time that a reset made forgotten: the least and
the greatest of all times, and one with the highest bit alone. -/
def scattered : List Event :=
  [.count (.time 0 7), .reset, .count (.outcome 5 .received), .count (.time 1 0),
    .count (.time 4 maxTime), .count (.time 2 0x8000000000000000)]

theorem scattered_shown :
    (sinceReset scattered).length < 2 ^ 64
    ∧ (after 3 scattered).snapshot.timeMin = 0
    ∧ (after 3 scattered).snapshot.timeMax = maxTime
    ∧ (after 3 scattered).snapshot.timeSum.toNat = 2 ^ 63 - 1
    ∧ (after 3 scattered).snapshot.timeCount.toNat = 3
    ∧ ((after 3 scattered).snapshot.histogram.getD 63 0).toNat = 2 := by
  have few : (sinceReset scattered).length < 2 ^ 64 := by decide
  rcases sharding_is_invisible few 3 with
    ⟨-, -, counted, least, greatest, sum, -, inBucket, -⟩
  refine ⟨few, least.trans ?_, greatest.trans ?_, sum.trans ?_, counted.trans ?_,
    (inBucket 63 ?_).trans ?_⟩ <;> decide

end Metrics
end DnsResponder
