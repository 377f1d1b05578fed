namespace DnsResponder

/-!
# Counters and latencies

Frames are counted by outcome, and the time each took is collected as minimum, maximum, sum, number
and a histogram by powers of two.  Counters are spread over shards, one of which each worker uses;
a snapshot merges them, so that it shows what one set of counters would have.
-/

/-- What frames are counted as. -/
inductive Outcome
  | received
  | transmitted
  | passed
  | errored
deriving DecidableEq

/-- Buckets of the histogram, one for each bit of a time. -/
def histogramBuckets : Nat := 64

def defaultShards : Nat := 16

def maxTime : UInt64 := 0xFFFFFFFFFFFFFFFF

/-- The bucket of a time: the floor of its binary logarithm, and zero for no time. -/
def log2Bucket (time : UInt64) : Nat :=
  if time < 2 then 0 else Nat.log2 time.toNat

/-- A time in nanoseconds as it is held; times too large count as the largest. -/
def holdTime (nanoseconds : Nat) : UInt64 :=
  if nanoseconds ≤ maxTime.toNat then UInt64.ofNat nanoseconds else maxTime

/-- One set of counters.  The minimum starts at the largest time, so that the first observation
replaces it. -/
structure Shard where
  received : UInt64 := 0
  transmitted : UInt64 := 0
  passed : UInt64 := 0
  errored : UInt64 := 0
  timeMin : UInt64 := maxTime
  timeMax : UInt64 := 0
  timeSum : UInt64 := 0
  timeCount : UInt64 := 0
  histogram : List UInt64 := List.replicate histogramBuckets 0
deriving DecidableEq

namespace Shard

def increment (shard : Shard) : Outcome → Shard
  | .received => { shard with received := shard.received + 1 }
  | .transmitted => { shard with transmitted := shard.transmitted + 1 }
  | .passed => { shard with passed := shard.passed + 1 }
  | .errored => { shard with errored := shard.errored + 1 }

def observe (shard : Shard) (time : UInt64) : Shard :=
  { shard with
    timeMin := min shard.timeMin time
    timeMax := max shard.timeMax time
    timeSum := shard.timeSum + time
    timeCount := shard.timeCount + 1
    histogram := shard.histogram.modify (log2Bucket time) (· + 1) }

def merge (first second : Shard) : Shard where
  received := first.received + second.received
  transmitted := first.transmitted + second.transmitted
  passed := first.passed + second.passed
  errored := first.errored + second.errored
  timeMin := min first.timeMin second.timeMin
  timeMax := max first.timeMax second.timeMax
  timeSum := first.timeSum + second.timeSum
  timeCount := first.timeCount + second.timeCount
  histogram := List.zipWith (· + ·) first.histogram second.histogram

end Shard

/-- Merged counters as they are shown.  The minimum is zero while no time has been observed. -/
structure Snapshot where
  received : UInt64 := 0
  transmitted : UInt64 := 0
  passed : UInt64 := 0
  errored : UInt64 := 0
  timeMin : UInt64 := 0
  timeMax : UInt64 := 0
  timeSum : UInt64 := 0
  timeCount : UInt64 := 0
  histogram : List UInt64 := List.replicate histogramBuckets 0
deriving DecidableEq

namespace Snapshot

def count (snapshot : Snapshot) : Outcome → UInt64
  | .received => snapshot.received
  | .transmitted => snapshot.transmitted
  | .passed => snapshot.passed
  | .errored => snapshot.errored

/-- The mean time, once there is one. -/
def mean? (snapshot : Snapshot) : Option UInt64 :=
  if snapshot.timeCount = 0 then none else some (snapshot.timeSum / snapshot.timeCount)

/-- The buckets that are not empty, with their numbers. -/
def occupied (snapshot : Snapshot) : List (Nat × UInt64) :=
  snapshot.histogram.zipIdx.filterMap fun (count, bucket) =>
    if count = 0 then none else some (bucket, count)

end Snapshot

/-- The counters of all workers. -/
structure Metrics where
  shards : List Shard
  nonempty : 0 < shards.length

namespace Metrics

/-- Fresh metrics with a number of shards, of which there is at least one. -/
def withShards (count : Nat) : Metrics where
  shards := List.replicate (max count 1) {}
  nonempty := by rw [List.length_replicate]; omega

def fresh : Metrics :=
  withShards defaultShards

/-- Change the shard of a worker.  Workers share shards when they are more than these. -/
def update (metrics : Metrics) (worker : Nat) (change : Shard → Shard) : Metrics where
  shards := metrics.shards.modify (worker % metrics.shards.length) change
  nonempty := by simpa using metrics.nonempty

def increment (metrics : Metrics) (worker : Nat) (outcome : Outcome) : Metrics :=
  metrics.update worker (·.increment outcome)

def observe (metrics : Metrics) (worker : Nat) (time : UInt64) : Metrics :=
  metrics.update worker (·.observe time)

def reset (metrics : Metrics) : Metrics where
  shards := metrics.shards.map fun _ => {}
  nonempty := by simpa using metrics.nonempty

def merged (metrics : Metrics) : Shard :=
  metrics.shards.foldl Shard.merge {}

/-- The counters of all shards as they are shown. -/
def snapshot (metrics : Metrics) : Snapshot :=
  let all := metrics.merged
  { received := all.received
    transmitted := all.transmitted
    passed := all.passed
    errored := all.errored
    timeMin := if all.timeCount = 0 then 0 else all.timeMin
    timeMax := all.timeMax
    timeSum := all.timeSum
    timeCount := all.timeCount
    histogram := all.histogram }

end Metrics
end DnsResponder
