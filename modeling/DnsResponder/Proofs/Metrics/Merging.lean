import DnsResponder.Proofs.Metrics

namespace DnsResponder

/-!
# Merged counters take every increment

The merged counters of all workers are a set of counters like any other, so they can be counted on
themselves.  Counting on one of the shards and merging then comes to the same as merging first and
counting on the result, whichever shard it was.  All that this takes of a change is that it may pass
from one of two merged shards to the merged one.  For the sums that is the order of addition, for the
extremes the order of comparison, and a bucket is one of the sums.
-/

/-- A single change of the counters that workers share. -/
inductive Increment
  | outcome (worker : Nat) (outcome : Outcome)
  | time (worker : Nat) (time : UInt64)

def Metrics.apply (metrics : Metrics) : Increment → Metrics
  | .outcome worker outcome => metrics.increment worker outcome
  | .time worker time => metrics.observe worker time

namespace Shard

/-- The increment on a single set of counters, whoever made it. -/
def apply (shard : Shard) : Increment → Shard
  | .outcome _ outcome => shard.increment outcome
  | .time _ time => shard.observe time

variable {first second : Shard}

theorem Complete.apply (whole : first.Complete) (increment : Increment) :
    (first.apply increment).Complete := by
  cases increment with
  | outcome worker outcome => exact whole.increment outcome
  | time worker time => exact whole.observe time

theorem merge_comm (first second : Shard) : first.merge second = second.merge first := by
  have least : min first.timeMin second.timeMin = min second.timeMin first.timeMin := by ac_rfl
  have greatest : max first.timeMax second.timeMax = max second.timeMax first.timeMax := by
    rw [← UInt64.toNat_inj, UInt64.toNat_max, UInt64.toNat_max, Nat.max_comm]
  have histogram : List.zipWith (· + ·) first.histogram second.histogram =
      List.zipWith (· + ·) second.histogram first.histogram :=
    List.zipWith_comm_of_comm UInt64.add_comm
  simp only [merge, least, greatest, histogram, UInt64.add_comm]

/-- One more in a bucket of two merged histograms may be counted in the first. -/
theorem zipWith_modify (first second : List UInt64) (place : Nat) :
    List.zipWith (· + ·) (first.modify place (· + 1)) second =
      (List.zipWith (· + ·) first second).modify place (· + 1) := by
  induction first generalizing second place with
  | nil => cases place <;> rfl
  | cons count rest ih =>
    cases second with
    | nil => cases place <;> rfl
    | cons other others =>
      cases place with
      | zero =>
        have counted : count + 1 + other = count + other + 1 := by ac_rfl
        simp only [List.modify_zero_cons, List.zipWith_cons_cons, counted]
      | succ place =>
        simp only [List.modify_succ_cons, List.zipWith_cons_cons, ih]

theorem increment_merge (first second : Shard) (outcome : Outcome) :
    (first.increment outcome).merge second = (first.merge second).increment outcome := by
  cases outcome <;>
    simp only [merge, increment, UInt64.add_assoc, UInt64.add_comm (1 : UInt64)]

theorem observe_merge (first second : Shard) (time : UInt64) :
    (first.observe time).merge second = (first.merge second).observe time := by
  have least : min (min first.timeMin time) second.timeMin =
      min (min first.timeMin second.timeMin) time := by ac_rfl
  have greatest : max (max first.timeMax time) second.timeMax =
      max (max first.timeMax second.timeMax) time := by
    rw [← UInt64.toNat_inj]
    simp only [UInt64.toNat_max]
    omega
  have sum : first.timeSum + time + second.timeSum =
      first.timeSum + second.timeSum + time := by ac_rfl
  have count : first.timeCount + 1 + second.timeCount =
      first.timeCount + second.timeCount + 1 := by ac_rfl
  simp only [merge, observe, least, greatest, sum, count, zipWith_modify]

end Shard

namespace Metrics

section Changes

variable {change : Shard → Shard}
  (passes : ∀ first second : Shard, (change first).merge second = change (first.merge second))

include passes

theorem foldl_merge_change (shards : List Shard) (first : Shard) :
    shards.foldl Shard.merge (change first) = change (shards.foldl Shard.merge first) := by
  induction shards generalizing first with
  | nil => rfl
  | cons shard rest ih => rw [List.foldl_cons, List.foldl_cons, passes, ih]

theorem foldl_merge_modify {shards : List Shard} {place : Nat} (inside : place < shards.length)
    (first : Shard) :
    (shards.modify place change).foldl Shard.merge first =
      change (shards.foldl Shard.merge first) := by
  induction shards generalizing place first with
  | nil => exact absurd inside (Nat.not_lt_zero _)
  | cons shard rest ih =>
    cases place with
    | zero =>
      rw [List.modify_zero_cons, List.foldl_cons, List.foldl_cons, first.merge_comm, passes,
        shard.merge_comm, foldl_merge_change passes]
    | succ place =>
      rw [List.modify_succ_cons, List.foldl_cons, List.foldl_cons,
        ih (Nat.lt_of_succ_lt_succ inside)]

/-- A change on one shard is the change of the merged counters. -/
theorem merged_update (metrics : Metrics) (worker : Nat) :
    (metrics.update worker change).merged = change metrics.merged :=
  foldl_merge_modify passes (metrics.place_lt worker) {}

end Changes

theorem merged_apply (metrics : Metrics) (increment : Increment) :
    (metrics.apply increment).merged = metrics.merged.apply increment := by
  cases increment with
  | outcome worker outcome =>
    exact merged_update (fun first second => first.increment_merge second outcome) metrics worker
  | time worker time =>
    exact merged_update (fun first second => first.observe_merge second time) metrics worker

end Metrics
end DnsResponder
