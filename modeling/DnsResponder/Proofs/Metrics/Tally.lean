import Mathlib.Algebra.GroupWithZero.Nat
import Mathlib.Data.UInt
import DnsResponder.Proofs.Metrics.Merging

namespace DnsResponder

/-!
# Numbers that grow with what is counted

Each worker counts on a shard of its own, and a snapshot merges them.  `Tally` collects what makes
such a number exact: it is zero in an empty shard, and grows by a fixed amount with every outcome and
every time.  As the merged counters take every increment themselves, the merged number grows by that
amount too, whichever shard was used.  Only shards with all of their buckets are asked for this, for
a time in a bucket that is missing is not counted.
-/

namespace Shard

variable {first second : Shard}

theorem complete_empty : Complete {} :=
  List.length_replicate

theorem Complete.merge (whole : first.Complete) (also : second.Complete) :
    (first.merge second).Complete := by
  unfold Complete Shard.merge
  rw [List.length_zipWith, whole, also, Nat.min_self]

def count (shard : Shard) : Outcome → UInt64
  | .received => shard.received
  | .transmitted => shard.transmitted
  | .passed => shard.passed
  | .errored => shard.errored

/-- The number of times in a bucket. -/
def bucket (shard : Shard) (place : Nat) : UInt64 :=
  shard.histogram.getD place 0

theorem count_increment (shard : Shard) (outcome counted : Outcome) :
    (shard.increment outcome).count counted =
      shard.count counted + UInt64.ofNat (if outcome = counted then 1 else 0) := by
  cases counted <;> cases outcome <;> simp [count, increment]

theorem count_observe (shard : Shard) (time : UInt64) (counted : Outcome) :
    (shard.observe time).count counted = shard.count counted := by
  cases counted <;> rfl

theorem timeCount_increment (shard : Shard) (outcome : Outcome) :
    (shard.increment outcome).timeCount = shard.timeCount := by
  cases outcome <;> rfl

end Shard

/-- A number in each shard, with what every outcome and every time adds to it. -/
structure Tally (read : Shard → UInt64) (perOutcome : Outcome → Nat) (perTime : UInt64 → Nat) :
    Prop where
  empty : read {} = 0
  increment : ∀ {shard : Shard}, shard.Complete → ∀ outcome,
    read (shard.increment outcome) = read shard + UInt64.ofNat (perOutcome outcome)
  observe : ∀ {shard : Shard}, shard.Complete → ∀ time,
    read (shard.observe time) = read shard + UInt64.ofNat (perTime time)

namespace Tally

/-! ## What is tallied -/

theorem count (counted : Outcome) :
    Tally (·.count counted) (fun outcome => if outcome = counted then 1 else 0) fun _ => 0 where
  empty := by cases counted <;> rfl
  increment := fun {shard} _ outcome => shard.count_increment outcome counted
  observe := by
    intro shard _ time
    rw [shard.count_observe]
    exact (UInt64.add_zero _).symm

theorem timeCount : Tally Shard.timeCount (fun _ => 0) fun _ => 1 where
  empty := rfl
  increment := by
    intro shard _ outcome
    rw [shard.timeCount_increment]
    exact (UInt64.add_zero _).symm
  observe := fun _ _ => rfl

/-- The sum of the times, as far as it is held. -/
theorem timeSum : Tally Shard.timeSum (fun _ => 0) UInt64.toNat where
  empty := rfl
  increment := by
    intro shard _ outcome
    cases outcome <;> exact (UInt64.add_zero _).symm
  observe := by
    intro shard _ time
    rw [UInt64.ofNat_toNat]
    rfl

theorem bucket {place : Nat} (inside : place < histogramBuckets) :
    Tally (·.bucket place) (fun _ => 0) fun time => if log2Bucket time = place then 1 else 0 where
  empty := by
    rw [Shard.bucket, List.getD_eq_getElem?_getD, List.getElem?_replicate, if_pos inside]
    rfl
  increment := by
    intro shard _ outcome
    cases outcome <;> simp [Shard.bucket, Shard.increment]
  observe := by
    intro shard whole time
    have held : place < shard.histogram.length := by rw [whole]; exact inside
    rw [Shard.bucket, Shard.bucket, Shard.observe, List.getD_eq_getElem?_getD,
      List.getD_eq_getElem?_getD, List.getElem?_modify, List.getElem?_eq_getElem held]
    by_cases same : log2Bucket time = place
    · simp [same]
    · simp [same]

end Tally

/-! ## Merged numbers -/

namespace Metrics

variable {metrics : Metrics}

theorem complete_merged (complete : metrics.Complete) : metrics.merged.Complete := by
  have merged (shards : List Shard) (each : ∀ shard ∈ shards, shard.Complete) (first : Shard)
      (begins : first.Complete) : (shards.foldl Shard.merge first).Complete := by
    induction shards generalizing first with
    | nil => exact begins
    | cons shard rest ih =>
      rw [List.forall_mem_cons] at each
      exact ih each.2 _ (begins.merge each.1)
  exact merged metrics.shards complete {} Shard.complete_empty

theorem count_snapshot (metrics : Metrics) (outcome : Outcome) :
    metrics.snapshot.count outcome = metrics.merged.count outcome := by
  cases outcome <;> rfl

end Metrics

namespace Tally

variable {read : Shard → UInt64} {perOutcome : Outcome → Nat} {perTime : UInt64 → Nat}
  {metrics : Metrics}

theorem increments (tally : Tally read perOutcome perTime) (complete : metrics.Complete)
    (worker : Nat) (outcome : Outcome) :
    read (metrics.increment worker outcome).merged =
      read metrics.merged + UInt64.ofNat (perOutcome outcome) :=
  (congrArg read (metrics.merged_apply (.outcome worker outcome))).trans
    (tally.increment (Metrics.complete_merged complete) outcome)

theorem observes (tally : Tally read perOutcome perTime) (complete : metrics.Complete)
    (worker : Nat) (time : UInt64) :
    read (metrics.observe worker time).merged =
      read metrics.merged + UInt64.ofNat (perTime time) :=
  (congrArg read (metrics.merged_apply (.time worker time))).trans
    (tally.observe (Metrics.complete_merged complete) time)

end Tally

/-! ## Metrics without counts -/

namespace Metrics

/-- Metrics that were just made or just reset. -/
inductive IsFresh : Metrics → Prop
  | made (count : Nat) : IsFresh (.withShards count)
  | reset (before : Metrics) : IsFresh before.reset

variable {metrics : Metrics}

theorem IsFresh.shard_eq (anew : metrics.IsFresh) : ∀ shard ∈ metrics.shards, shard = {} := by
  intro shard member
  cases anew with
  | made count => exact List.eq_of_mem_replicate member
  | reset before =>
    rcases List.mem_map.mp member with ⟨old, -, same⟩
    exact same.symm

theorem IsFresh.complete (anew : metrics.IsFresh) : metrics.Complete := by
  intro shard member
  rw [anew.shard_eq shard member]
  exact Shard.complete_empty

/-- Nothing has been counted in them. -/
theorem IsFresh.merged_eq (anew : metrics.IsFresh) : metrics.merged = {} := by
  have blank := anew.shard_eq
  rw [merged]
  generalize metrics.shards = shards at blank ⊢
  induction shards with
  | nil => rfl
  | cons shard rest ih =>
    rw [List.forall_mem_cons] at blank
    rw [List.foldl_cons, blank.1]
    exact ih blank.2

end Metrics

/-- Every number starts at zero. -/
theorem Tally.fresh {read : Shard → UInt64} {perOutcome : Outcome → Nat} {perTime : UInt64 → Nat}
    {metrics : Metrics} (tally : Tally read perOutcome perTime) (anew : metrics.IsFresh) :
    read metrics.merged = 0 := by
  rw [anew.merged_eq, tally.empty]

end DnsResponder
