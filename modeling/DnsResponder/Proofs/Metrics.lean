import DnsResponder.Metrics
import DnsResponder.Proofs.Refusal
import Mathlib.Data.List.Basic

namespace DnsResponder

/-!
# Where a frame is counted

The shard of a worker is found by a remainder, and the bucket of a time by the zeros in front of its
first digit.  Neither is looked up with a default here: `checkedUpdate` and `checkedObserve` stop
where there is no shard or no bucket, nothing to divide by, or too many zeros.  For counters with all
of their buckets they come to the same as the unchecked operations, and counting never takes a bucket
away.
-/

/-- The remainder of a division, which has to have a divisor. -/
def Stop.remainder (dividend divisor : Nat) : Except Stop Nat :=
  if divisor = 0 then .error .outside else .ok (dividend % divisor)

theorem Stop.remainder_eq {divisor : Nat} (some : 0 < divisor) (dividend : Nat) :
    Stop.remainder dividend divisor = .ok (dividend % divisor) :=
  if_neg (Nat.ne_of_gt some)

/-! ## Buckets -/

theorem toNat_pos_of_large {time : UInt64} (large : ¬ time < 2) : 0 < time.toNat := by
  apply Nat.pos_of_ne_zero
  intro zero
  apply large
  rw [UInt64.lt_iff_toNat_lt, zero]
  decide

/-- Every time that can be held has a bucket. -/
theorem log2Bucket_lt (time : UInt64) : log2Bucket time < histogramBuckets := by
  rw [log2Bucket]
  split
  · decide
  · next large => exact (Nat.log2_lt (Nat.ne_of_gt (toNat_pos_of_large large))).mpr time.toNat_lt

/-- The zeros in front of a word, and how far up its first digit is, make up its width. -/
theorem log2_add_clz {width : Nat} {word : BitVec width} (nonzero : word ≠ 0) :
    Nat.log2 word.toNat + 1 + word.clz.toNat = width := by
  have zeros : word.clz.toNat < width :=
    Nat.lt_of_lt_of_le (BitVec.lt_def.mp (BitVec.clz_lt_iff_ne_zero.mpr nonzero))
      (BitVec.toNat_ofNat width width ▸ Nat.mod_le width (2 ^ width))
  have atLeast : 2 ^ (width - 1 - word.clz.toNat) ≤ word.toNat :=
    BitVec.two_pow_sub_clz_le_toNat_of_ne_zero (by omega) nonzero
  have digits : width - 1 - word.clz.toNat + 1 = width - word.clz.toNat := by omega
  have below : word.toNat < 2 ^ (width - 1 - word.clz.toNat + 1) :=
    digits ▸ BitVec.toNat_lt_two_pow_sub_clz
  have positive : word.toNat ≠ 0 := Nat.ne_of_gt (Nat.lt_of_lt_of_le (Nat.two_pow_pos _) atLeast)
  have logarithm := (Nat.log2_eq_iff positive).mpr ⟨atLeast, below⟩
  omega

/-- The bucket of a time, from the number of its leading zeros. -/
def checkedBucket (time : UInt64) : Except Stop Nat :=
  if time < 2 then .ok 0
  else Stop.difference (histogramBuckets - 1) time.toBitVec.clz.toNat

/-- A time that is not zero has fewer leading zeros than digits. -/
theorem checkedBucket_eq (time : UInt64) : checkedBucket time = .ok (log2Bucket time) := by
  rw [checkedBucket, log2Bucket]
  split
  · rfl
  · next large =>
    have nonzero : time.toBitVec ≠ 0 := by
      intro zero
      apply Nat.ne_of_gt (toNat_pos_of_large large)
      rw [← UInt64.toNat_toBitVec, zero]
      rfl
    have digits : Nat.log2 time.toNat + 1 + time.toBitVec.clz.toNat = 64 := log2_add_clz nonzero
    apply Stop.difference_eq
    rw [histogramBuckets]
    omega

namespace Shard

/-- The shard has a bucket for each time. -/
def Complete (shard : Shard) : Prop :=
  shard.histogram.length = histogramBuckets

def checkedObserve (shard : Shard) (time : UInt64) : Except Stop Shard := do
  let bucket ← checkedBucket time
  let count ← Stop.require shard.histogram[bucket]?
  return { shard with
    timeMin := min shard.timeMin time
    timeMax := max shard.timeMax time
    timeSum := shard.timeSum + time
    timeCount := shard.timeCount + 1
    histogram := shard.histogram.set bucket (count + 1) }

theorem Complete.checkedObserve_eq {shard : Shard} (complete : shard.Complete) (time : UInt64) :
    shard.checkedObserve time = .ok (shard.observe time) := by
  have inside : log2Bucket time < shard.histogram.length := by
    rw [complete]
    exact log2Bucket_lt time
  simp only [checkedObserve, checkedBucket_eq, bind, Except.bind,
    List.getElem?_eq_getElem inside, Stop.require]
  rw [observe, List.modify_eq_set_get _ inside]
  rfl

theorem Complete.observe {shard : Shard} (complete : shard.Complete) (time : UInt64) :
    (shard.observe time).Complete :=
  (List.length_modify ..).trans complete

theorem Complete.increment {shard : Shard} (complete : shard.Complete) (outcome : Outcome) :
    (shard.increment outcome).Complete := by
  cases outcome <;> exact complete

end Shard

/-! ## Shards -/

namespace Metrics

/-- Every shard has all of its buckets. -/
def Complete (metrics : Metrics) : Prop :=
  ∀ shard ∈ metrics.shards, shard.Complete

def checkedUpdate (metrics : Metrics) (worker : Nat) (change : Shard → Except Stop Shard) :
    Except Stop Metrics := do
  let place ← Stop.remainder worker metrics.shards.length
  let shard ← Stop.require metrics.shards[place]?
  let changed ← change shard
  return {
    shards := metrics.shards.set place changed
    nonempty := by rw [List.length_set]; exact metrics.nonempty }

theorem place_lt (metrics : Metrics) (worker : Nat) :
    worker % metrics.shards.length < metrics.shards.length :=
  Nat.mod_lt _ metrics.nonempty

theorem shards_update (metrics : Metrics) (worker : Nat) (change : Shard → Shard) :
    (metrics.update worker change).shards =
      metrics.shards.set (worker % metrics.shards.length)
        (change (metrics.shards.get ⟨worker % metrics.shards.length, metrics.place_lt worker⟩)) :=
  List.modify_eq_set_get _ (metrics.place_lt worker)

variable {metrics : Metrics} {change : Shard → Shard}

theorem checkedUpdate_eq {checked : Shard → Except Stop Shard}
    (agrees : ∀ shard ∈ metrics.shards, checked shard = .ok (change shard)) (worker : Nat) :
    metrics.checkedUpdate worker checked = .ok (metrics.update worker change) := by
  obtain ⟨shard, held⟩ : ∃ shard, shard =
      metrics.shards.get ⟨worker % metrics.shards.length, metrics.place_lt worker⟩ := ⟨_, rfl⟩
  have found : metrics.shards[worker % metrics.shards.length]? = some shard := by
    rw [held]
    exact List.getElem?_eq_getElem (metrics.place_lt worker)
  have changed : checked shard = .ok (change shard) := by
    rw [held]
    exact agrees _ (List.get_mem ..)
  have shards := metrics.shards_update worker change
  rw [← held] at shards
  simp only [checkedUpdate, Stop.remainder_eq metrics.nonempty, found, Stop.require, bind,
    Except.bind, changed, ← shards]
  rfl

/-- What a change keeps of a shard holds of all shards, whichever was changed. -/
theorem forall_shards_update {whole : Shard → Prop} (each : ∀ shard ∈ metrics.shards, whole shard)
    (worker : Nat) (kept : ∀ shard : Shard, whole shard → whole (change shard)) :
    ∀ shard ∈ (metrics.update worker change).shards, whole shard := by
  intro shard member
  rw [shards_update] at member
  rcases List.mem_or_eq_of_mem_set member with before | rfl
  · exact each shard before
  · exact kept _ (each _ (List.get_mem metrics.shards ⟨_, metrics.place_lt worker⟩))

theorem Complete.update (complete : metrics.Complete) (worker : Nat)
    (kept : ∀ shard : Shard, shard.Complete → (change shard).Complete) :
    (metrics.update worker change).Complete :=
  forall_shards_update complete worker kept

theorem complete_fresh : fresh.Complete := by
  intro shard member
  rw [List.eq_of_mem_replicate member]
  rfl

theorem complete_reset (metrics : Metrics) : metrics.reset.Complete := by
  intro shard member
  rcases List.mem_map.mp member with ⟨before, -, rfl⟩
  rfl

/-- A worker that counts an outcome finds its shard. -/
theorem checkedIncrement_eq (metrics : Metrics) (worker : Nat) (outcome : Outcome) :
    metrics.checkedUpdate worker (fun shard => .ok (shard.increment outcome)) =
      .ok (metrics.increment worker outcome) :=
  checkedUpdate_eq (fun _ _ => rfl) worker

theorem Complete.checkedObserve_eq (complete : metrics.Complete) (worker : Nat) (time : UInt64) :
    metrics.checkedUpdate worker (·.checkedObserve time) = .ok (metrics.observe worker time) :=
  checkedUpdate_eq (fun shard member => (complete shard member).checkedObserve_eq time) worker

theorem Complete.increment (complete : metrics.Complete) (worker : Nat) (outcome : Outcome) :
    (metrics.increment worker outcome).Complete :=
  complete.update worker fun _ whole => whole.increment outcome

theorem Complete.observe (complete : metrics.Complete) (worker : Nat) (time : UInt64) :
    (metrics.observe worker time).Complete :=
  complete.update worker fun _ whole => whole.observe time

end Metrics
end DnsResponder
