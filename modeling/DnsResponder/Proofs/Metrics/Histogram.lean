import DnsResponder.Proofs.Metrics.Tally
import Mathlib.Algebra.BigOperators.Fin

namespace DnsResponder

/-!
# The histogram

The bucket of a time is the power of two at or below it, where no time at all counts like the
shortest one.  Every time has one bucket, so the buckets together hold as many times as there were.
-/

/-- A bucket reaches from its power of two up to the next one. -/
theorem log2Bucket_eq_iff (time : UInt64) (bucket : Nat) :
    log2Bucket time = bucket ↔
      2 ^ bucket ≤ max time.toNat 1 ∧ max time.toNat 1 < 2 ^ (bucket + 1) := by
  have logarithm : log2Bucket time = Nat.log2 (max time.toNat 1) := by
    rw [log2Bucket]
    split
    · next short =>
      have least : max time.toNat 1 = 1 :=
        Nat.max_eq_right (Nat.le_of_lt_succ (UInt64.lt_iff_toNat_lt.mp short))
      rw [least]
      rfl
    · next long =>
      have greater : 1 ≤ time.toNat := toNat_pos_of_large long
      rw [Nat.max_eq_left greater]
  rw [logarithm]
  exact Nat.log2_eq_iff (by omega)

/-! ## Adding up buckets -/

theorem countP_eq_sum_map {α : Type} (kind : α → Bool) (values : List α) :
    values.countP kind = (values.map fun value => if kind value then 1 else 0).sum := by
  induction values with
  | nil => rfl
  | cons value rest ih => rw [List.countP_cons, List.map_cons, List.sum_cons, ih, Nat.add_comm]

theorem sum_eq_sum_range {size : Nat} (values : List Nat) (long : values.length = size) :
    values.sum = ∑ place ∈ Finset.range size, values.getD place 0 := by
  subst long
  rw [Finset.sum_range, ← Fin.sum_univ_getElem]
  apply Finset.sum_congr rfl
  intro place _
  rw [List.getD_eq_getElem?_getD, List.getElem?_eq_getElem place.isLt]
  rfl

/-- Counting by place and adding up counts all. -/
theorem sum_countP {α : Type} {size : Nat} {place : α → Nat} (inside : ∀ value, place value < size)
    (kind : α → Bool) (values : List α) :
    ∑ bucket ∈ Finset.range size,
        values.countP (fun value => kind value && decide (place value = bucket)) =
      values.countP kind := by
  induction values with
  | nil => exact Finset.sum_const_zero
  | cons value rest ih =>
    simp only [List.countP_cons, Finset.sum_add_distrib, ih]
    cases kind value with
    | false => simp
    | true => simp [Finset.sum_ite_eq, inside value]

/-- Buckets of the merged histogram, added up. -/
theorem Metrics.sum_histogram {metrics : Metrics} (complete : metrics.Complete) :
    (metrics.snapshot.histogram.map UInt64.toNat).sum =
      ∑ place ∈ Finset.range histogramBuckets, (metrics.merged.bucket place).toNat := by
  have whole : metrics.snapshot.histogram.length = histogramBuckets :=
    Metrics.complete_merged complete
  rw [sum_eq_sum_range _ ((List.length_map _).trans whole)]
  apply Finset.sum_congr rfl
  intro place _
  rw [Shard.bucket, List.getD_eq_getElem?_getD, List.getD_eq_getElem?_getD, List.getElem?_map]
  change ((metrics.merged.histogram[place]?).map UInt64.toNat).getD 0 = _
  cases metrics.merged.histogram[place]? <;> rfl

end DnsResponder
