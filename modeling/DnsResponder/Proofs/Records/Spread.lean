import DnsResponder.Records
import Mathlib.Data.Set.Operations
import Mathlib.Order.Interval.Set.Defs
import Mathlib.Order.Nat

namespace DnsResponder

/-!
# The window of a spread time to live

A stored time of two or more has a window.  It begins at half of the stored time and has as many places
as this half counts, so it ends below the stored time.  The identifier of a query picks a place by its
remainder, and no identifier leads out of the window.  A window of up to 65536 places is covered
completely, because identifiers below its size are their own remainders.  Of a larger one the first
65536 places are.
-/

variable {ttl : UInt32} {queryId : UInt16} {spread : Bool} {half : Nat}

theorem effectiveTtl_of_unspread (unspread : spread = false ∨ ttl < 2) :
    effectiveTtl ttl queryId spread = ttl := by
  rw [effectiveTtl, if_pos]
  rcases unspread with rfl | small
  · rfl
  · rw [decide_eq_true small, Bool.or_true]

theorem effectiveTtl_of_spread (window : 2 ≤ ttl) :
    effectiveTtl ttl queryId true = queryId.toUInt32 % (ttl / 2) + ttl / 2 := by
  have large : ¬ ttl < 2 := UInt32.not_lt.mpr window
  rw [effectiveTtl, if_neg]
  simp only [large, Bool.not_true, decide_false, Bool.or_self, Bool.false_eq_true, not_false_eq_true]

/-- The place in the window and the start of the window come to a time that fits. -/
theorem toNat_effectiveTtl (window : 2 ≤ ttl) (queryId : UInt16) :
    (queryId.toUInt32 % (ttl / 2)).toNat + (ttl / 2).toNat < UInt32.size
    ∧ (effectiveTtl ttl queryId true).toNat =
      queryId.toNat % (ttl.toNat / 2) + ttl.toNat / 2 := by
  have fits : ttl.toNat < UInt32.size := ttl.toNat_lt
  have large : 2 ≤ ttl.toNat := UInt32.le_iff_toNat_le.mp window
  have half : (ttl / 2).toNat = ttl.toNat / 2 := UInt32.toNat_div ttl 2
  have place : (queryId.toUInt32 % (ttl / 2)).toNat = queryId.toNat % (ttl.toNat / 2) := by
    rw [UInt32.toNat_mod, UInt16.toNat_toUInt32, half]
  have inside : queryId.toNat % (ttl.toNat / 2) < ttl.toNat / 2 := Nat.mod_lt _ (by omega)
  have sum : (queryId.toUInt32 % (ttl / 2)).toNat + (ttl / 2).toNat < UInt32.size := by
    rw [place, half]
    omega
  refine ⟨sum, ?_⟩
  rw [effectiveTtl_of_spread window, UInt32.toNat_add, Nat.mod_eq_of_lt sum, place, half]

/-- The identifiers reach the places of a window from its start on, as many as there are of either. -/
theorem range_place (some : 0 < half) :
    (Set.range fun queryId : UInt16 => queryId.toNat % half + half) =
      Set.Icc half (half + min half 65536 - 1) := by
  apply Set.ext
  intro time
  rw [Set.mem_range, Set.mem_Icc]
  constructor
  · rintro ⟨queryId, rfl⟩
    have small : queryId.toNat < 65536 := queryId.toNat_lt
    have inside : queryId.toNat % half < half := Nat.mod_lt _ some
    have reached : queryId.toNat % half ≤ queryId.toNat := Nat.mod_le ..
    omega
  · rintro ⟨start, stop⟩
    have small : time - half < 65536 := by omega
    have inside : time - half < half := by omega
    refine ⟨UInt16.ofNat (time - half), ?_⟩
    rw [UInt16.toNat_ofNat_of_lt' small, Nat.mod_eq_of_lt inside, Nat.sub_add_cancel start]

/-- A time that is not to be spread, or has no window, is sent as it is stored.  Any other is divided
by half of itself, which is not zero, and moved to the upper half, which does not overflow; it is then
at least half of the stored time and below it.  Over all identifiers, the times sent are those of the
window from its start on, all of them or the first 65536. -/
theorem spreads_over_window (ttl : UInt32) (queryId : UInt16) (spread : Bool) :
    (spread = false ∨ ttl < 2 → effectiveTtl ttl queryId spread = ttl)
    ∧ (spread = true → 2 ≤ ttl →
      let half := ttl.toNat / 2
      let sent := effectiveTtl ttl queryId spread
      ttl / 2 ≠ 0
      ∧ (queryId.toUInt32 % (ttl / 2)).toNat + (ttl / 2).toNat < UInt32.size
      ∧ half ≤ sent.toNat ∧ sent.toNat ≤ ttl.toNat - 1
      ∧ (Set.range fun queryId : UInt16 => (effectiveTtl ttl queryId spread).toNat) =
        Set.Icc half (half + min half 65536 - 1)) := by
  refine ⟨effectiveTtl_of_unspread, ?_⟩
  rintro rfl window half sent
  have large : 2 ≤ ttl.toNat := UInt32.le_iff_toNat_le.mp window
  have some : 0 < half := by omega
  have inside : queryId.toNat % half < half := Nat.mod_lt _ some
  have fits := (toNat_effectiveTtl window queryId).1
  have placed : sent.toNat = queryId.toNat % half + half := (toNat_effectiveTtl window queryId).2
  have range : (fun queryId : UInt16 => (effectiveTtl ttl queryId true).toNat) =
      fun queryId => queryId.toNat % half + half :=
    funext fun queryId => (toNat_effectiveTtl window queryId).2
  have divisor : (ttl / 2).toNat = half := UInt32.toNat_div ttl 2
  refine ⟨?_, fits, ?_, ?_, ?_⟩
  · intro zero
    rw [zero] at divisor
    exact absurd divisor.symm (Nat.ne_of_gt some)
  · omega
  · omega
  · rw [range]
    exact range_place some

/-- The smallest window has one place, the largest more than there are identifiers. -/
theorem smallest_and_largest_window :
    (2 : UInt32) ≤ 3 ∧ (2 : UInt32) ≤ 0xFFFFFFFF
    ∧ (Set.range fun queryId : UInt16 => (effectiveTtl 3 queryId true).toNat) = Set.Icc 1 1
    ∧ (Set.range fun queryId : UInt16 => (effectiveTtl 0xFFFFFFFF queryId true).toNat) =
      Set.Icc 2147483647 2147549182 := by
  have small : (2 : UInt32) ≤ 3 := by decide
  have large : (2 : UInt32) ≤ 0xFFFFFFFF := by decide
  rcases (spreads_over_window 3 0 true).2 rfl small with ⟨-, -, -, -, one⟩
  rcases (spreads_over_window 0xFFFFFFFF 0 true).2 rfl large with ⟨-, -, -, -, many⟩
  exact ⟨small, large, one, many⟩

end DnsResponder
