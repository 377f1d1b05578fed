import DnsResponder.Text.Utf8
import Mathlib.Algebra.Group.Nat.Defs

namespace DnsResponder
namespace Text
namespace Utf8

/-!
# Zeros in octets that are shown

Octets that are no UTF-8 are shown all the same, with a mark for what is wrong in them.  Whether the
text that comes of it holds the zero character can be told from the octets: it does exactly when one
of them is zero.

A zero octet is never taken into a character that is pending, for what may follow in one lies above
127; it ends that character in a fault and stands for itself.  And no other octets come to the zero
character, since the ranges behind a first octet leave out the overlong forms.
-/

variable {octet : UInt8} {value owed low high number : Nat}

/-! ## Pending characters -/

/-- The octets that are still owed are none below 128 and, whichever they are, complete a character
other than the zero character. -/
def Fills : (owed value low high : Nat) → Prop
  | 0, value, _, _ => value ≠ 0 ∧ value.isValidChar
  | owed + 1, value, low, high =>
    128 ≤ low ∧ ∀ octet, low ≤ octet → octet ≤ high → Fills owed (value * 64 + (octet - 128)) 128 191

/-- A pending character comes to a character other than the zero character. -/
def Pending.Sound (pending : Pending) : Prop :=
  pending.owed ≠ 0 ∧ Fills pending.owed pending.value pending.low pending.high

/-- What a pending character can come to lies between what its least and its greatest octets come
to. -/
theorem fills_of_range (tail : 128 ≤ low)
    (sound : ∀ number, (value * 64 + (low - 128)) * 64 ^ owed ≤ number →
      number < (value * 64 + (high - 128) + 1) * 64 ^ owed → number ≠ 0 ∧ number.isValidChar) :
    Fills (owed + 1) value low high := by
  refine ⟨tail, fun octet above below => ?_⟩
  induction owed generalizing value low high octet with
  | zero =>
    rw [Nat.pow_zero] at sound
    exact sound _ (by omega) (by omega)
  | succ owed ih =>
    refine ⟨Nat.le_refl 128, fun next from128 to191 => ih (Nat.le_refl 128) ?_ next from128 to191⟩
    have unit : 64 ^ (owed + 1) = 64 * 64 ^ owed := Nat.pow_succ'
    rw [unit] at sound
    intro number least greatest
    apply sound number
    · calc
        (value * 64 + (low - 128)) * (64 * 64 ^ owed)
          = ((value * 64 + (low - 128)) * 64) * 64 ^ owed := (Nat.mul_assoc ..).symm
        _ ≤ ((value * 64 + (octet - 128)) * 64 + (128 - 128)) * 64 ^ owed :=
          Nat.mul_le_mul_right _ (by omega)
        _ ≤ number := least
    · calc
        number < ((value * 64 + (octet - 128)) * 64 + (191 - 128) + 1) * 64 ^ owed := greatest
        _ ≤ ((value * 64 + (high - 128) + 1) * 64) * 64 ^ owed :=
          Nat.mul_le_mul_right _ (by omega)
        _ = (value * 64 + (high - 128) + 1) * (64 * 64 ^ owed) := Nat.mul_assoc ..

theorem sound_of_range (tail : 128 ≤ low)
    (sound : ∀ number, (value * 64 + (low - 128)) * 64 ^ owed ≤ number →
      number < (value * 64 + (high - 128) + 1) * 64 ^ owed →
        number ≠ 0 ∧ (number < 55296 ∨ 57343 < number ∧ number < 1114112)) :
    Pending.Sound ⟨value, owed + 1, low, high⟩ :=
  ⟨Nat.succ_ne_zero owed, fills_of_range tail sound⟩

/-- The range behind each first octet leaves out zero and what is no character. -/
theorem sound_of_beginning {pending : Pending} (begun : beginning octet = .inr pending) :
    pending.Sound := by
  rw [beginning] at begun
  generalize octet.toNat = first at begun
  split at begun
  · cases begun
  split at begun
  · cases begun
  split at begun
  · rw [← Sum.inr.inj begun]
    exact sound_of_range (by decide) (by omega)
  split at begun
  · rw [← Sum.inr.inj begun]
    exact sound_of_range (by decide) (by omega)
  split at begun
  · rw [← Sum.inr.inj begun]
    exact sound_of_range (by decide) (by omega)
  split at begun
  · rw [← Sum.inr.inj begun]
    exact sound_of_range (by decide) (by omega)
  split at begun
  · rw [← Sum.inr.inj begun]
    exact sound_of_range (by decide) (by omega)
  split at begun
  · rw [← Sum.inr.inj begun]
    exact sound_of_range (by decide) (by omega)
  split at begun
  · rw [← Sum.inr.inj begun]
    exact sound_of_range (by decide) (by omega)
  · cases begun

theorem sound_start {pending : Pending} (left : (start octet).2 = some pending) :
    pending.Sound := by
  rw [start] at left
  cases begun : beginning octet with
  | inl piece =>
    rw [begun] at left
    cases left
  | inr first =>
    rw [begun] at left
    cases left
    exact sound_of_beginning begun

/-! ## The zero character -/

theorem ofNat_eq_zero_iff (valid : number.isValidChar) :
    Char.ofNat number = '\x00' ↔ number = 0 := by
  constructor
  · intro zero
    have same := congrArg Char.toNat zero
    rw [Char.ofNat, dif_pos valid] at same
    exact same
  · rintro rfl
    rfl

/-- No octet but a zero begins the zero character. -/
theorem beginning_zero_iff : beginning octet = .inl (some '\x00') ↔ octet = 0 := by
  constructor
  · intro begun
    rw [beginning] at begun
    split at begun
    · next one =>
      have valid : octet.toNat.isValidChar := .inl (by omega)
      have number := (ofNat_eq_zero_iff valid).mp (Option.some.inj (Sum.inl.inj begun))
      exact UInt8.toNat_inj.mp number
    · -- an octet above 127 begins a longer form or nothing
      exfalso
      revert begun
      repeat' split
      all_goals exact nofun
  · rintro rfl
    rfl

theorem zero_mem_start (octet : UInt8) : some '\x00' ∈ (start octet).1 ↔ octet = 0 := by
  rw [← beginning_zero_iff, start]
  cases beginning octet with
  | inl piece => rw [List.mem_singleton, Sum.inl.injEq, eq_comm]
  | inr pending => exact iff_of_false List.not_mem_nil nofun

/-- What an octet completes holds the zero character exactly when the octet is zero, and what it
leaves pending comes to another character. -/
theorem zero_mem_step {pending : Option Pending}
    (sound : ∀ owing, pending = some owing → owing.Sound) (octet : UInt8) :
    (some '\x00' ∈ (step pending octet).1 ↔ octet = 0)
      ∧ ∀ owing, (step pending octet).2 = some owing → owing.Sound := by
  cases pending with
  | none => exact ⟨zero_mem_start octet, fun owing left => sound_start left⟩
  | some owing =>
    rcases owing with ⟨value, owed, low, high⟩
    rcases sound _ rfl with ⟨some, fills⟩
    rw [step]
    cases owed with
    | zero => exact absurd rfl some
    | succ owed =>
      rcases fills with ⟨tail, fills⟩
      dsimp only at fills tail ⊢
      split
      · next taken =>
        have onward := fills octet.toNat taken.1 taken.2
        have nonzero : octet ≠ 0 := by
          rintro rfl
          rw [UInt8.toNat_zero] at taken
          omega
        cases owed with
        | zero =>
          rcases onward with ⟨large, valid⟩
          refine ⟨iff_of_false ?_ nonzero, nofun⟩
          intro zero
          have number := Option.some.inj (List.mem_singleton.mp zero)
          exact large ((ofNat_eq_zero_iff valid).mp number.symm)
        | succ owed =>
          rw [if_neg (by omega)]
          refine ⟨iff_of_false List.not_mem_nil nonzero, ?_⟩
          intro owing left
          rw [← Option.some.inj left]
          exact ⟨Nat.succ_ne_zero owed, onward⟩
      · refine ⟨?_, fun owing left => sound_start left⟩
        rw [List.mem_cons, zero_mem_start]
        exact or_iff_right nofun

theorem zero_mem_pieces {pending : Option Pending}
    (sound : ∀ owing, pending = some owing → owing.Sound) (octets : Bytes) :
    some '\x00' ∈ pieces pending octets ↔ 0 ∈ octets := by
  induction octets generalizing pending with
  | nil =>
    refine iff_of_false ?_ List.not_mem_nil
    rw [pieces]
    split
    · exact fun fault => absurd (List.mem_singleton.mp fault) nofun
    · exact List.not_mem_nil
  | cons octet rest ih =>
    rcases zero_mem_step sound octet with ⟨completed, left⟩
    have split : pieces pending (octet :: rest) =
        (step pending octet).1 ++ pieces (step pending octet).2 rest := rfl
    rw [split, List.mem_append, completed, ih left, List.mem_cons, eq_comm]

/-- Octets are shown with the zero character exactly when one of them is zero. -/
theorem zero_mem_decodeLossy_iff (octets : Bytes) :
    '\x00' ∈ (decodeLossy octets).toList ↔ 0 ∈ octets := by
  rw [← @zero_mem_pieces none nofun octets, decodeLossy, String.toList_ofList, List.mem_map]
  constructor
  · rintro ⟨piece, held, shown⟩
    cases piece with
    | none => exact absurd shown (by decide)
    | some char =>
      rw [Option.getD_some] at shown
      rwa [← shown]
  · intro held
    exact ⟨_, held, rfl⟩

end Utf8
end Text
end DnsResponder
