import DnsResponder.Proofs.Checksum

namespace DnsResponder
namespace Checksum

/-!
# Sums and their folding lose nothing

A sum is taken in 32 bits, and its carries are folded back at the end.  Neither step loses anything
that matters.  As long as the sum fits, adding the words is adding octets with their weights, where
an octet at an even place is the high half of a word, whether or not a low half follows it.  Folding
keeps the remainder by 65535 and tells zero from everything else; it is done when its rounds are used
up, so that cutting what is left to 16 bits cuts nothing off.
-/

/-- What octets come to when those at even places count 256 times. -/
def weighted (octets : Bytes) : Nat :=
  (octets.zipIdx.map fun (octet, place) =>
    if place % 2 = 0 then 256 * octet.toNat else octet.toNat).sum

theorem toNat_word (high low : UInt8) :
    (Bytes.word high low).toNat = 256 * high.toNat + low.toNat := by
  have smallHigh : high.toNat < 256 := high.toNat_lt
  have smallLow : low.toNat < 256 := low.toNat_lt
  rw [Bytes.word, UInt16.toNat_ofNat_of_lt' (by rw [UInt16.size]; omega), Nat.mul_comm]

/-- The words of octets that begin at an even place come to the weighted octets. -/
theorem sum_weights {start : Nat} (even : start % 2 = 0) (octets : Bytes) :
    ((octets.zipIdx start).map fun (octet, place) =>
      if place % 2 = 0 then 256 * octet.toNat else octet.toNat).sum = total octets := by
  induction octets using words.induct generalizing start with
  | case1 high low rest ih =>
    have odd : ¬ (start + 1) % 2 = 0 := by omega
    have again : (start + 1 + 1) % 2 = 0 := by omega
    rw [List.zipIdx_cons, List.zipIdx_cons, List.map_cons, List.map_cons, List.sum_cons,
      List.sum_cons, ih again, total_cons_cons, toNat_word]
    dsimp only
    rw [if_pos even, if_neg odd, Nat.add_assoc]
  | case2 high =>
    rw [List.zipIdx_singleton, List.map_singleton, List.sum_singleton, total, words,
      List.map_singleton, List.sum_singleton, toNat_word]
    exact if_pos even
  | case3 => rfl

theorem total_eq_weighted (octets : Bytes) : total octets = weighted octets :=
  (sum_weights rfl octets).symm

/-- Octets are added in two pieces as they are in one, when the first piece ends with a word. -/
theorem addWords_append (sum : UInt32) (front back : Bytes) (even : front.length % 2 = 0) :
    addWords (addWords sum front) back = addWords sum (front ++ back) := by
  induction sum, front using addWords.induct with
  | case1 sum high low rest ih =>
    rw [List.length_cons, List.length_cons, Nat.add_assoc, Nat.add_mod_right] at even
    rw [List.cons_append, List.cons_append, addWords, addWords, ih even]
  | case2 sum high => cases even
  | case3 sum => rfl

/-- The rounds of folding leave a word for every sum, which is equal to the sum modulo 65535, and zero
for no sum but zero.  A sum that fits 32 bits is its start and the weighted octets.  Octets whose first
piece ends with a word can be added piece by piece. -/
theorem adds_up_and_folds :
    (∀ sum : UInt32,
      (foldCarries maxFolds sum).toNat < 2 ^ 16
      ∧ (fold sum).toNat = (foldCarries maxFolds sum).toNat
      ∧ (fold sum).toNat % 65535 = sum.toNat % 65535
      ∧ (fold sum = 0 ↔ sum = 0))
    ∧ (∀ sum octets, sum.toNat + weighted octets < 2 ^ 32 →
      (addWords sum octets).toNat = sum.toNat + weighted octets)
    ∧ ∀ sum front back, front.length % 2 = 0 →
      addWords (addWords sum front) back = addWords sum (front ++ back) := by
  refine ⟨fun sum => ?_, fun sum octets => ?_, addWords_append⟩
  · have stands := standsFor_fold sum
    refine ⟨foldCarries_lt 2 sum, toNat_fold sum, stands.mod_eq, ?_⟩
    rw [← UInt16.toNat_inj, ← UInt32.toNat_inj]
    exact stands.zero_iff
  · rw [← total_eq_weighted]
    exact toNat_addWords sum octets

/-- A sum near the limit takes three more octets, in one piece or in two. -/
theorem three_octets_below_limit :
    (0xFFFD0000 : UInt32).toNat + weighted [0xFF, 0xFF, 0x01] < 2 ^ 32
    ∧ (addWords 0xFFFD0000 [0xFF, 0xFF, 0x01]).toNat = 0xFFFE00FF
    ∧ addWords (addWords 0xFFFD0000 [0xFF, 0xFF]) [0x01] =
      addWords 0xFFFD0000 [0xFF, 0xFF, 0x01] := by
  have fits : (0xFFFD0000 : UInt32).toNat + weighted [0xFF, 0xFF, 0x01] < 2 ^ 32 := by decide
  rcases adds_up_and_folds with ⟨-, sums, pieces⟩
  exact ⟨fits, (sums _ _ fits).trans (by decide), pieces _ _ _ rfl⟩

end Checksum
end DnsResponder
