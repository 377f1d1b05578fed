import Mathlib.Algebra.GroupWithZero.Nat
import DnsResponder.Checksum
import DnsResponder.Proofs.Bytes

namespace DnsResponder
namespace Checksum

/-!
# What a checksum adds up to

In one's complement, words are added one after another, and a carry comes back in at the low end.  A
checksum is computed in another way: the words are added up in 32 bits, and the carries are folded
back at the end.  Both results stand for the plain sum of the words in the same sense.  They are
equal to it modulo 65535, and they are zero only when it is.

All ones is the only word that stands for the multiples of 65535 apart from zero.  So the words of a
header or datagram together with its checksum have the one's-complement sum of all ones, whatever
the octets are.
-/

/-! ## Sums of words -/

/-- The words of octets.  An odd last octet is the high half of a word. -/
def words : Bytes → List UInt16
  | high :: low :: rest => Bytes.word high low :: words rest
  | [high] => [Bytes.word high 0]
  | [] => []

/-- The plain sum of the words. -/
def total (octets : Bytes) : Nat :=
  ((words octets).map UInt16.toNat).sum

/-- Addition of words in which a carry comes back in at the low end. -/
def addEndAround (first second : UInt16) : UInt16 :=
  if first.toNat + second.toNat < 65536 then first + second else first + second + 1

/-- The one's-complement sum of the words. -/
def onesSum (octets : Bytes) : UInt16 :=
  (words octets).foldl addEndAround 0

theorem total_cons_cons (high low : UInt8) (rest : Bytes) :
    total (high :: low :: rest) = (Bytes.word high low).toNat + total rest := by
  rw [total, words, List.map_cons, List.sum_cons, total]

theorem total_ofWord_append (value : UInt16) (rest : Bytes) :
    total (Bytes.ofWord value ++ rest) = value.toNat + total rest := by
  rw [Bytes.ofWord_eq, List.cons_append, List.cons_append, List.nil_append, total_cons_cons,
    Bytes.word_octets]

/-- Octets can be summed in two pieces when the first one ends with a word. -/
theorem total_append (first second : Bytes) (even : first.length % 2 = 0) :
    total (first ++ second) = total first + total second := by
  induction first using words.induct with
  | case1 high low rest ih =>
    rw [List.length_cons, List.length_cons, Nat.add_assoc, Nat.add_mod_right] at even
    rw [List.cons_append, List.cons_append, total_cons_cons, total_cons_cons, ih even,
      Nat.add_assoc]
  | case2 high => cases even
  | case3 => exact (Nat.zero_add _).symm

theorem total_le (octets : Bytes) : total octets ≤ 65535 * octets.length := by
  induction octets using words.induct with
  | case1 high low rest ih =>
    have small : (Bytes.word high low).toNat < 65536 := UInt16.toNat_lt _
    rw [total_cons_cons, List.length_cons, List.length_cons]
    omega
  | case2 high =>
    have small : (Bytes.word high 0).toNat < 65536 := UInt16.toNat_lt _
    rw [total, words, List.map_singleton, List.sum_singleton, List.length_singleton]
    omega
  | case3 => exact Nat.le_refl 0

theorem toNat_add_word {sum : UInt32} {word : UInt16} (fits : sum.toNat + word.toNat < 2 ^ 32) :
    (sum + word.toUInt32).toNat = sum.toNat + word.toNat := by
  rw [UInt32.toNat_add, UInt16.toNat_toUInt32, Nat.mod_eq_of_lt fits]

/-- Adding words in 32 bits is adding them, as long as the result fits. -/
theorem toNat_addWords (sum : UInt32) (octets : Bytes) (fits : sum.toNat + total octets < 2 ^ 32) :
    (addWords sum octets).toNat = sum.toNat + total octets := by
  induction sum, octets using addWords.induct with
  | case1 sum high low rest ih =>
    rw [total_cons_cons] at fits ⊢
    have fits_word : sum.toNat + (Bytes.word high low).toNat < 2 ^ 32 := by omega
    have step := toNat_add_word fits_word
    rw [addWords, ih (by omega), step, Nat.add_assoc]
  | case2 sum high =>
    rw [total, words, List.map_singleton, List.sum_singleton] at fits ⊢
    exact toNat_add_word fits
  | case3 sum => rfl

/-! ## What words stand for -/

/-- A word stands for a number in one's complement: it equals the number modulo 65535, and is zero
only for zero. -/
structure StandsFor (word : UInt16) (number : Nat) : Prop where
  mod_eq : word.toNat % 65535 = number % 65535
  zero_iff : word.toNat = 0 ↔ number = 0

/-- All ones stands for the multiples of 65535 other than zero, and nothing else does. -/
theorem StandsFor.eq_allOnes {word : UInt16} {number : Nat} (stands : StandsFor word number)
    (some : number ≠ 0) (multiple : number % 65535 = 0) : word = 0xFFFF := by
  have small : word.toNat < 65536 := word.toNat_lt
  have nonzero : word.toNat ≠ 0 := fun zero => some (stands.zero_iff.mp zero)
  have same := stands.mod_eq
  apply UInt16.toNat_inj.mp
  show word.toNat = 65535
  omega

/-- A number and the complement of a word for it make a multiple of 65535 that is not zero. -/
theorem StandsFor.add_complement {word : UInt16} {number : Nat} (stands : StandsFor word number) :
    (number + (~~~word).toNat) % 65535 = 0 ∧ number + (~~~word).toNat ≠ 0 := by
  have small : word.toNat < 65536 := word.toNat_lt
  have same := stands.mod_eq
  have zero := stands.zero_iff
  have complement : (~~~word).toNat = 65535 - word.toNat := UInt16.toNat_not word
  omega

theorem toNat_addEndAround (first second : UInt16) :
    (addEndAround first second).toNat =
      if first.toNat + second.toNat < 65536 then first.toNat + second.toNat
      else first.toNat + second.toNat - 65535 := by
  have smallFirst : first.toNat < 65536 := first.toNat_lt
  have smallSecond : second.toNat < 65536 := second.toNat_lt
  rw [addEndAround]
  split
  · next fits => rw [UInt16.toNat_add, Nat.mod_eq_of_lt fits]
  · next carries =>
    have one : (1 : UInt16).toNat = 1 := rfl
    rw [UInt16.toNat_add, UInt16.toNat_add, one]
    omega

theorem StandsFor.addEndAround {word : UInt16} {number : Nat} (stands : StandsFor word number)
    (next : UInt16) : StandsFor (addEndAround word next) (number + next.toNat) := by
  have sum := toNat_addEndAround word next
  have same := stands.mod_eq
  have zero := stands.zero_iff
  by_cases fits : word.toNat + next.toNat < 65536
  · rw [if_pos fits] at sum
    exact ⟨by omega, by omega⟩
  · rw [if_neg fits] at sum
    exact ⟨by omega, by omega⟩

theorem standsFor_foldl (rest : List UInt16) {word : UInt16} {number : Nat}
    (stands : StandsFor word number) :
    StandsFor (rest.foldl Checksum.addEndAround word)
      (number + (rest.map UInt16.toNat).sum) := by
  induction rest generalizing word number with
  | nil => exact stands
  | cons next rest ih =>
    rw [List.foldl_cons, List.map_cons, List.sum_cons, ← Nat.add_assoc]
    exact ih (stands.addEndAround next)

/-- The one's-complement sum stands for the plain one. -/
theorem standsFor_onesSum (octets : Bytes) : StandsFor (onesSum octets) (total octets) := by
  have start : StandsFor 0 0 := ⟨rfl, Iff.rfl⟩
  have sum := standsFor_foldl (words octets) start
  rwa [Nat.zero_add] at sum

/-! ## Folding carries -/

theorem toNat_foldStep (sum : UInt32) :
    ((sum &&& (0xFFFF : UInt32)) + sum >>> 16).toNat =
      sum.toNat % 65536 + sum.toNat / 65536 := by
  have small : sum.toNat < 4294967296 := sum.toNat_lt
  have low : (sum &&& (0xFFFF : UInt32)).toNat = sum.toNat % 65536 := by
    rw [UInt32.toNat_and]
    exact Nat.and_two_pow_sub_one_eq_mod sum.toNat 16
  have high : (sum >>> 16).toNat = sum.toNat / 65536 := by
    rw [UInt32.toNat_shiftRight]
    exact Nat.shiftRight_eq_div_pow sum.toNat 16
  rw [UInt32.toNat_add, low, high]
  omega

theorem shifted_eq_zero_iff (sum : UInt32) : sum >>> 16 = 0 ↔ sum.toNat < 65536 := by
  have high : (sum >>> 16).toNat = sum.toNat / 65536 := by
    rw [UInt32.toNat_shiftRight]
    exact Nat.shiftRight_eq_div_pow sum.toNat 16
  rw [← UInt32.toNat_inj, high]
  show sum.toNat / 65536 = 0 ↔ _
  omega

/-- Folding keeps what a sum stands for, however often it is done. -/
theorem foldCarries_keeps (rounds : Nat) (sum : UInt32) :
    (foldCarries rounds sum).toNat % 65535 = sum.toNat % 65535
      ∧ ((foldCarries rounds sum).toNat = 0 ↔ sum.toNat = 0) := by
  induction rounds generalizing sum with
  | zero => exact ⟨rfl, Iff.rfl⟩
  | succ rounds ih =>
    rw [foldCarries]
    split
    · exact ⟨rfl, Iff.rfl⟩
    · have step := toNat_foldStep sum
      rcases ih ((sum &&& (0xFFFF : UInt32)) + sum >>> 16) with ⟨same, zero⟩
      rw [same, zero, step]
      omega

theorem foldCarries_of_lt (rounds : Nat) {sum : UInt32} (small : sum.toNat < 65536) :
    foldCarries rounds sum = sum := by
  cases rounds with
  | zero => rfl
  | succ rounds => rw [foldCarries, if_pos ((shifted_eq_zero_iff sum).mpr small)]

/-- Two rounds are enough: the first leaves at most one carry. -/
theorem foldCarries_lt (rounds : Nat) (sum : UInt32) :
    (foldCarries (rounds + 2) sum).toNat < 65536 := by
  have small : sum.toNat < 4294967296 := sum.toNat_lt
  by_cases done : sum.toNat < 65536
  · rw [foldCarries_of_lt _ done]
    exact done
  · obtain ⟨once, folded⟩ : ∃ once, once = (sum &&& (0xFFFF : UInt32)) + sum >>> 16 := ⟨_, rfl⟩
    have step : once.toNat = sum.toNat % 65536 + sum.toNat / 65536 := by
      rw [folded, toNat_foldStep]
    rw [foldCarries, if_neg (mt (shifted_eq_zero_iff sum).mp done), ← folded]
    by_cases doneOnce : once.toNat < 65536
    · rw [foldCarries_of_lt _ doneOnce]
      exact doneOnce
    · have again := toNat_foldStep once
      have last : ((once &&& (0xFFFF : UInt32)) + once >>> 16).toNat < 65536 := by omega
      rw [foldCarries, if_neg (mt (shifted_eq_zero_iff once).mp doneOnce), foldCarries_of_lt _ last]
      exact last

/-- A folded sum is all that is left when the rounds are used up. -/
theorem toNat_fold (sum : UInt32) : (fold sum).toNat = (foldCarries maxFolds sum).toNat := by
  have small : (foldCarries maxFolds sum).toNat < 65536 := foldCarries_lt 2 sum
  rw [fold, UInt32.toNat_toUInt16, Nat.mod_eq_of_lt small]

/-- A folded sum stands for the sum. -/
theorem standsFor_fold (sum : UInt32) : StandsFor (fold sum) sum.toNat := by
  have cut := toNat_fold sum
  rcases foldCarries_keeps maxFolds sum with ⟨same, zero⟩
  exact ⟨by rw [cut, same], by rw [cut, zero]⟩

/-! ## Sums with their checksum -/

section Sums

variable {front back : Bytes} {sum : UInt16}

/-- A header with its checksum adds up to all ones, whatever stood in the checksum's place before. -/
theorem onesSum_of_ipv4Header {old : UInt16} (place : front.length = ipv4FieldOffset)
    (found : ipv4Header (front ++ (Bytes.ofWord old ++ back)) = some sum) :
    onesSum (front ++ (Bytes.ofWord sum ++ back)) = 0xFFFF := by
  have even : front.length % 2 = 0 := by rw [place]; rfl
  have split := total_append front (Bytes.ofWord sum ++ back) even
  rw [total_ofWord_append] at split
  rw [ipv4Header] at found
  split at found
  · cases found
  · next bounds =>
    have short : front.length + (2 + back.length) ≤ 60 := by
      simp only [List.length_append, Bytes.length_ofWord, maxIpv4HeaderSize] at bounds
      omega
    have taken : (front ++ (Bytes.ofWord old ++ back)).take ipv4FieldOffset = front :=
      List.take_left' place
    have dropped : (front ++ (Bytes.ofWord old ++ back)).drop (ipv4FieldOffset + 2) = back := by
      rw [← List.drop_drop, List.drop_left' place]
      exact List.drop_left' (Bytes.length_ofWord old)
    rw [taken, dropped, Option.some.injEq] at found
    have frontLe := total_le front
    have backLe := total_le back
    have zero : (0 : UInt32).toNat = 0 := rfl
    have added : (addWords (addWords 0 front) back).toNat = total front + total back := by
      have first : (addWords 0 front).toNat = total front := by
        rw [toNat_addWords _ _ (by omega), zero, Nat.zero_add]
      rw [toNat_addWords _ _ (by omega), first]
    have complement := (standsFor_fold (addWords (addWords 0 front) back)).add_complement
    rw [found, added] at complement
    exact (standsFor_onesSum _).eq_allOnes (by omega) (by omega)

theorem finishUdp_complements (sum : UInt32) :
    finishUdp sum ≠ 0 ∧ (sum.toNat + (finishUdp sum).toNat) % 65535 = 0 := by
  rcases (standsFor_fold sum).add_complement with ⟨multiple, -⟩
  rw [finishUdp]
  split
  · next zero =>
    rw [zero] at multiple
    have ones : (0xFFFF : UInt16).toNat = 65535 := rfl
    have none : (0 : UInt16).toNat = 0 := rfl
    refine ⟨by decide, ?_⟩
    omega
  · next nonzero => exact ⟨nonzero, multiple⟩

theorem toNat_addressSum {source destination : Bytes}
    (addresses : source.length + destination.length ≤ 32) :
    (addWords (addWords 0 source) destination).toNat = total source + total destination := by
  have sourceLe := total_le source
  have destinationLe := total_le destination
  have none : (0 : UInt32).toNat = 0 := rfl
  have first : (addWords 0 source).toNat = total source := by
    rw [toNat_addWords _ _ (by omega), none, Nat.zero_add]
  rw [toNat_addWords _ _ (by omega), first]

/-- What stands in the accumulator before the datagram itself is added. -/
theorem toNat_pseudoHeaderSum {source destination : Bytes} {size : Nat}
    (addresses : source.length + destination.length ≤ 32) (below : size ≤ maxDatagramSize) :
    (addWords (addWords 0 source) destination + UInt32.ofNat size + udpProtocol).toNat =
      total source + total destination + size + 17 := by
  have sourceLe := total_le source
  have destinationLe := total_le destination
  rw [maxDatagramSize] at below
  have held : (UInt32.ofNat size).toNat = size := by
    rw [UInt32.toNat_ofNat', Nat.mod_eq_of_lt (by omega)]
  have protocol : udpProtocol.toNat = 17 := rfl
  rw [UInt32.toNat_add, UInt32.toNat_add, toNat_addressSum addresses, held, protocol]
  omega

/-- A datagram with its checksum complements the addresses and the other fields of the pseudo-header,
and its checksum is not zero. -/
theorem of_udp {source destination : Bytes} (addresses : source.length + destination.length ≤ 32)
    (even : front.length % 2 = 0)
    (found : udp source destination (front ++ (Bytes.ofWord 0 ++ back)) = some sum) :
    sum ≠ 0 ∧ (total source + total destination + (front.length + 2 + back.length) + 17
      + total (front ++ (Bytes.ofWord sum ++ back))) % 65535 = 0 := by
  have summed := total_append front (Bytes.ofWord sum ++ back) even
  have unsummed := total_append front (Bytes.ofWord 0 ++ back) even
  have zero : (0 : UInt16).toNat = 0 := rfl
  rw [total_ofWord_append] at summed unsummed
  have length : (front ++ (Bytes.ofWord 0 ++ back)).length = front.length + 2 + back.length := by
    rw [List.length_append, List.length_append, Bytes.length_ofWord, Nat.add_assoc]
  rw [udp, length] at found
  split at found
  · cases found
  · next below =>
    have pseudoHeader := toNat_pseudoHeaderSum addresses (Nat.le_of_not_lt below)
    rw [maxDatagramSize] at below
    rw [Option.some.injEq] at found
    have sourceLe := total_le source
    have destinationLe := total_le destination
    have frontLe := total_le front
    have backLe := total_le back
    rcases finishUdp_complements (addWords (addWords (addWords 0 source) destination +
      UInt32.ofNat (front.length + 2 + back.length) + udpProtocol)
      (front ++ (Bytes.ofWord 0 ++ back))) with ⟨nonzero, multiple⟩
    rw [found] at nonzero multiple
    rw [toNat_addWords _ _ (by omega), pseudoHeader, unsummed, zero] at multiple
    refine ⟨nonzero, ?_⟩
    rw [summed]
    omega

end Sums

end Checksum
end DnsResponder
