import DnsResponder.Proofs.Checksum

namespace DnsResponder
namespace Checksum

/-!
# Checksums before an independent verifier

Whoever checks a header need not add it up as its sender did.  The verifier here adds the words as
numbers without bound, and brings the carries around only when all are added.  Nothing of it is
cut to 32 bits, and it shares no step with the folding of the sender.  It comes to the
one's-complement sum all the same, because only one word stands for the plain sum.

The sender, too, must lose no carry.  `NeverWraps` says so of each single addition, in the order in
which the words are added.  It is not read off the result, where two lost carries might go
unnoticed.
-/

/-! ## The verifier -/

/-- A number with its carries brought around, onto its low 16 bits, until it is a word. -/
def carryAround (number : Nat) : Nat :=
  if number < 65536 then number else carryAround (number % 65536 + number / 65536)
termination_by number
decreasing_by omega

/-- The sum of octets as a verifier takes it, over numbers without bound. -/
def verifierSum (octets : Bytes) : Nat :=
  carryAround (total octets)

theorem carryAround_keeps (number : Nat) :
    carryAround number < 65536 ∧ carryAround number % 65535 = number % 65535
      ∧ (carryAround number = 0 ↔ number = 0) := by
  induction number using carryAround.induct with
  | case1 number small =>
    rw [carryAround, if_pos small]
    exact ⟨small, rfl, Iff.rfl⟩
  | case2 number large ih =>
    rw [carryAround, if_neg large]
    rcases ih with ⟨word, same, zero⟩
    exact ⟨word, by omega, by omega⟩

theorem StandsFor.carryAround_eq {word : UInt16} {number : Nat} (stands : StandsFor word number) :
    carryAround number = word.toNat := by
  have small : word.toNat < 65536 := word.toNat_lt
  have same := stands.mod_eq
  have zero := stands.zero_iff
  rcases carryAround_keeps number with ⟨fits, carried, none⟩
  omega

/-- Carrying around at the end comes to the same as carrying around after each word. -/
theorem verifierSum_eq (octets : Bytes) : verifierSum octets = (onesSum octets).toNat :=
  (standsFor_onesSum octets).carryAround_eq

/-! ## Additions in 32 bits -/

/-- Adding the words of octets to a sum, none of the additions carries out of 32 bits. -/
def NeverWraps (sum : UInt32) : Bytes → Prop
  | high :: low :: rest =>
    sum.toNat + (Bytes.word high low).toNat < 2 ^ 32
      ∧ NeverWraps (sum + (Bytes.word high low).toUInt32) rest
  | [high] => sum.toNat + (Bytes.word high 0).toNat < 2 ^ 32
  | [] => True

theorem neverWraps_of_fits (sum : UInt32) (octets : Bytes)
    (fits : sum.toNat + total octets < 2 ^ 32) : NeverWraps sum octets := by
  induction sum, octets using addWords.induct with
  | case1 sum high low rest ih =>
    rw [total_cons_cons] at fits
    have here : sum.toNat + (Bytes.word high low).toNat < 2 ^ 32 := by omega
    exact ⟨here, ih (by rw [toNat_add_word here]; omega)⟩
  | case2 sum high =>
    rw [total, words, List.map_singleton, List.sum_singleton] at fits
    exact fits
  | case3 sum => trivial

/-! ## Headers -/

variable {header : Bytes} {sum : UInt16}

theorem isSome_ipv4Header (header : Bytes) :
    (ipv4Header header).isSome ↔ 20 ≤ header.length ∧ header.length ≤ 60 := by
  rw [ipv4Header, maxIpv4HeaderSize]
  split
  · next outside => exact iff_of_false Bool.false_ne_true (by omega)
  · next within => exact iff_of_true rfl (by omega)

/-- The field of the checksum itself is not looked at. -/
theorem ipv4Header_congr {other : Bytes} (size : other.length = header.length)
    (same : ∀ place, place ≠ 10 → place ≠ 11 → other[place]? = header[place]?) :
    ipv4Header other = ipv4Header header := by
  have front : other.take ipv4FieldOffset = header.take ipv4FieldOffset := by
    apply List.ext_getElem?
    intro place
    rw [List.getElem?_take, List.getElem?_take]
    split
    · next before =>
      rw [ipv4FieldOffset] at before
      exact same place (by omega) (by omega)
    · rfl
  have back : other.drop (ipv4FieldOffset + 2) = header.drop (ipv4FieldOffset + 2) := by
    apply List.ext_getElem?
    intro place
    rw [List.getElem?_drop, List.getElem?_drop, ipv4FieldOffset]
    exact same _ (by omega) (by omega)
  rw [ipv4Header, ipv4Header, size, front, back]

theorem neverWraps_ipv4Header (found : ipv4Header header = some sum) :
    NeverWraps 0 (header.take 10) ∧ NeverWraps (addWords 0 (header.take 10)) (header.drop 12) := by
  have within := (isSome_ipv4Header header).mp (Option.isSome_of_mem found)
  have front := total_le (header.take 10)
  have back := total_le (header.drop 12)
  have none : (0 : UInt32).toNat = 0 := rfl
  rw [List.length_take] at front
  rw [List.length_drop] at back
  have first : (0 : UInt32).toNat + total (header.take 10) < 2 ^ 32 := by omega
  refine ⟨neverWraps_of_fits _ _ first, neverWraps_of_fits _ _ ?_⟩
  rw [toNat_addWords _ _ first]
  omega

/-- Written into its field, the checksum makes the header add up to all ones. -/
theorem onesSum_of_patch (found : ipv4Header header = some sum) :
    ∃ written, header.patch? 10 (Bytes.ofWord sum) = some written ∧ onesSum written = 0xFFFF := by
  have within := (isSome_ipv4Header header).mp (Option.isSome_of_mem found)
  rcases Bytes.exists_part 10 (header.length - 12 + 2) header (by omega) with
    ⟨front, rest, rfl, place, long⟩
  rcases Bytes.exists_word _ rest long with ⟨old, back, rfl, -⟩
  exact ⟨_, Bytes.patch?_of_split rfl place rfl, onesSum_of_ipv4Header place found⟩

/-- An IPv4 header has a checksum iff its size is one that headers can have.  The checksum depends on
nothing but the octets outside its own field; no addition on the way to it loses a carry; and any
verifier that finds it in its field comes to all ones. -/
theorem header_checksum_verifies (header : Bytes) :
    ((ipv4Header header).isSome ↔ 20 ≤ header.length ∧ header.length ≤ 60)
    ∧ (∀ other : Bytes, other.length = header.length →
        (∀ place, place ≠ 10 → place ≠ 11 → other[place]? = header[place]?) →
        ipv4Header other = ipv4Header header)
    ∧ ∀ sum, ipv4Header header = some sum →
        NeverWraps 0 (header.take 10)
        ∧ NeverWraps (addWords 0 (header.take 10)) (header.drop 12)
        ∧ ∃ written, header.patch? 10 (Bytes.ofWord sum) = some written
          ∧ verifierSum written = 0xFFFF := by
  refine ⟨isSome_ipv4Header header, fun other size same => ipv4Header_congr size same, ?_⟩
  intro sum found
  rcases neverWraps_ipv4Header found with ⟨front, back⟩
  rcases onesSum_of_patch found with ⟨written, patched, ones⟩
  refine ⟨front, back, written, patched, ?_⟩
  rw [verifierSum_eq, ones]
  rfl

/-- A header of 21 octets, whose words outside the checksum's field add up to three times 65535. -/
def oddHeader : Bytes :=
  [0x45, 0, 0, 0x73, 0, 0, 0x40, 0, 0x40, 0x11, 0xDE, 0xAD, 0xC0, 0xA8, 0, 1, 0xC0, 0xA8, 1, 0x28,
    0xB8]

/-- Its checksum is zero, and stands in it as such. -/
theorem oddHeader_verifies :
    ipv4Header oddHeader = some 0 ∧
      ∃ written, oddHeader.patch? 10 [0, 0] = some written ∧ verifierSum written = 0xFFFF := by
  have found : ipv4Header oddHeader = some 0 := by decide
  rcases (header_checksum_verifies oddHeader).2.2 0 found with ⟨-, -, written, patched, ones⟩
  exact ⟨found, written, patched, ones⟩

end Checksum
end DnsResponder
