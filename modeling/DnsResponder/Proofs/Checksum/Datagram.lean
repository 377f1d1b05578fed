import DnsResponder.Packet.Layout
import DnsResponder.Proofs.Checksum.Verifier

namespace DnsResponder

/-!
# What the checksum of a datagram covers

The checksum of a datagram covers more than the datagram: the addresses between which it travels,
its size and its protocol.  They are laid out as a pseudo-header that is never sent.  IPv4 and IPv6
lay it out differently and in another order, yet it has the same sum in both, and the checksum is
computed from that sum without the layout.

A checksum that comes out as zero is sent as all ones, which is the other word for the same sum.  So
no checksum is zero, and the one that was exchanged for zero verifies like any other.
-/

/-! ## The pseudo-header -/

/-- The size and the protocol of a datagram, laid out as each family has them. -/
def Engine.sizeAndProtocol (family : Family) (size : Nat) : Bytes :=
  match family with
  | .v4 => [0, Packet.protocolUdp] ++ Bytes.ofNat 2 size
  | .v6 => Bytes.ofNat 4 size ++ [0, 0, 0, Packet.protocolUdp]

namespace Checksum

open Engine (sizeAndProtocol)

theorem addressSize_even (family : Family) : family.addressSize % 2 = 0 := by
  cases family <;> rfl

theorem length_sizeAndProtocol (family : Family) (size : Nat) :
    (sizeAndProtocol family size).length % 2 = 0 := by
  cases family <;>
    simp only [sizeAndProtocol, List.length_append, Bytes.length_ofNat, List.length_cons,
      List.length_nil]

theorem total_sizeAndProtocol (family : Family) {size : Nat} (fits : size < 65536) :
    total (sizeAndProtocol family size) = size + 17 := by
  have number : (UInt16.ofNat size).toNat = size := by
    rw [UInt16.toNat_ofNat', Nat.mod_eq_of_lt fits]
  have word : Bytes.ofNat 2 size = Bytes.ofWord (UInt16.ofNat size) := by
    rw [Bytes.ofWord, number]
  cases family with
  | v4 =>
    have last := total_ofWord_append (UInt16.ofNat size) []
    rw [List.append_nil, number] at last
    rw [sizeAndProtocol, word, total_append _ _ rfl, last]
    exact Nat.add_comm ..
  | v6 =>
    have high : size / 256 / 256 = 0 := by omega
    have four : Bytes.ofNat 4 size = [0, 0] ++ Bytes.ofNat 2 size := by
      simp only [Bytes.ofNat, high, Nat.zero_div, List.nil_append, List.cons_append]
      rfl
    rw [sizeAndProtocol, four, word, List.append_assoc, total_append _ _ rfl,
      total_ofWord_append, number]
    exact Nat.zero_add _

/-- A datagram whose checksum was computed while its field was zero adds up to all ones under its
pseudo-header, once the checksum stands in the field. -/
theorem onesSum_of_udp {family : Family} {source destination front back : Bytes} {sum : UInt16}
    (ends : source.length = family.addressSize ∧ destination.length = family.addressSize)
    (even : front.length % 2 = 0)
    (found : udp source destination (front ++ (Bytes.ofWord 0 ++ back)) = some sum) :
    sum ≠ 0 ∧ onesSum (source ++ (destination ++
      sizeAndProtocol family (front.length + 2 + back.length)) ++
        (front ++ (Bytes.ofWord sum ++ back))) = 0xFFFF := by
  have addressEven := addressSize_even family
  have short : source.length + destination.length ≤ 32 := by
    rw [ends.1, ends.2]
    cases family <;> decide
  have below : front.length + 2 + back.length ≤ maxDatagramSize := by
    rw [udp] at found
    split at found
    · cases found
    · next below =>
      simp only [List.length_append, Bytes.length_ofWord] at below
      omega
  have fits : front.length + 2 + back.length < 65536 := Nat.lt_of_le_of_lt below (by decide)
  have rest := length_sizeAndProtocol family (front.length + 2 + back.length)
  rcases of_udp short even found with ⟨nonzero, multiple⟩
  refine ⟨nonzero, (standsFor_onesSum _).eq_allOnes ?_ ?_⟩ <;>
    rw [total_append _ _ (by simp only [List.length_append, ends.1, ends.2]; omega),
      total_append _ _ (by rw [ends.1, addressEven]),
      total_append _ _ (by rw [ends.2, addressEven]), total_sizeAndProtocol family fits]
  · omega
  · rw [← multiple]
    congr 1
    omega

/-! ## The accumulator -/

/-- A datagram is added up without losing a carry: the two addresses, its size and the protocol in
either order, and its own words. -/
structure AddsUp (source destination datagram : Bytes) : Prop where
  addsSource : NeverWraps 0 source
  addsDestination : NeverWraps (addWords 0 source) destination
  addsSizeAndProtocol : (addWords (addWords 0 source) destination).toNat + datagram.length
    + udpProtocol.toNat < 2 ^ 32
  addsDatagram : NeverWraps (addWords (addWords 0 source) destination
    + UInt32.ofNat datagram.length + udpProtocol) datagram

theorem addsUp_of_le {source destination datagram : Bytes}
    (short : source.length + destination.length ≤ 32)
    (below : datagram.length ≤ maxDatagramSize) : AddsUp source destination datagram := by
  have sourceLe := total_le source
  have destinationLe := total_le destination
  have datagramLe := total_le datagram
  have none : (0 : UInt32).toNat = 0 := rfl
  have first : (0 : UInt32).toNat + total source < 2 ^ 32 := by omega
  have ceiling : maxDatagramSize = 1480 := rfl
  refine ⟨neverWraps_of_fits _ _ first, neverWraps_of_fits _ _ ?_, ?_, neverWraps_of_fits _ _ ?_⟩
  · rw [toNat_addWords _ _ first]
    omega
  · have protocol : udpProtocol.toNat = 17 := rfl
    rw [toNat_addressSum short, protocol]
    omega
  · rw [toNat_pseudoHeaderSum short below]
    omega

/-! ## Datagrams between two addresses -/

/-- The addresses between which a datagram travels, which are of one family. -/
inductive Ends
  | v4 (source destination : BitVec 32)
  | v6 (source destination : BitVec 128)

namespace Ends

def family : Ends → Family
  | .v4 .. => .v4
  | .v6 .. => .v6

def source : Ends → Bytes
  | .v4 source _ => Address.octetsV4 source
  | .v6 source _ => Address.octetsV6 source

def destination : Ends → Bytes
  | .v4 _ destination => Address.octetsV4 destination
  | .v6 _ destination => Address.octetsV6 destination

/-- The checksum of a datagram, by the function of its family. -/
def checksum (ends : Ends) (datagram : Bytes) : Option UInt16 :=
  match ends with
  | .v4 source destination => udpV4 source destination datagram
  | .v6 source destination => udpV6 source destination datagram

/-- The pseudo-header of a datagram of a size. -/
def pseudoHeader (ends : Ends) (size : Nat) : Bytes :=
  ends.source ++ (ends.destination ++ sizeAndProtocol ends.family size)

variable (ends : Ends) (datagram : Bytes)

theorem checksum_eq : ends.checksum datagram = udp ends.source ends.destination datagram := by
  cases ends <;> rfl

theorem length_ends : ends.source.length = ends.family.addressSize
    ∧ ends.destination.length = ends.family.addressSize := by
  cases ends <;> exact ⟨Bytes.length_ofNat .., Bytes.length_ofNat ..⟩

theorem isSome_checksum : (ends.checksum datagram).isSome ↔ datagram.length ≤ 1480 := by
  rw [checksum_eq, udp, maxDatagramSize]
  split
  · next above => exact iff_of_false Bool.false_ne_true (Nat.not_le_of_lt above)
  · next below => exact iff_of_true rfl (Nat.le_of_not_lt below)

variable {ends datagram} {sum : UInt16}

theorem ne_zero_of_checksum (found : ends.checksum datagram = some sum) : sum ≠ 0 := by
  rw [checksum_eq, udp] at found
  split at found
  · cases found
  · rw [← Option.some.inj found]
    exact (finishUdp_complements _).1

theorem addsUp_of_checksum (found : ends.checksum datagram = some sum) :
    AddsUp ends.source ends.destination datagram := by
  have below := (ends.isSome_checksum datagram).mp (Option.isSome_of_mem found)
  refine addsUp_of_le ?_ below
  rw [ends.length_ends.1, ends.length_ends.2]
  cases ends.family <;> decide

/-- Written into its field, which was zero, the checksum makes the datagram and its pseudo-header add
up to all ones. -/
theorem onesSum_of_patch (found : ends.checksum datagram = some sum)
    (zero : datagram.slice? 6 2 = some [0, 0]) :
    ∃ written, datagram.patch? 6 (Bytes.ofWord sum) = some written
      ∧ onesSum (ends.pseudoHeader datagram.length ++ written) = 0xFFFF := by
  rcases Bytes.split_of_slice? zero with ⟨front, back, rfl, place⟩
  refine ⟨_, Bytes.patch?_of_split rfl place rfl, ?_⟩
  have size : (front ++ ([0, 0] ++ back)).length = front.length + 2 + back.length := by
    simp only [List.length_append, List.length_cons, List.length_nil]
    omega
  rw [checksum_eq] at found
  rw [pseudoHeader, size]
  exact (onesSum_of_udp ends.length_ends (by rw [place]) found).2

end Ends

/-- A datagram between two addresses has a checksum iff it is not above the ceiling.  The checksum is
never zero, no addition on the way to it loses a carry, and if its field was zero while it was
computed, then any verifier that finds it there comes to all ones over pseudo-header and datagram. -/
theorem datagram_checksum_verifies (ends : Ends) (datagram : Bytes) :
    ((ends.checksum datagram).isSome ↔ datagram.length ≤ 1480)
    ∧ ∀ sum, ends.checksum datagram = some sum →
        sum ≠ 0
        ∧ AddsUp ends.source ends.destination datagram
        ∧ (datagram.slice? 6 2 = some [0, 0] →
          ∃ written, datagram.patch? 6 (Bytes.ofWord sum) = some written
            ∧ verifierSum (ends.pseudoHeader datagram.length ++ written) = 0xFFFF) := by
  refine ⟨ends.isSome_checksum datagram, fun sum found => ?_⟩
  refine ⟨Ends.ne_zero_of_checksum found, Ends.addsUp_of_checksum found, fun zero => ?_⟩
  rcases Ends.onesSum_of_patch found zero with ⟨written, patched, ones⟩
  refine ⟨written, patched, ?_⟩
  rw [verifierSum_eq, ones]
  rfl

/-- Two addresses on one link. -/
def linkEnds : Ends :=
  .v6 0xFE800000000000000000000000000001 0xFE800000000000000000000000000002

/-- A datagram with an odd number of octets, whose words make a multiple of 65535 with those of its
pseudo-header. -/
def balancedDatagram : Bytes :=
  [0x30, 0x39, 0, 0x35, 0, 11, 0, 0, 0xCB, 0x65, 7]

/-- Its checksum comes out as zero, is sent as all ones, and verifies. -/
theorem balancedDatagram_verifies :
    linkEnds.checksum balancedDatagram = some 0xFFFF ∧
      ∃ written, balancedDatagram.patch? 6 [0xFF, 0xFF] = some written
        ∧ verifierSum (linkEnds.pseudoHeader 11 ++ written) = 0xFFFF := by
  have found : linkEnds.checksum balancedDatagram = some 0xFFFF := by decide
  rcases (datagram_checksum_verifies linkEnds balancedDatagram).2 0xFFFF found with
    ⟨-, -, verifies⟩
  exact ⟨found, verifies (by decide)⟩

end Checksum
end DnsResponder
