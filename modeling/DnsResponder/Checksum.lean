import DnsResponder.Address.Basic
import DnsResponder.Refusal

namespace DnsResponder
namespace Checksum

/-!
# Internet checksums

A checksum is the complement of the one's-complement sum of 16-bit words.  Words are added into a
32-bit accumulator and its carries are folded back at the end.  The ceilings on the sizes keep the
accumulator from overflowing: a header or datagram above its ceiling has no checksum here, instead
of one over a part of it.
-/

/-- The largest IPv4 header: its size is a 4-bit count of 32-bit words. -/
def maxIpv4HeaderSize : Nat := 60

/-- The largest UDP datagram, header included, that a checksum is computed over. -/
def maxDatagramSize : Nat := 1480

/-- How often carries are folded back at most. -/
def maxFolds : Nat := 4

/-- Offset of the checksum field in an IPv4 header. -/
def ipv4FieldOffset : Nat := 10

def udpProtocol : UInt32 := 17

/-- Add the words of `octets` to a sum.  An odd last octet is the high half of a word. -/
def addWords (sum : UInt32) : Bytes → UInt32
  | high :: low :: rest => addWords (sum + (Bytes.word high low).toUInt32) rest
  | [high] => sum + (Bytes.word high 0).toUInt32
  | [] => sum

/-- Fold the carries above 16 bits back into the sum, at most `rounds` times. -/
def foldCarries : (rounds : Nat) → UInt32 → UInt32
  | 0, sum => sum
  | rounds + 1, sum =>
    if sum >>> 16 = 0 then sum else foldCarries rounds ((sum &&& (0xFFFF : UInt32)) + sum >>> 16)

/-- A sum folded to 16 bits. -/
def fold (sum : UInt32) : UInt16 :=
  (foldCarries maxFolds sum).toUInt16

/-- The checksum of an IPv4 header, whose own field counts as zero.  There is none for headers
outside 20 to 60 octets. -/
def ipv4Header (header : Bytes) : Option UInt16 :=
  if header.length < 20 ∨ maxIpv4HeaderSize < header.length then none
  else
    let front := addWords 0 (header.take ipv4FieldOffset)
    some (~~~ fold (addWords front (header.drop (ipv4FieldOffset + 2))))

/-- The checksum of an IPv4 header, with the octets on both sides of its field looked up. -/
def checkedIpv4Header (header : Bytes) : Except Stop (Option UInt16) :=
  if header.length < 20 ∨ maxIpv4HeaderSize < header.length then .ok none
  else do
    let front ← Stop.require (header.slice? 0 ipv4FieldOffset)
    let backSize ← Stop.difference header.length (ipv4FieldOffset + 2)
    let back ← Stop.require (header.slice? (ipv4FieldOffset + 2) backSize)
    return some (~~~ fold (addWords (addWords 0 front) back))

/-- A header with a checksum has octets on both sides of the field. -/
theorem checkedIpv4Header_eq (header : Bytes) :
    checkedIpv4Header header = .ok (ipv4Header header) := by
  rw [checkedIpv4Header, ipv4Header]
  split
  · rfl
  · next sized =>
    have enough : 20 ≤ header.length := Nat.le_of_not_lt fun short => sized (.inl short)
    have front : header.slice? 0 ipv4FieldOffset = some (header.take ipv4FieldOffset) :=
      Bytes.slice?_of_le (Nat.le_trans (by decide) enough)
    have around : ipv4FieldOffset + 2 ≤ header.length := Nat.le_trans (by decide) enough
    have back : header.slice? (ipv4FieldOffset + 2) (header.length - (ipv4FieldOffset + 2)) =
        some (header.drop (ipv4FieldOffset + 2)) := by
      rw [Bytes.slice?_of_le (Nat.le_of_eq (Nat.add_sub_cancel' around)), ← List.length_drop,
        List.take_length]
    simp only [Stop.difference, if_pos around, front, back, Stop.require, bind, Except.bind]
    rfl

/-- A UDP checksum as sent.  Zero on the wire means that there is none, so a computed zero is sent as
its other representation, all ones. -/
def finishUdp (sum : UInt32) : UInt16 :=
  let checksum := ~~~ fold sum
  if checksum = 0 then 0xFFFF else checksum

/-- The checksum of a UDP datagram whose own field is zero, under the pseudo-header of the two
addresses, the datagram's size and the protocol.  There is none above the ceiling. -/
def udp (source destination datagram : Bytes) : Option UInt16 :=
  if maxDatagramSize < datagram.length then none
  else
    let addresses := addWords (addWords 0 source) destination
    let pseudoHeader := addresses + UInt32.ofNat datagram.length + udpProtocol
    some (finishUdp (addWords pseudoHeader datagram))

/-- The checksum of a UDP datagram between IPv4 addresses. -/
def udpV4 (source destination : BitVec 32) (datagram : Bytes) : Option UInt16 :=
  udp (Address.octetsV4 source) (Address.octetsV4 destination) datagram

/-- The checksum of a UDP datagram between IPv6 addresses. -/
def udpV6 (source destination : BitVec 128) (datagram : Bytes) : Option UInt16 :=
  udp (Address.octetsV6 source) (Address.octetsV6 destination) datagram

end Checksum
end DnsResponder
