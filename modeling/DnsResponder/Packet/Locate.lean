import DnsResponder.Packet.Layout

namespace DnsResponder
namespace Packet

/-!
# Locating the headers of a query

A frame is read from its first octet down to its DNS message: an Ethernet header, up to two VLAN
tags, an IP header, at most one further IP header inside the first, and a UDP header addressed to
the DNS port.  Of the four ways to put one family into the other, IPv6 inside IPv4 is refused.

The order of the checks is visible: a frame with several faults is refused for the first one met on
the way down.  The size of an IPv4 header is taken apart only when it is known to be large enough, and
a size below zero would stop the way down without any refusal.
-/

/-- Offset of the ethertype in an Ethernet header. -/
def firstEthertypeOffset : Nat := 12

/-- The bits of the IPv4 fragment word that mark a fragment: the offset and "more fragments". -/
def fragmentMask : UInt16 := 0x3FFF

/-- An ethertype and where it stands. -/
structure Ethertype where
  value : UInt16
  offset : Nat
deriving DecidableEq

def Ethertype.isVlan (ethertype : Ethertype) : Bool :=
  ethertype.value == ethertypeVlan || ethertype.value == ethertypeServiceVlan

/-- Pass over at most `room` VLAN tags and answer the ethertype that follows them. -/
def skipTags (data : Bytes) :
    (room : Nat) → Ethertype → Cursor → Except Stop (Ethertype × Cursor)
  | 0, ethertype, cursor => .ok (ethertype, cursor)
  | room + 1, ethertype, cursor =>
    if ethertype.isVlan then do
      let (tag, cursor) ← Stop.ofReading (cursor.read data .vlan)
      skipTags data room ⟨tag.word 2, tag.offset + 2⟩ cursor
    else
      .ok (ethertype, cursor)

/-- The high half of an octet: the version of an IP header. -/
def version (octet : UInt8) : UInt8 :=
  octet >>> 4

/-- The low half of an octet counts the header's 32-bit words. -/
def ipv4HeaderSize (octet : UInt8) : Nat :=
  (octet &&& 0x0F).toNat * 4

/-- What an IP header answers: where it is, and the protocol it carries. -/
abbrev IpReading := IpHeader × UInt8 × Cursor

/-- Pass over an IPv4 header with its options.  A fragment is refused before the options are looked
for. -/
def readIpv4 (data : Bytes) (cursor : Cursor) : Except Stop IpReading := do
  let (ip, cursor) ← Stop.ofReading (cursor.read data .ipv4)
  let size := ipv4HeaderSize (ip.octet 0)
  if version (ip.octet 0) ≠ 4 then .error (.refused (.packet .badIpv4Header))
  else if size < Header.ipv4.size then .error (.refused (.packet .badIpv4Header))
  else if ip.word 6 &&& fragmentMask ≠ 0 then .error (.refused (.packet .fragment))
  else
    let optionsSize ← Stop.difference size Header.ipv4.size
    let (_, cursor) ← Stop.ofReading (cursor.skip data optionsSize)
    return (⟨.v4, ip.offset, size⟩, ip.octet 9, cursor)

def readIpv6 (data : Bytes) (cursor : Cursor) : Except Stop IpReading := do
  let (ip, cursor) ← Stop.ofReading (cursor.read data .ipv6)
  if version (ip.octet 0) ≠ 6 then .error (.refused (.packet .badIpv6Header))
  else return (⟨.v6, ip.offset, Header.ipv6.size⟩, ip.octet 6, cursor)

def readFirstIp (data : Bytes) (ethertype : UInt16) (cursor : Cursor) : Except Stop IpReading :=
  if ethertype = ethertypeIpv4 then readIpv4 data cursor
  else if ethertype = ethertypeIpv6 then readIpv6 data cursor
  else .error (.refused (.packet (.unknownEthertype ethertype)))

/-- The headers of a packet that may be wrapped in another one: the outer header if there is one, the
inner header, and the protocol that the inner one carries. -/
abbrev Nesting := Option IpHeader × IpHeader × UInt8 × Cursor

/-- Enter the tunnel that the first header's protocol announces, if any. -/
def enterTunnel (data : Bytes) (first : IpHeader) (protocol : UInt8) (cursor : Cursor) :
    Except Stop Nesting :=
  let inside := fun (reading : IpReading) => (some first, reading)
  if protocol = protocolUdp then .ok (none, first, protocol, cursor)
  else if protocol = protocolIpv4 then (readIpv4 data cursor).map inside
  else if protocol = protocolIpv6 then
    match first.family with
    | .v4 => .error (.refused (.tunnel .ipv6InIpv4))
    | .v6 => (readIpv6 data cursor).map inside
  else .error (.refused (.packet (.notUdp protocol)))

/-- Refuse a packet that carries anything but UDP; a tunnel inside a tunnel has its own refusal. -/
def requireUdp (outer : Option IpHeader) (protocol : UInt8) : Except Refusal Unit :=
  if protocol = protocolUdp then .ok ()
  else if outer.isSome ∧ (protocol = protocolIpv4 ∨ protocol = protocolIpv6) then
    .error (.tunnel .nested)
  else .error (.packet (.notUdp protocol))

/-- Locate the headers of a query to `port`.  The cursor is left on the first octet of the DNS
message and knows the families it passed. -/
def locate (data : Bytes) (port : UInt16) : Except Stop (Layout × Cursor) := do
  let (ethernet, cursor) ← Stop.ofReading ((Cursor.new data).read data .ethernet)
  let first := ⟨ethernet.word firstEthertypeOffset, firstEthertypeOffset⟩
  let (ethertype, cursor) ← skipTags data maxVlanTags first cursor
  let linkSize := cursor.position
  let (header, protocol, cursor) ← readFirstIp data ethertype.value cursor
  let (outer, inner, protocol, cursor) ← enterTunnel data header protocol cursor
  Stop.ofRefusal (requireUdp outer protocol)
  let (udp, cursor) ← Stop.ofReading (cursor.read data .udp)
  if udp.word 2 ≠ port then
    throw (.refused (.packet (.otherPort (udp.word 2))))
  let layout :=
    { linkSize, ethertypeOffset := ethertype.offset, outer, inner
      udp := udp.offset, dns := cursor.position }
  return (layout, { cursor with encap := outer.map (·.family), payload := some inner.family })

end Packet
end DnsResponder
