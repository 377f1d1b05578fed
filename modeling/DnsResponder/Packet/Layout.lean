import DnsResponder.Frame.Cursor
import DnsResponder.Refusal

namespace DnsResponder
namespace Packet

/-!
# Where the headers of a query stand

A layout records the offset of every header between the first octet of a frame and its DNS message.
It is made by locating the headers in a frame and says nothing about octets by itself, so reading an
address through a layout is partial.
-/

def ethertypeIpv4 : UInt16 := 0x0800

def ethertypeIpv6 : UInt16 := 0x86DD

def ethertypeVlan : UInt16 := 0x8100

def ethertypeServiceVlan : UInt16 := 0x88A8

/-- The protocol number of an IPv4 packet in a tunnel. -/
def protocolIpv4 : UInt8 := 4

def protocolUdp : UInt8 := 17

/-- The protocol number of an IPv6 packet in a tunnel. -/
def protocolIpv6 : UInt8 := 41

/-- VLAN tags that are passed over; a third one is an unknown ethertype. -/
def maxVlanTags : Nat := 2

def ethernetAddressSize : Nat := 6

/-- One IP header: its family, where it starts, and its size with options. -/
structure IpHeader where
  family : Family
  offset : Nat
  size : Nat
deriving DecidableEq

namespace IpHeader

def addressSize (header : IpHeader) : Nat :=
  header.family.addressSize

def sourceOffset (header : IpHeader) : Nat :=
  match header.family with
  | .v4 => header.offset + 12
  | .v6 => header.offset + 8

/-- Offset of the destination address in the frame. -/
def destinationOffset (header : IpHeader) : Nat :=
  match header.family with
  | .v4 => header.offset + 16
  | .v6 => header.offset + 24

def stop (header : IpHeader) : Nat :=
  header.offset + header.size

/-- The address of the header's family at an offset of the frame. -/
def addressAt? (header : IpHeader) (data : Bytes) (offset : Nat) : Option Address :=
  (data.slice? offset header.addressSize).map (Address.read header.family)

def source? (header : IpHeader) (data : Bytes) : Option Address :=
  header.addressAt? data header.sourceOffset

def destination? (header : IpHeader) (data : Bytes) : Option Address :=
  header.addressAt? data header.destinationOffset

end IpHeader

/-- Whether the query's packet came by itself or wrapped in another one. -/
inductive Tunnel
  | direct
  | ipv4InIpv4
  | ipv6InIpv6
  | ipv4InIpv6
deriving DecidableEq

/-- The offsets of the headers of a query. -/
structure Layout where
  /-- Octets of the Ethernet header with its VLAN tags. -/
  linkSize : Nat
  /-- Offset of the ethertype that names the first IP header. -/
  ethertypeOffset : Nat
  /-- The tunnel's header, if the query arrived in one. -/
  outer : Option IpHeader
  /-- The header of the packet that carries the datagram. -/
  inner : IpHeader
  /-- Offset of the UDP header. -/
  udp : Nat
  /-- Offset of the DNS message. -/
  dns : Nat
deriving DecidableEq

namespace Layout

def tunnel (layout : Layout) : Tunnel :=
  match layout.outer with
  | none => .direct
  | some outer =>
    match outer.family, layout.inner.family with
    | .v4, _ => .ipv4InIpv4
    | .v6, .v6 => .ipv6InIpv6
    | .v6, .v4 => .ipv4InIpv6

/-- Octets that a reply leaves out in front of the inner header.  Only an IPv6 header around an IPv4
packet stays in the reply. -/
def stripSize (layout : Layout) : Nat :=
  match layout.outer with
  | none => 0
  | some outer => if layout.tunnel = .ipv4InIpv6 then 0 else outer.size

/-- The destination that decides whether the query is served: that of the inner header. -/
def destination? (layout : Layout) (data : Bytes) : Option Address :=
  layout.inner.destination? data

end Layout
end Packet
end DnsResponder
