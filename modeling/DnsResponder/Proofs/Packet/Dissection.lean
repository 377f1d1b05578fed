import DnsResponder.Packet.Locate
import DnsResponder.Proofs.Bytes

namespace DnsResponder
namespace Packet

/-!
# A frame taken apart

A layout tells where the headers of a frame stand.  A dissection holds what they say: the Ethernet
addresses and VLAN tags, an IP header for the tunnel if there is one, the IP header of the packet
inside, the UDP header, and the message as octets.  `Dissection.octets` puts the frame together
again, and `Dissection.layout` is where its headers then stand.

The fields that locating a header checks are restricted by proofs: an IPv4 header has its version
and the size of its options right and is no fragment, and each header names the kind of the next.
All other fields are free.  So a dissection is exactly a frame in which the headers of a datagram
can be located; whom the datagram is for is left open.
-/

/-! ## Link layer -/

/-- A VLAN tag of either kind. -/
structure Tag where
  kind : UInt16
  control : UInt16
  isVlan : kind = ethertypeVlan ∨ kind = ethertypeServiceVlan

def Tag.octets (tag : Tag) : Bytes :=
  Bytes.ofWord tag.kind ++ Bytes.ofWord tag.control

/-- The Ethernet addresses and the tags behind them. -/
structure LinkFields where
  receiver : Bytes
  sender : Bytes
  tags : List Tag
  receiver_size : receiver.length = ethernetAddressSize
  sender_size : sender.length = ethernetAddressSize
  tags_le : tags.length ≤ maxVlanTags

namespace LinkFields

def typeOffset (link : LinkFields) : Nat :=
  2 * ethernetAddressSize + 4 * link.tags.length

def size (link : LinkFields) : Nat :=
  link.typeOffset + 2

def tagOctets (link : LinkFields) : Bytes :=
  link.tags.flatMap Tag.octets

/-- The Ethernet header with its tags, announcing a packet. -/
def octets (link : LinkFields) (ethertype : UInt16) : Bytes :=
  link.receiver ++ (link.sender ++ (link.tagOctets ++ Bytes.ofWord ethertype))

theorem length_tagOctets (link : LinkFields) :
    link.tagOctets.length = 4 * link.tags.length := by
  have each (tags : List Tag) : (tags.flatMap Tag.octets).length = 4 * tags.length := by
    induction tags with
    | nil => rfl
    | cons tag rest ih =>
      rw [List.flatMap_cons, List.length_append, ih, Tag.octets, List.length_append,
        Bytes.length_ofWord, Bytes.length_ofWord, List.length_cons]
      omega
  exact each link.tags

@[simp]
theorem length_octets (link : LinkFields) (ethertype : UInt16) :
    (link.octets ethertype).length = link.size := by
  simp only [octets, List.length_append, link.receiver_size, link.sender_size,
    length_tagOctets, Bytes.length_ofWord, size, typeOffset]
  omega

end LinkFields

/-! ## IPv4 -/

/-- The twenty octets of an IPv4 header in front of its options. -/
structure Ipv4Base where
  versionAndSize : UInt8
  service : UInt8
  packetSize : UInt16
  id : UInt16
  fragment : UInt16
  hops : UInt8
  protocol : UInt8
  checksum : UInt16
  source : BitVec 32
  destination : BitVec 32

def Ipv4Base.octets (base : Ipv4Base) : Bytes :=
  base.versionAndSize :: base.service :: (Bytes.ofWord base.packetSize ++
    (Bytes.ofWord base.id ++ (Bytes.ofWord base.fragment ++
      (base.hops :: base.protocol :: (Bytes.ofWord base.checksum ++
        (Address.octetsV4 base.source ++ Address.octetsV4 base.destination))))))

theorem Ipv4Base.length_octets (base : Ipv4Base) : base.octets.length = Header.ipv4.size := rfl

theorem Ipv4Base.exists_of_length (octets : Bytes) (whole : octets.length = Header.ipv4.size) :
    ∃ base : Ipv4Base, octets = base.octets := by
  rcases Bytes.exists_octet 19 octets whole with ⟨versionAndSize, afterVersion, rfl, left19⟩
  rcases Bytes.exists_octet 18 afterVersion left19 with ⟨service, afterService, rfl, left18⟩
  rcases Bytes.exists_word 16 afterService left18 with ⟨packetSize, afterSize, rfl, left16⟩
  rcases Bytes.exists_word 14 afterSize left16 with ⟨id, afterId, rfl, left14⟩
  rcases Bytes.exists_word 12 afterId left14 with ⟨fragment, afterFragment, rfl, left12⟩
  rcases Bytes.exists_octet 11 afterFragment left12 with ⟨hops, afterHops, rfl, left11⟩
  rcases Bytes.exists_octet 10 afterHops left11 with ⟨protocol, afterProtocol, rfl, left10⟩
  rcases Bytes.exists_word 8 afterProtocol left10 with ⟨checksum, afterChecksum, rfl, left8⟩
  rcases Address.exists_v4 4 afterChecksum left8 with ⟨source, afterSource, rfl, left4⟩
  rcases Address.exists_v4 0 afterSource left4 with ⟨destination, nothing, rfl, left0⟩
  rcases List.eq_nil_of_length_eq_zero left0 with rfl
  refine ⟨⟨versionAndSize, service, packetSize, id, fragment, hops, protocol, checksum, source,
    destination⟩, ?_⟩
  rw [List.append_nil]
  rfl

/-- A whole IPv4 header that is no fragment. -/
structure Ipv4Fields extends Ipv4Base where
  options : Bytes
  version_eq : version versionAndSize = 4
  size_eq : ipv4HeaderSize versionAndSize = Header.ipv4.size + options.length
  whole : fragment &&& fragmentMask = 0

namespace Ipv4Fields

def octets (fields : Ipv4Fields) : Bytes :=
  fields.toIpv4Base.octets ++ fields.options

theorem length_octets (fields : Ipv4Fields) :
    fields.octets.length = Header.ipv4.size + fields.options.length := by
  rw [octets, List.length_append, Ipv4Base.length_octets]

end Ipv4Fields

/-! ## IPv6 -/

/-- The forty octets of an IPv6 header. -/
structure Ipv6Base where
  versionAndClass : UInt8
  classAndFlow : UInt8
  flow : UInt16
  payloadSize : UInt16
  protocol : UInt8
  hops : UInt8
  source : BitVec 128
  destination : BitVec 128

def Ipv6Base.octets (base : Ipv6Base) : Bytes :=
  base.versionAndClass :: base.classAndFlow :: (Bytes.ofWord base.flow ++
    (Bytes.ofWord base.payloadSize ++ (base.protocol :: base.hops ::
      (Address.octetsV6 base.source ++ Address.octetsV6 base.destination))))

theorem Ipv6Base.length_octets (base : Ipv6Base) : base.octets.length = Header.ipv6.size := by
  simp only [octets, List.length_cons, List.length_append, Bytes.length_ofWord, Address.octetsV6,
    Bytes.length_ofNat, Header.size]

/-- Every forty octets are some header, perhaps of another version. -/
theorem Ipv6Base.exists_of_length (octets : Bytes) (whole : octets.length = Header.ipv6.size) :
    ∃ base : Ipv6Base, octets = base.octets := by
  rcases Bytes.exists_octet 39 octets whole with ⟨versionAndClass, afterVersion, rfl, left39⟩
  rcases Bytes.exists_octet 38 afterVersion left39 with ⟨classAndFlow, afterClass, rfl, left38⟩
  rcases Bytes.exists_word 36 afterClass left38 with ⟨flow, afterFlow, rfl, left36⟩
  rcases Bytes.exists_word 34 afterFlow left36 with ⟨payloadSize, afterSize, rfl, left34⟩
  rcases Bytes.exists_octet 33 afterSize left34 with ⟨protocol, afterProtocol, rfl, left33⟩
  rcases Bytes.exists_octet 32 afterProtocol left33 with ⟨hops, afterHops, rfl, left32⟩
  rcases Address.exists_v6 16 afterHops left32 with ⟨source, afterSource, atSource, left16⟩
  rcases Address.exists_v6 0 afterSource left16 with ⟨destination, nothing, atDestination, left0⟩
  refine ⟨⟨versionAndClass, classAndFlow, flow, payloadSize, protocol, hops, source,
    destination⟩, ?_⟩
  rw [atSource, atDestination, List.eq_nil_of_length_eq_zero left0, List.append_nil]
  rfl

/-- An IPv6 header. -/
structure Ipv6Fields extends Ipv6Base where
  version_eq : version versionAndClass = 6

/-! ## Either family -/

/-- An IP header with all of its fields. -/
inductive IpFields
  | v4 (fields : Ipv4Fields)
  | v6 (fields : Ipv6Fields)

namespace IpFields

def octets : IpFields → Bytes
  | .v4 fields => fields.octets
  | .v6 fields => fields.toIpv6Base.octets

def family : IpFields → Family
  | .v4 _ => .v4
  | .v6 _ => .v6

/-- Octets of the header, with options. -/
def size : IpFields → Nat
  | .v4 fields => Header.ipv4.size + fields.options.length
  | .v6 _ => Header.ipv6.size

def protocol : IpFields → UInt8
  | .v4 fields => fields.protocol
  | .v6 fields => fields.protocol

def ethertype : IpFields → UInt16
  | .v4 _ => ethertypeIpv4
  | .v6 _ => ethertypeIpv6

def source : IpFields → Address
  | .v4 fields => .v4 fields.source
  | .v6 fields => .v6 fields.source

def destination : IpFields → Address
  | .v4 fields => .v4 fields.destination
  | .v6 fields => .v6 fields.destination

/-- Where the header is when it starts at an offset. -/
def header (fields : IpFields) (offset : Nat) : IpHeader :=
  ⟨fields.family, offset, fields.size⟩

@[simp]
theorem length_octets (fields : IpFields) : fields.octets.length = fields.size := by
  cases fields with
  | v4 fields => exact fields.length_octets
  | v6 fields => exact fields.toIpv6Base.length_octets

@[simp]
theorem family_destination (fields : IpFields) : fields.destination.family = fields.family := by
  cases fields <;> rfl

end IpFields

/-- The protocol that announces a packet of one family inside one of another.  There is no IPv6 in
IPv4. -/
def tunnelProtocol? : Family → Family → Option UInt8
  | .v4, .v4 => some protocolIpv4
  | .v4, .v6 => none
  | .v6, .v4 => some protocolIpv4
  | .v6, .v6 => some protocolIpv6

/-- Whether a packet can carry another one, and says that it does. -/
def IpFields.Carries (outer inner : IpFields) : Prop :=
  tunnelProtocol? outer.family inner.family = some outer.protocol

/-! ## Datagram -/

/-- A UDP header. -/
structure UdpFields where
  source : UInt16
  destination : UInt16
  datagramSize : UInt16
  checksum : UInt16

namespace UdpFields

def octets (fields : UdpFields) : Bytes :=
  Bytes.ofWord fields.source ++ (Bytes.ofWord fields.destination ++
    (Bytes.ofWord fields.datagramSize ++ Bytes.ofWord fields.checksum))

theorem length_octets (fields : UdpFields) : fields.octets.length = Header.udp.size := rfl

theorem exists_of_length (octets : Bytes) (whole : octets.length = Header.udp.size) :
    ∃ fields : UdpFields, octets = fields.octets := by
  rcases Bytes.exists_word 6 octets whole with ⟨source, afterSource, rfl, left6⟩
  rcases Bytes.exists_word 4 afterSource left6 with ⟨destination, afterDestination, rfl, left4⟩
  rcases Bytes.exists_word 2 afterDestination left4 with ⟨datagramSize, afterSize, rfl, left2⟩
  rcases Bytes.exists_word 0 afterSize left2 with ⟨checksum, nothing, rfl, left0⟩
  rcases List.eq_nil_of_length_eq_zero left0 with rfl
  refine ⟨⟨source, destination, datagramSize, checksum⟩, ?_⟩
  rw [List.append_nil]
  rfl

end UdpFields

/-! ## The whole frame -/

/-- A frame taken apart into its headers and its message. -/
structure Dissection where
  link : LinkFields
  outer : Option IpFields
  inner : IpFields
  udp : UdpFields
  message : Bytes
  carries : ∀ tunnel, outer = some tunnel → tunnel.Carries inner
  carriesUdp : inner.protocol = protocolUdp

namespace Dissection

/-- The header right behind the Ethernet header. -/
def first (parts : Dissection) : IpFields :=
  parts.outer.getD parts.inner

/-- The tunnel's header on the wire; nothing for a packet that came by itself. -/
def outerOctets (parts : Dissection) : Bytes :=
  (parts.outer.map IpFields.octets).getD []

/-- The Ethernet header with its tags, on the wire. -/
def linkOctets (parts : Dissection) : Bytes :=
  parts.link.octets parts.first.ethertype

/-- The frame put together again. -/
def octets (parts : Dissection) : Bytes :=
  parts.linkOctets ++ (parts.outerOctets ++ (parts.inner.octets ++
    (parts.udp.octets ++ parts.message)))

def outerSize (parts : Dissection) : Nat :=
  (parts.outer.map IpFields.size).getD 0

/-- Offset of the packet that carries the datagram. -/
def innerOffset (parts : Dissection) : Nat :=
  parts.link.size + parts.outerSize

def udpOffset (parts : Dissection) : Nat :=
  parts.innerOffset + parts.inner.size

def messageOffset (parts : Dissection) : Nat :=
  parts.udpOffset + Header.udp.size

def layout (parts : Dissection) : Layout where
  linkSize := parts.link.size
  ethertypeOffset := parts.link.typeOffset
  outer := parts.outer.map (·.header parts.link.size)
  inner := parts.inner.header parts.innerOffset
  udp := parts.udpOffset
  dns := parts.messageOffset

@[simp]
theorem length_linkOctets (parts : Dissection) : parts.linkOctets.length = parts.link.size :=
  parts.link.length_octets _

@[simp]
theorem length_outerOctets (parts : Dissection) : parts.outerOctets.length = parts.outerSize := by
  cases none : parts.outer with
  | none => simp only [outerOctets, outerSize, none, Option.map_none, Option.getD_none,
      List.length_nil]
  | some outer => simp only [outerOctets, outerSize, none, Option.map_some, Option.getD_some,
      IpFields.length_octets]

theorem length_octets (parts : Dissection) :
    parts.octets.length = parts.messageOffset + parts.message.length := by
  simp only [octets, List.length_append, length_linkOctets, length_outerOctets,
    IpFields.length_octets, UdpFields.length_octets, messageOffset, udpOffset, innerOffset]
  omega

section Tunnel

variable {parts : Dissection} {tunnel : IpFields}

theorem outerSize_of_none (direct : parts.outer = none) : parts.outerSize = 0 := by
  rw [outerSize, direct]
  rfl

theorem outerSize_of_some (wrapped : parts.outer = some tunnel) :
    parts.outerSize = tunnel.size := by
  rw [outerSize, wrapped]
  rfl

theorem layout_outer_of_none (direct : parts.outer = none) : parts.layout.outer = none := by
  rw [layout, direct]
  rfl

theorem layout_outer_of_some (wrapped : parts.outer = some tunnel) :
    parts.layout.outer = some (tunnel.header parts.link.size) := by
  rw [layout, wrapped]
  rfl

end Tunnel

/-! ## Where the parts stand -/

/-- The tunnel's header between its neighbours. -/
theorem split_outer (parts : Dissection) {outer : IpFields} (wrapped : parts.outer = some outer) :
    parts.octets = parts.linkOctets ++ (outer.octets ++ (parts.inner.octets ++
      (parts.udp.octets ++ parts.message))) := by
  rw [octets, outerOctets, wrapped]
  rfl

theorem split_inner (parts : Dissection) :
    parts.octets = (parts.linkOctets ++ parts.outerOctets) ++ (parts.inner.octets ++
      (parts.udp.octets ++ parts.message)) := by
  simp only [octets, List.append_assoc]

theorem length_before_inner (parts : Dissection) :
    (parts.linkOctets ++ parts.outerOctets).length = parts.innerOffset := by
  rw [List.length_append, length_linkOctets, length_outerOctets, innerOffset]

theorem split_udp (parts : Dissection) :
    parts.octets = (parts.linkOctets ++ (parts.outerOctets ++ parts.inner.octets)) ++
      (parts.udp.octets ++ parts.message) := by
  simp only [octets, List.append_assoc]

theorem length_before_udp (parts : Dissection) :
    (parts.linkOctets ++ (parts.outerOctets ++ parts.inner.octets)).length = parts.udpOffset := by
  simp only [List.length_append, length_linkOctets, length_outerOctets, IpFields.length_octets,
    udpOffset, innerOffset]
  omega

/-- The octets in front of the message. -/
def headers (parts : Dissection) : Bytes :=
  parts.linkOctets ++ (parts.outerOctets ++ (parts.inner.octets ++ parts.udp.octets))

theorem split_message (parts : Dissection) : parts.octets = parts.headers ++ parts.message := by
  simp only [octets, headers, List.append_assoc]

@[simp]
theorem length_headers (parts : Dissection) : parts.headers.length = parts.messageOffset := by
  simp only [headers, List.length_append, length_linkOctets, length_outerOctets,
    IpFields.length_octets, UdpFields.length_octets, messageOffset, udpOffset, innerOffset]
  omega

end Dissection
end Packet
end DnsResponder
