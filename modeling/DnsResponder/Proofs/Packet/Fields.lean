import DnsResponder.Checksum
import DnsResponder.Proofs.Packet.Dissection
import DnsResponder.Settings

namespace DnsResponder
namespace Packet

/-!
# Writing the fields of a header

A reply is written at offsets of the frame, and each write is meant for one field.  The lemmas here
say which field that is: in the octets of a header, writing at the field's offset gives the octets of
the header with that field changed and all others as they were.

What a reply may change of an IP header is a `Rewrite`.  It touches neither the family nor the size
nor what the packet carries, so a dissection stays one when its headers are rewritten, and the
layout stays what it was.
-/

/-! ## Link layer -/

namespace LinkFields

def exchanged (link : LinkFields) : LinkFields :=
  { link with
    receiver := link.sender
    sender := link.receiver
    receiver_size := link.sender_size
    sender_size := link.receiver_size }

theorem swap_addresses (link : LinkFields) (ethertype : UInt16) :
    (link.octets ethertype).swapAdjacent? 0 ethernetAddressSize =
      some (link.exchanged.octets ethertype) := by
  have split : link.octets ethertype = [] ++ (link.receiver ++ (link.sender ++
      (link.tagOctets ++ Bytes.ofWord ethertype))) := rfl
  have result : link.exchanged.octets ethertype = [] ++ (link.sender ++ (link.receiver ++
      (link.tagOctets ++ Bytes.ofWord ethertype))) := rfl
  exact Bytes.swapAdjacent?_between split result rfl link.receiver_size link.sender_size

end LinkFields

/-! ## IPv4 -/

namespace Ipv4Fields

/-- The octets between the length of a packet and the checksum of its header. -/
def beforeChecksum (fields : Ipv4Fields) : Bytes :=
  Bytes.ofWord fields.id ++ (Bytes.ofWord fields.fragment ++ [fields.hops, fields.protocol])

/-- The addresses and the options. -/
def behindChecksum (fields : Ipv4Fields) : Bytes :=
  Address.octetsV4 fields.source ++ (Address.octetsV4 fields.destination ++ fields.options)

theorem octets_eq_packetSize (fields : Ipv4Fields) :
    fields.octets = [fields.versionAndSize, fields.service] ++ (Bytes.ofWord fields.packetSize ++
      (fields.beforeChecksum ++ (Bytes.ofWord fields.checksum ++ fields.behindChecksum))) := by
  simp only [octets, Ipv4Base.octets, beforeChecksum, behindChecksum, List.cons_append,
    List.append_assoc, List.nil_append]

theorem octets_eq_checksum (fields : Ipv4Fields) :
    fields.octets = ([fields.versionAndSize, fields.service] ++ (Bytes.ofWord fields.packetSize ++
      fields.beforeChecksum)) ++ (Bytes.ofWord fields.checksum ++ fields.behindChecksum) := by
  rw [octets_eq_packetSize]
  simp only [List.append_assoc]

theorem octets_eq_addresses (fields : Ipv4Fields) :
    fields.octets = ([fields.versionAndSize, fields.service] ++ (Bytes.ofWord fields.packetSize ++
      (fields.beforeChecksum ++ Bytes.ofWord fields.checksum))) ++
        (Address.octetsV4 fields.source ++ (Address.octetsV4 fields.destination ++
          fields.options)) := by
  rw [octets_eq_packetSize]
  simp only [behindChecksum, List.append_assoc]

theorem patch_packetSize (fields : Ipv4Fields) (value : UInt16) :
    fields.octets.patch? 2 (Bytes.ofWord value) =
      some { fields with packetSize := value }.octets :=
  Bytes.patch?_between fields.octets_eq_packetSize
    (octets_eq_packetSize { fields with packetSize := value }) rfl rfl

theorem patch_checksum (fields : Ipv4Fields) (value : UInt16) :
    fields.octets.patch? Checksum.ipv4FieldOffset (Bytes.ofWord value) =
      some { fields with checksum := value }.octets :=
  Bytes.patch?_between fields.octets_eq_checksum
    (octets_eq_checksum { fields with checksum := value }) rfl rfl

def exchanged (fields : Ipv4Fields) : Ipv4Fields :=
  { fields with source := fields.destination, destination := fields.source }

theorem swap_addresses (fields : Ipv4Fields) :
    fields.octets.swapAdjacent? 12 4 = some fields.exchanged.octets :=
  Bytes.swapAdjacent?_between fields.octets_eq_addresses (octets_eq_addresses fields.exchanged)
    rfl rfl rfl

theorem slice_source (fields : Ipv4Fields) :
    fields.octets.slice? 12 4 = some (Address.octetsV4 fields.source) :=
  Bytes.slice?_of_split fields.octets_eq_addresses rfl rfl

theorem slice_destination (fields : Ipv4Fields) :
    fields.octets.slice? 16 4 = some (Address.octetsV4 fields.destination) :=
  Bytes.slice?_of_split (fields.octets_eq_addresses.trans (List.append_assoc ..).symm) rfl rfl

theorem length_octets_bounds (fields : Ipv4Fields) :
    20 ≤ fields.octets.length ∧ fields.octets.length ≤ Checksum.maxIpv4HeaderSize := by
  have words : (fields.versionAndSize &&& 0x0F).toNat ≤ 15 := by
    rw [UInt8.toNat_and]
    exact Nat.and_le_right
  have size := fields.size_eq
  simp only [ipv4HeaderSize, Header.size] at size
  simp only [length_octets, Header.size, Checksum.maxIpv4HeaderSize]
  omega

end Ipv4Fields

/-! ## IPv6 -/

namespace Ipv6Base

theorem length_octetsV6 (value : BitVec 128) : (Address.octetsV6 value).length = 16 :=
  Bytes.length_ofNat 16 value.toNat

theorem octets_eq_payloadSize (base : Ipv6Base) :
    base.octets = (base.versionAndClass :: base.classAndFlow :: Bytes.ofWord base.flow) ++
      (Bytes.ofWord base.payloadSize ++ (base.protocol :: base.hops ::
        (Address.octetsV6 base.source ++ Address.octetsV6 base.destination))) := rfl

/-- The octets of a header in front of its addresses. -/
def beforeAddresses (base : Ipv6Base) : Bytes :=
  base.versionAndClass :: base.classAndFlow :: (Bytes.ofWord base.flow ++
    (Bytes.ofWord base.payloadSize ++ [base.protocol, base.hops]))

theorem octets_eq_addresses (base : Ipv6Base) :
    base.octets = base.beforeAddresses ++ (Address.octetsV6 base.source ++
      (Address.octetsV6 base.destination ++ [])) := by
  simp only [octets, beforeAddresses, List.cons_append, List.append_assoc, List.nil_append,
    List.append_nil]

theorem octets_eq_destination (base : Ipv6Base) :
    base.octets = (base.beforeAddresses ++ Address.octetsV6 base.source) ++
      (Address.octetsV6 base.destination ++ []) :=
  base.octets_eq_addresses.trans (List.append_assoc ..).symm

theorem length_before_destination (base : Ipv6Base) :
    (base.beforeAddresses ++ Address.octetsV6 base.source).length = 24 := by
  rw [List.length_append, length_octetsV6]
  rfl

theorem patch_payloadSize (base : Ipv6Base) (value : UInt16) :
    base.octets.patch? 4 (Bytes.ofWord value) = some { base with payloadSize := value }.octets :=
  Bytes.patch?_between base.octets_eq_payloadSize
    (octets_eq_payloadSize { base with payloadSize := value }) rfl rfl

theorem patch_destination (base : Ipv6Base) (value : BitVec 128) :
    base.octets.patch? 24 (Address.octetsV6 value) =
      some { base with destination := value }.octets :=
  Bytes.patch?_between base.octets_eq_destination
    (octets_eq_destination { base with destination := value }) base.length_before_destination
    (by rw [length_octetsV6, length_octetsV6])

def exchanged (base : Ipv6Base) : Ipv6Base :=
  { base with source := base.destination, destination := base.source }

theorem swap_addresses (base : Ipv6Base) :
    base.octets.swapAdjacent? 8 16 = some base.exchanged.octets :=
  Bytes.swapAdjacent?_between base.octets_eq_addresses (octets_eq_addresses base.exchanged) rfl
    (length_octetsV6 _) (length_octetsV6 _)

theorem slice_source (base : Ipv6Base) :
    base.octets.slice? 8 16 = some (Address.octetsV6 base.source) :=
  Bytes.slice?_of_split base.octets_eq_addresses rfl (length_octetsV6 _)

theorem slice_destination (base : Ipv6Base) :
    base.octets.slice? 24 16 = some (Address.octetsV6 base.destination) :=
  Bytes.slice?_of_split base.octets_eq_destination base.length_before_destination
    (length_octetsV6 _)

end Ipv6Base

/-! ## Datagram -/

namespace UdpFields

theorem octets_eq_datagramSize (fields : UdpFields) :
    fields.octets = (Bytes.ofWord fields.source ++ Bytes.ofWord fields.destination) ++
      (Bytes.ofWord fields.datagramSize ++ Bytes.ofWord fields.checksum) :=
  (List.append_assoc ..).symm

/-- The ports and the length. -/
def beforeChecksum (fields : UdpFields) : Bytes :=
  Bytes.ofWord fields.source ++ (Bytes.ofWord fields.destination ++
    Bytes.ofWord fields.datagramSize)

theorem octets_eq_checksum (fields : UdpFields) :
    fields.octets = fields.beforeChecksum ++ (Bytes.ofWord fields.checksum ++ []) := by
  simp only [octets, beforeChecksum, List.append_assoc, List.append_nil]

/-- A datagram around its checksum. -/
theorem octets_append (fields : UdpFields) (message : Bytes) :
    fields.octets ++ message =
      fields.beforeChecksum ++ (Bytes.ofWord fields.checksum ++ message) := by
  rw [octets_eq_checksum, List.append_nil, List.append_assoc]

theorem patch_datagramSize (fields : UdpFields) (value : UInt16) :
    fields.octets.patch? 4 (Bytes.ofWord value) =
      some { fields with datagramSize := value }.octets :=
  Bytes.patch?_between fields.octets_eq_datagramSize
    (octets_eq_datagramSize { fields with datagramSize := value }) rfl rfl

theorem patch_checksum (fields : UdpFields) (value : UInt16) :
    fields.octets.patch? 6 (Bytes.ofWord value) = some { fields with checksum := value }.octets :=
  Bytes.patch?_between fields.octets_eq_checksum
    (octets_eq_checksum { fields with checksum := value }) rfl rfl

def exchanged (fields : UdpFields) : UdpFields :=
  { fields with source := fields.destination, destination := fields.source }

theorem swap_ports (fields : UdpFields) :
    fields.octets.swapAdjacent? 0 2 = some fields.exchanged.octets :=
  Bytes.swapAdjacent?_between (List.nil_append _).symm (List.nil_append _).symm rfl
    (Bytes.length_ofWord _) (Bytes.length_ofWord _)

end UdpFields

/-! ## Rewriting IP headers -/

namespace IpFields

/-- A change of a header that keeps its family, its size and what the packet carries. -/
structure Rewrite where
  apply : IpFields → IpFields
  family_eq (fields : IpFields) : (apply fields).family = fields.family
  size_eq (fields : IpFields) : (apply fields).size = fields.size
  protocol_eq (fields : IpFields) : (apply fields).protocol = fields.protocol

/-- The length field for a number of octets behind the header: IPv4 counts the whole packet, IPv6
what follows the header. -/
def Rewrite.sized (behind : Nat) : Rewrite where
  apply
    | .v4 fields => .v4 { fields with packetSize := UInt16.ofNat (fields.octets.length + behind) }
    | .v6 fields => .v6 { fields with payloadSize := UInt16.ofNat behind }
  family_eq fields := by cases fields <;> rfl
  size_eq fields := by cases fields <;> rfl
  protocol_eq fields := by cases fields <;> rfl

def Rewrite.exchanged : Rewrite where
  apply
    | .v4 fields => .v4 fields.exchanged
    | .v6 fields => .v6 { fields with
        source := fields.destination
        destination := fields.source }
  family_eq fields := by cases fields <;> rfl
  size_eq fields := by cases fields <;> rfl
  protocol_eq fields := by cases fields <;> rfl

/-- The checksum of an IPv4 header; there is none in IPv6. -/
def Rewrite.checksummed : Rewrite where
  apply
    | .v4 fields => .v4 { fields with
        checksum := (Checksum.ipv4Header fields.octets).getD fields.checksum }
    | .v6 fields => .v6 fields
  family_eq fields := by cases fields <;> rfl
  size_eq fields := by cases fields <;> rfl
  protocol_eq fields := by cases fields <;> rfl

theorem Rewrite.checksummed_v4 (fields : Ipv4Fields) :
    ∃ sum, Rewrite.checksummed.apply (.v4 fields) = .v4 { fields with checksum := sum } :=
  ⟨_, rfl⟩

/-- An IPv6 header sent through the configured end of the tunnel, if there is one; IPv4 headers are
left alone. -/
def Rewrite.returned (tunnelReturn : TunnelReturn) : Rewrite where
  apply
    | .v4 fields => .v4 fields
    | .v6 fields => .v6 { fields with
        destination :=
          match tunnelReturn with
          | .reflect => fields.destination
          | .endpoint address => address }
  family_eq fields := by cases fields <;> rfl
  size_eq fields := by cases fields <;> rfl
  protocol_eq fields := by cases fields <;> rfl

theorem Rewrite.header_apply (change : Rewrite) (fields : IpFields) (offset : Nat) :
    (change.apply fields).header offset = fields.header offset := by
  rw [header, change.family_eq, change.size_eq, header]

theorem Rewrite.ethertype_apply (change : Rewrite) (fields : IpFields) :
    (change.apply fields).ethertype = fields.ethertype := by
  have same := change.family_eq fields
  cases applied : change.apply fields with
  | v4 changed =>
    rw [applied] at same
    cases fields with
    | v4 fields => rfl
    | v6 fields => cases same
  | v6 changed =>
    rw [applied] at same
    cases fields with
    | v4 fields => cases same
    | v6 fields => rfl

variable {data front back : Bytes} {offset : Nat}

theorem swap_addresses (fields : IpFields) (split : data = front ++ (fields.octets ++ back))
    (start : front.length = offset) :
    data.swapAdjacent? (fields.header offset).sourceOffset (fields.header offset).addressSize =
      some (front ++ ((Rewrite.exchanged.apply fields).octets ++ back)) := by
  cases fields with
  | v4 fields => exact Bytes.swapAdjacent?_inside split start fields.swap_addresses
  | v6 fields => exact Bytes.swapAdjacent?_inside split start fields.toIpv6Base.swap_addresses

theorem slice_source (fields : IpFields) (split : data = front ++ (fields.octets ++ back))
    (start : front.length = offset) :
    data.slice? (fields.header offset).sourceOffset (fields.header offset).addressSize =
      some fields.source.octets := by
  cases fields with
  | v4 fields => exact Bytes.slice?_inside split start fields.slice_source
  | v6 fields => exact Bytes.slice?_inside split start fields.toIpv6Base.slice_source

theorem slice_destination (fields : IpFields) (split : data = front ++ (fields.octets ++ back))
    (start : front.length = offset) :
    data.slice? (fields.header offset).destinationOffset (fields.header offset).addressSize =
      some fields.destination.octets := by
  cases fields with
  | v4 fields => exact Bytes.slice?_inside split start fields.slice_destination
  | v6 fields => exact Bytes.slice?_inside split start fields.toIpv6Base.slice_destination

end IpFields

/-! ## Rewriting the headers of a frame -/

namespace Dissection

/-- The frame with the tunnel's header rewritten, if there is one. -/
def withOuter (parts : Dissection) (change : IpFields.Rewrite) : Dissection :=
  { parts with
    outer := parts.outer.map change.apply
    carries := by
      intro tunnel wrapped
      rcases Option.map_eq_some_iff.mp wrapped with ⟨outer, before, rfl⟩
      rw [IpFields.Carries, change.family_eq, change.protocol_eq]
      exact parts.carries outer before }

/-- The frame with the header rewritten that carries the datagram. -/
def withInner (parts : Dissection) (change : IpFields.Rewrite) : Dissection :=
  { parts with
    inner := change.apply parts.inner
    carries := by
      intro tunnel wrapped
      rw [IpFields.Carries, change.family_eq]
      exact parts.carries tunnel wrapped
    carriesUdp := (change.protocol_eq parts.inner).trans parts.carriesUdp }

variable (parts : Dissection) (change : IpFields.Rewrite)

@[simp]
theorem ethertype_withOuter : (parts.withOuter change).first.ethertype = parts.first.ethertype := by
  cases wrapped : parts.outer with
  | none => simp only [first, withOuter, wrapped, Option.map_none]
  | some outer => simp only [first, withOuter, wrapped, Option.map_some, Option.getD_some,
      change.ethertype_apply]

@[simp]
theorem ethertype_withInner : (parts.withInner change).first.ethertype = parts.first.ethertype := by
  cases wrapped : parts.outer with
  | none => simp only [first, withInner, wrapped, Option.getD_none, change.ethertype_apply]
  | some outer => simp only [first, withInner, wrapped, Option.getD_some]

theorem linkOctets_withOuter : (parts.withOuter change).linkOctets = parts.linkOctets := by
  rw [linkOctets, ethertype_withOuter]
  rfl

theorem linkOctets_withInner : (parts.withInner change).linkOctets = parts.linkOctets := by
  rw [linkOctets, ethertype_withInner]
  rfl

@[simp]
theorem outerSize_withOuter : (parts.withOuter change).outerSize = parts.outerSize := by
  cases wrapped : parts.outer with
  | none => simp only [outerSize, withOuter, wrapped, Option.map_none]
  | some outer => simp only [outerSize, withOuter, wrapped, Option.map_some, Option.getD_some,
      change.size_eq]

@[simp]
theorem layout_withOuter : (parts.withOuter change).layout = parts.layout := by
  have size := parts.outerSize_withOuter change
  simp only [layout, messageOffset, udpOffset, innerOffset, size]
  simp only [withOuter, Option.map_map]
  congr 1
  cases parts.outer with
  | none => rfl
  | some outer => exact congrArg some (change.header_apply outer _)

@[simp]
theorem layout_withInner : (parts.withInner change).layout = parts.layout := by
  have size : (parts.withInner change).inner.size = parts.inner.size := change.size_eq parts.inner
  have header : (parts.withInner change).inner.header (parts.withInner change).innerOffset =
      parts.inner.header parts.innerOffset := change.header_apply parts.inner parts.innerOffset
  simp only [layout, messageOffset, udpOffset, size, header]
  rfl

end Dissection
end Packet
end DnsResponder
