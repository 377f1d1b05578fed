import DnsResponder.Proofs.Packet.Exactness
import DnsResponder.Proofs.Reply.Changes

namespace DnsResponder
namespace Packet

/-!
# The ends of a tunnel

A tunnelled frame has an IP header in front that says who wraps packets for whom.  `Wrapped` is any
frame with such a header, whatever follows it: there need be no query behind it, nor a whole packet,
and the header itself is not checked.

Two such frames that differ in the ends of the tunnel only are dissected alike.  The octets tell the
link layer and the fixed part of the header behind it, so in every dissection of the one frame the
tunnel is the one that is wrapped around it, and giving it other ends is a rewrite of its header.
-/

/-! ## The fixed part of a header -/

/-- The fixed part of an IP header of either family, with whatever it says. -/
inductive IpBase
  | v4 (base : Ipv4Base)
  | v6 (base : Ipv6Base)

namespace IpBase

def octets : IpBase → Bytes
  | .v4 base => base.octets
  | .v6 base => base.octets

def ethertype : IpBase → UInt16
  | .v4 _ => ethertypeIpv4
  | .v6 _ => ethertypeIpv6

def protocol : IpBase → UInt8
  | .v4 base => base.protocol
  | .v6 base => base.protocol

/-- Headers of one family that differ at most in their source and their destination. -/
inductive SameButEnds : IpBase → IpBase → Prop
  | v4 (base : Ipv4Base) (source destination : BitVec 32) :
      SameButEnds (.v4 base) (.v4 { base with source, destination })
  | v6 (base : Ipv6Base) (source destination : BitVec 128) :
      SameButEnds (.v6 base) (.v6 { base with source, destination })

variable {first second : IpBase}

theorem SameButEnds.symm (same : first.SameButEnds second) : second.SameButEnds first := by
  cases same with
  | v4 base source destination => exact .v4 _ base.source base.destination
  | v6 base source destination => exact .v6 _ base.source base.destination

theorem SameButEnds.ethertype_eq (same : first.SameButEnds second) :
    first.ethertype = second.ethertype := by
  cases same <;> rfl

/-- What follows a link layer that announces its family tells the fixed part of a header. -/
theorem append_inj {rest others : Bytes} (family : first.ethertype = second.ethertype)
    (same : first.octets ++ rest = second.octets ++ others) : first = second ∧ rest = others := by
  have apart : ethertypeIpv4 ≠ ethertypeIpv6 := by decide
  cases first with
  | v4 first =>
    cases second with
    | v4 second =>
      rcases List.append_inj same rfl with ⟨base, behind⟩
      exact ⟨congrArg v4 (Ipv4Base.octets_inj.mp base), behind⟩
    | v6 second => exact absurd family apart
  | v6 first =>
    cases second with
    | v4 second => exact absurd family apart.symm
    | v6 second =>
      have sizes := first.length_octets.trans second.length_octets.symm
      rcases List.append_inj same sizes with ⟨base, behind⟩
      exact ⟨congrArg v6 (Ipv6Base.octets_inj.mp base), behind⟩

end IpBase

namespace IpFields

def base : IpFields → IpBase
  | .v4 fields => .v4 fields.toIpv4Base
  | .v6 fields => .v6 fields.toIpv6Base

/-- What follows the fixed part of a header; nothing in IPv6. -/
def options : IpFields → Bytes
  | .v4 fields => fields.options
  | .v6 _ => []

theorem octets_eq_base (fields : IpFields) :
    fields.octets = fields.base.octets ++ fields.options := by
  cases fields with
  | v4 fields => rfl
  | v6 fields => exact (List.append_nil _).symm

theorem ethertype_base (fields : IpFields) : fields.base.ethertype = fields.ethertype := by
  cases fields <;> rfl

theorem protocol_base (fields : IpFields) : fields.base.protocol = fields.protocol := by
  cases fields <;> rfl

/-- A header with the ends of another one of its family. -/
def Rewrite.endsOf (other : IpBase) : Rewrite where
  apply fields :=
    match fields, other with
    | .v4 fields, .v4 base =>
      .v4 { fields with source := base.source, destination := base.destination }
    | .v6 fields, .v6 base =>
      .v6 { fields with source := base.source, destination := base.destination }
    | fields, _ => fields
  family_eq fields := by cases fields <;> cases other <;> rfl
  size_eq fields := by cases fields <;> cases other <;> rfl
  protocol_eq fields := by cases fields <;> cases other <;> rfl

/-- With the ends of a header that is the same but for them, a header is that one. -/
theorem Rewrite.octets_endsOf {fields : IpFields} {other : IpBase}
    (same : fields.base.SameButEnds other) :
    ((Rewrite.endsOf other).apply fields).octets = other.octets ++ fields.options := by
  cases fields with
  | v4 fields => cases same with | v4 => rfl
  | v6 fields => cases same with | v6 => exact (List.append_nil _).symm

end IpFields

/-! ## The link layer -/

theorem Tag.kind_ne_ethertype (tag : Tag) (base : IpBase) : tag.kind ≠ base.ethertype := by
  have apart (type : UInt16) (packet : type = ethertypeIpv4 ∨ type = ethertypeIpv6) :
      ethertypeVlan ≠ type ∧ ethertypeServiceVlan ≠ type := by
    rcases packet with rfl | rfl <;> decide
  have named : base.ethertype = ethertypeIpv4 ∨ base.ethertype = ethertypeIpv6 := by
    cases base with
    | v4 base => exact .inl rfl
    | v6 base => exact .inr rfl
  rcases tag.isVlan with customer | service
  · rw [customer]
    exact (apart _ named).1
  · rw [service]
    exact (apart _ named).2

/-- Tags end where a type follows that is not the kind of any tag. -/
theorem Tag.eq_of_flatMap_append {first second : List Tag} {type other : UInt16}
    {rest others : Bytes} (plain : ∀ tag : Tag, tag.kind ≠ type)
    (alsoPlain : ∀ tag : Tag, tag.kind ≠ other)
    (same : first.flatMap octets ++ (Bytes.ofWord type ++ rest) =
      second.flatMap octets ++ (Bytes.ofWord other ++ others)) :
    first = second ∧ type = other ∧ rest = others := by
  induction first generalizing second with
  | nil =>
    cases second with
    | nil => exact ⟨rfl, Bytes.ofWord_append_inj.mp same⟩
    | cons tag tags =>
      rw [List.flatMap_cons, octets, List.append_assoc, List.append_assoc] at same
      exact absurd (Bytes.ofWord_append_inj.mp same).1.symm (plain tag)
  | cons tag tags ih =>
    rw [List.flatMap_cons, octets, List.append_assoc, List.append_assoc] at same
    cases second with
    | nil => exact absurd (Bytes.ofWord_append_inj.mp same).1 (alsoPlain tag)
    | cons also more =>
      rw [List.flatMap_cons, octets, List.append_assoc, List.append_assoc] at same
      rcases Bytes.ofWord_append_inj.mp same with ⟨kind, behindKind⟩
      rcases Bytes.ofWord_append_inj.mp behindKind with ⟨control, behind⟩
      rcases ih behind with ⟨rfl, types, back⟩
      have sameTag : tag = also := Tag.octets_inj.mp (by rw [octets, octets, kind, control])
      exact ⟨by rw [sameTag], types, back⟩

theorem LinkFields.eq_of_append {first second : LinkFields} {base other : IpBase}
    {rest others : Bytes}
    (same : first.octets base.ethertype ++ rest = second.octets other.ethertype ++ others) :
    first = second ∧ base.ethertype = other.ethertype ∧ rest = others := by
  rcases first with ⟨receiver, sender, tags, receiverSize, senderSize, few⟩
  rcases second with ⟨otherReceiver, otherSender, others, otherReceiverSize, otherSenderSize, alsoFew⟩
  simp only [octets, tagOctets, List.append_assoc] at same
  rcases List.append_inj same (receiverSize.trans otherReceiverSize.symm) with ⟨rfl, behindReceiver⟩
  rcases List.append_inj behindReceiver (senderSize.trans otherSenderSize.symm) with
    ⟨rfl, behindSender⟩
  rcases Tag.eq_of_flatMap_append (fun tag => tag.kind_ne_ethertype base)
    (fun tag => tag.kind_ne_ethertype other) behindSender with ⟨rfl, types, back⟩
  exact ⟨rfl, types, back⟩

/-! ## Tunnelled frames -/

/-- A frame with the header of a tunnel behind its link layer. -/
structure Wrapped where
  link : LinkFields
  outer : IpBase
  rest : Bytes
  tunnels : outer.protocol = protocolIpv4 ∨ outer.protocol = protocolIpv6

namespace Wrapped

def octets (wrapped : Wrapped) : Bytes :=
  wrapped.link.octets wrapped.outer.ethertype ++ (wrapped.outer.octets ++ wrapped.rest)

/-- Frames that differ at most in the ends of the tunnel. -/
structure SameButEnds (first second : Wrapped) : Prop where
  link : first.link = second.link
  outer : first.outer.SameButEnds second.outer
  rest : first.rest = second.rest

theorem SameButEnds.symm {first second : Wrapped} (same : first.SameButEnds second) :
    second.SameButEnds first :=
  ⟨same.link.symm, same.outer.symm, same.rest.symm⟩

variable {wrapped : Wrapped} {parts : Dissection}

/-- A frame tells its link layer and the header behind that. -/
theorem split_of_octets {link : LinkFields} {fields : IpFields} {back : Bytes}
    (same : wrapped.octets = link.octets fields.ethertype ++ (fields.octets ++ back)) :
    wrapped.link = link ∧ wrapped.outer = fields.base ∧ wrapped.rest = fields.options ++ back := by
  rw [octets, ← fields.ethertype_base, fields.octets_eq_base, List.append_assoc] at same
  rcases LinkFields.eq_of_append same with ⟨links, types, behind⟩
  exact ⟨links, IpBase.append_inj types behind⟩

/-- In a dissection of a tunnelled frame, the tunnel is that of the frame. -/
theorem outer_of_octets (whole : wrapped.octets = parts.octets) :
    ∃ tunnel, parts.outer = some tunnel ∧ wrapped.link = parts.link
      ∧ wrapped.outer = tunnel.base
      ∧ wrapped.rest = tunnel.options ++ (parts.inner.octets ++
        (parts.udp.octets ++ parts.message)) := by
  rcases parts with ⟨link, outer, inner, udp, message, carries, carriesUdp⟩
  cases outer with
  | none =>
    -- the first header would be that of the datagram, and not one of a tunnel
    rcases split_of_octets whole with ⟨-, packet, -⟩
    have plain : wrapped.outer.protocol = protocolUdp := by
      rw [packet, IpFields.protocol_base]
      exact carriesUdp
    rcases wrapped.tunnels with four | six
    · exact absurd (four.symm.trans plain) (by decide)
    · exact absurd (six.symm.trans plain) (by decide)
  | some tunnel =>
    rcases split_of_octets whole with ⟨links, base, behind⟩
    exact ⟨tunnel, rfl, links, base, behind⟩

/-- Other ends of the tunnel are a rewrite of its header in the dissection. -/
theorem SameButEnds.octets_eq {other : Wrapped} (same : wrapped.SameButEnds other)
    (whole : wrapped.octets = parts.octets) :
    other.octets = (parts.withOuter (.endsOf other.outer)).octets := by
  rcases outer_of_octets whole with ⟨tunnel, tunnelled, links, base, behind⟩
  have ends : tunnel.base.SameButEnds other.outer := base ▸ same.outer
  have first : parts.first = tunnel := by
    rw [Dissection.first, tunnelled]
    rfl
  rw [Dissection.octets_withOuter _ tunnelled, IpFields.Rewrite.octets_endsOf ends,
    Dissection.linkOctets, first, ← tunnel.ethertype_base, ends.ethertype_eq, ← links, octets,
    ← same.link, ← same.rest, behind, List.append_assoc]

end Wrapped
end Packet
end DnsResponder
