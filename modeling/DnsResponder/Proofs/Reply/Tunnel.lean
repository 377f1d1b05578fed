import DnsResponder.Proofs.Packet.Wrapping

namespace DnsResponder
namespace Packet

/-!
# What the header of a tunnel does to a reply

The header of a tunnel is left out of a reply or turned around in it, and nothing else that the reply
holds is made from it.  So a rewrite of the header moves no other header of the reply and changes no
field of another one, neither a length nor a checksum.  If only the ends of the tunnel are rewritten,
then what differs in the reply are the ends of a tunnel that stays.
-/

namespace Dissection

variable (parts : Dissection) (change : IpFields.Rewrite)

/-! ## Which tunnels stay -/

theorem keptOuter_withOuter :
    (parts.withOuter change).keptOuter = parts.keptOuter.map change.apply := by
  rcases parts with ⟨link, outer, inner, udp, message, carries, carriesUdp⟩
  cases outer with
  | none => rfl
  | some tunnel =>
    have family := change.family_eq tunnel
    cases rewritten : change.apply tunnel with
    | v4 changed =>
      rw [rewritten] at family
      cases tunnel with
      | v4 tunnel => simp only [keptOuter, withOuter, Option.map_some, Option.map_none, rewritten]
      | v6 tunnel => cases family
    | v6 changed =>
      rw [rewritten] at family
      cases tunnel with
      | v4 tunnel => cases family
      | v6 tunnel =>
        cases inner with
        | v4 packet => simp only [keptOuter, withOuter, Option.map_some, rewritten]
        | v6 packet => simp only [keptOuter, withOuter, Option.map_some, Option.map_none, rewritten]

/-! ## What does not depend on it -/

/-- The checksum of a datagram is made from the datagram and the header of its packet. -/
theorem udp_datagramChecksummed {first second : Dissection} (inner : first.inner = second.inner)
    (udp : first.udp = second.udp) (message : first.message = second.message)
    (settings : Settings) :
    (first.datagramChecksummed settings).udp = (second.datagramChecksummed settings).udp := by
  have family : first.layout.inner.family = second.layout.inner.family :=
    congrArg IpFields.family inner
  have summed : Reply.isChecksummed first.layout settings =
      Reply.isChecksummed second.layout settings := by
    rw [Reply.isChecksummed, Reply.isChecksummed, family]
  rw [datagramChecksummed, datagramChecksummed, summed]
  split
  · simp only [withUdp, inner, udp, message]
  · exact udp

variable (querySize : Nat) (response : Dns.Response) (settings : Settings)

theorem udp_reply_withOuter :
    ((parts.withOuter change).reply querySize response settings).udp =
      (parts.reply querySize response settings).udp := by
  rw [reply, reply]
  apply udp_datagramChecksummed
  · rfl
  · rfl
  · rfl

theorem inner_reply_withOuter :
    ((parts.withOuter change).reply querySize response settings).inner =
      (parts.reply querySize response settings).inner := by
  rw [inner_reply_eq, inner_reply_eq]
  rfl

theorem message_reply_withOuter :
    ((parts.withOuter change).reply querySize response settings).message =
      (parts.reply querySize response settings).message := by
  rw [message_reply, message_reply]
  rfl

theorem linkOctets_reply_withOuter :
    ((parts.withOuter change).reply querySize response settings).linkOctets =
      (parts.reply querySize response settings).linkOctets := by
  have links : ((parts.withOuter change).reply querySize response settings).link =
      (parts.reply querySize response settings).link := by
    rcases parts.reply_parts querySize response settings with ⟨sum, same⟩
    rcases (parts.withOuter change).reply_parts querySize response settings with ⟨also, other⟩
    rw [same, other]
    rfl
  have types : ((parts.withOuter change).reply querySize response settings).first.ethertype =
      (parts.reply querySize response settings).first.ethertype := by
    rw [ethertype_reply, ethertype_reply, layout_withOuter, ethertype_withOuter]
    rfl
  rw [linkOctets, linkOctets, links, types]

/-- The packet that carries the datagram, on the wire. -/
def packet (parts : Dissection) : Bytes :=
  parts.inner.octets ++ (parts.udp.octets ++ parts.message)

/-- The reply to a frame with another tunnel, around the header of that tunnel. -/
theorem octets_reply_withOuter :
    ((parts.withOuter change).reply querySize response settings).octets =
      (parts.reply querySize response settings).linkOctets ++
        (((parts.withOuter change).reply querySize response settings).outerOctets ++
          (parts.reply querySize response settings).packet) := by
  rw [octets, linkOctets_reply_withOuter, inner_reply_withOuter, udp_reply_withOuter,
    message_reply_withOuter, packet]

end Dissection

/-! ## Other ends -/

namespace Ipv6Base

/-- The addresses of a header, which are its last octets. -/
def ends (base : Ipv6Base) : Bytes :=
  Address.octetsV6 base.source ++ Address.octetsV6 base.destination

theorem octets_eq_ends (base : Ipv6Base) : base.octets = base.beforeAddresses ++ base.ends := by
  rw [octets_eq_addresses, List.append_nil, ends]

theorem length_ends (base : Ipv6Base) : base.ends.length = 32 := by
  rw [ends, List.length_append, length_octetsV6, length_octetsV6]

theorem length_beforeAddresses (base : Ipv6Base) : base.beforeAddresses.length = 8 := rfl

end Ipv6Base

namespace Dissection

variable {parts : Dissection} (querySize : Nat) (response : Dns.Response) (settings : Settings)

theorem outerOctets_reply_of_none (left : parts.keptOuter = none) :
    (parts.reply querySize response settings).outerOctets = [] := by
  rw [outerOctets, outer_reply_eq, left]
  rfl

/-- A tunnel that stays has the same header with and without other ends, but for its addresses. -/
theorem outer_reply_endsOf (other : IpBase) {tunnel : Ipv6Fields}
    (kept : parts.keptOuter = some (.v6 tunnel)) :
    ∃ first second : Ipv6Fields,
      (parts.reply querySize response settings).outer = some (.v6 first)
      ∧ ((parts.withOuter (.endsOf other)).reply querySize response settings).outer =
          some (.v6 second)
      ∧ first.beforeAddresses = second.beforeAddresses := by
  rw [outer_reply_eq, outer_reply_eq, keptOuter_withOuter, kept]
  cases other with
  | v4 base => exact ⟨_, _, rfl, rfl, rfl⟩
  | v6 base => exact ⟨_, _, rfl, rfl, rfl⟩

theorem outerOctets_of_v6 {fields : Ipv6Fields} (wrapped : parts.outer = some (.v6 fields)) :
    parts.outerOctets = fields.beforeAddresses ++ fields.ends := by
  rw [outerOctets, wrapped]
  exact fields.octets_eq_ends

/-- With other ends, the reply has other octets where the addresses of its tunnel stand. -/
theorem octets_reply_endsOf (other : IpBase) {tunnel : Ipv6Fields}
    (kept : parts.keptOuter = some (.v6 tunnel)) :
    ∃ front ends others back : Bytes,
      (parts.reply querySize response settings).octets = front ++ (ends ++ back)
      ∧ ((parts.withOuter (.endsOf other)).reply querySize response settings).octets =
          front ++ (others ++ back)
      ∧ front.length = parts.link.size + 8 ∧ ends.length = 32 ∧ others.length = 32 := by
  rcases outer_reply_endsOf querySize response settings other kept with
    ⟨first, second, here, there, same⟩
  have start : (parts.reply querySize response settings).linkOctets.length = parts.link.size :=
    (length_linkOctets _).trans
      (congrArg Layout.linkSize (parts.layout_reply querySize response settings))
  refine ⟨(parts.reply querySize response settings).linkOctets ++ first.beforeAddresses,
    first.ends, second.ends, (parts.reply querySize response settings).packet, ?_, ?_, ?_,
    first.length_ends, second.length_ends⟩
  · rw [octets, outerOctets_of_v6 here, packet]
    simp only [List.append_assoc]
  · rw [octets_reply_withOuter, outerOctets_of_v6 there, ← same]
    simp only [List.append_assoc]
  · rw [List.length_append, start, first.length_beforeAddresses]

/-- Where the replies to frames whose tunnels have other ends differ, there are the ends of a tunnel
that stays. -/
theorem kept_of_differs (other : IpBase) {place : Nat}
    (differs : (parts.reply querySize response settings).octets[place]? ≠
      ((parts.withOuter (.endsOf other)).reply querySize response settings).octets[place]?) :
    ∃ header, parts.layout.outer = some header ∧ parts.layout.stripSize = 0
      ∧ header.sourceOffset ≤ place ∧ place < header.destinationOffset + header.addressSize := by
  cases kept : parts.keptOuter with
  | none =>
    have alsoNone : (parts.withOuter (.endsOf other)).keptOuter = none := by
      rw [keptOuter_withOuter, kept]
      rfl
    rw [octets_reply_withOuter, outerOctets_reply_of_none _ _ _ alsoNone,
      ← outerOctets_reply_of_none querySize response settings kept] at differs
    exact absurd rfl differs
  | some tunnel =>
    rcases of_keptOuter kept with ⟨⟨fields, rfl⟩, wrapped, nothing⟩
    rcases octets_reply_endsOf querySize response settings other kept with
      ⟨front, ends, others, back, here, there, start, size, otherSize⟩
    have inside : ¬ (place < front.length ∨ front.length + ends.length ≤ place) := by
      intro outside
      rw [here, there] at differs
      exact differs (Bytes.getElem?_around (size.trans otherSize.symm) outside)
    rw [start, size] at inside
    refine ⟨_, layout_outer_of_some wrapped, nothing, ?_, ?_⟩
    · show parts.link.size + 8 ≤ place
      omega
    · show place < parts.link.size + 24 + 16
      omega

end Dissection
end Packet

namespace Reply

open Packet

/-- A reply needs no more and no less room for another header of the tunnel. -/
theorem fits_withOuter {parts : Dissection} (change : IpFields.Rewrite)
    {tailroom querySize replySize : Nat} {settings : Settings} :
    Fits (parts.withOuter change) tailroom querySize replySize settings ↔
      Fits parts tailroom querySize replySize settings := by
  have summed : isChecksummed (parts.withOuter change).layout settings =
      isChecksummed parts.layout settings := by
    rw [parts.layout_withOuter]
  have tunnels : (∀ outer, (parts.withOuter change).keptOuter = some outer → outer.size
      + parts.inner.size + Header.udp.size + messageSize querySize replySize ≤ maxLengthField) ↔
      ∀ outer, parts.keptOuter = some outer → outer.size
        + parts.inner.size + Header.udp.size + messageSize querySize replySize ≤ maxLengthField := by
    rw [parts.keptOuter_withOuter]
    cases parts.keptOuter with
    | none => simp only [Option.map_none, reduceCtorEq, false_implies, implies_true]
    | some tunnel => simp only [Option.map_some, Option.some.injEq, forall_eq', change.size_eq]
  constructor
  · intro fits
    exact ⟨fits.starts, fits.covers, fits.room, fits.datagram, summed ▸ fits.checksum, fits.packet,
      tunnels.mp fits.tunnel⟩
  · intro fits
    exact ⟨fits.starts, fits.covers, fits.room, fits.datagram, summed ▸ fits.checksum, fits.packet,
      tunnels.mpr fits.tunnel⟩

end Reply
end DnsResponder
