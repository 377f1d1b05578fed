import DnsResponder.Proofs.Packet.Locate

namespace DnsResponder
namespace Packet

/-!
# Exactly the frames with a dissection are located

A frame has at most one dissection.  Each header tells by its own octets how long it is and what
follows it, so two dissections of one frame agree on where every header stands.  Then they agree on
the octets of each header, and the octets of a header determine its fields.

Together with `locate_octets` and `exists_dissection` this makes locating exact: headers are located
in a frame if and only if it is the frame of a dissection, which is then the only one, and everything
that the layout records can be read off it.
-/

/-! ## Octets determine fields -/

theorem Tag.octets_inj {first second : Tag} : first.octets = second.octets ↔ first = second := by
  rcases first with ⟨kind, control, isVlan⟩
  rcases second with ⟨otherKind, otherControl, otherIsVlan⟩
  simp only [octets, Bytes.ofWord_append_inj, Bytes.ofWord_inj, Tag.mk.injEq]

/-- As many tags with the same octets are the same tags. -/
theorem Tag.eq_of_flatMap_octets {first second : List Tag} (count : first.length = second.length)
    (same : first.flatMap octets = second.flatMap octets) : first = second := by
  induction first generalizing second with
  | nil => exact (List.eq_nil_of_length_eq_zero count.symm).symm
  | cons tag rest ih =>
    cases second with
    | nil => cases count
    | cons other others =>
      rw [List.flatMap_cons, List.flatMap_cons] at same
      rcases List.append_inj same rfl with ⟨sameTag, sameRest⟩
      rw [Tag.octets_inj.mp sameTag, ih (Nat.succ.inj count) sameRest]

theorem LinkFields.eq_of_octets {first second : LinkFields} {ethertype other : UInt16}
    (count : first.tags.length = second.tags.length)
    (same : first.octets ethertype = second.octets other) : first = second := by
  rcases first with ⟨receiver, sender, tags, receiverSize, senderSize, few⟩
  rcases second with ⟨otherReceiver, otherSender, others, otherReceiverSize, otherSenderSize, alsoFew⟩
  simp only [octets, tagOctets] at same count
  rcases List.append_inj same (receiverSize.trans otherReceiverSize.symm) with ⟨rfl, behindReceiver⟩
  rcases List.append_inj behindReceiver (senderSize.trans otherSenderSize.symm) with
    ⟨rfl, behindSender⟩
  rcases List.append_inj' behindSender rfl with ⟨sameTags, -⟩
  rcases Tag.eq_of_flatMap_octets count sameTags with rfl
  rfl

theorem Ipv4Base.octets_inj {first second : Ipv4Base} :
    first.octets = second.octets ↔ first = second := by
  rcases first
  rcases second
  simp only [octets, List.cons.injEq, Bytes.ofWord_append_inj, Address.octetsV4_append_inj,
    Address.octetsV4_inj, Ipv4Base.mk.injEq]

theorem Ipv6Base.octets_inj {first second : Ipv6Base} :
    first.octets = second.octets ↔ first = second := by
  rcases first
  rcases second
  simp only [octets, List.cons.injEq, Bytes.ofWord_append_inj, Address.octetsV6_append_inj,
    Address.octetsV6_inj, Ipv6Base.mk.injEq]

/-- Headers of one family with the same octets have the same fields. -/
theorem IpFields.eq_of_octets {first second : IpFields} (family : first.family = second.family)
    (same : first.octets = second.octets) : first = second := by
  cases first with
  | v4 first =>
    cases second with
    | v6 second => cases family
    | v4 second =>
      rcases first with ⟨base, options, version_eq, size_eq, whole⟩
      rcases second with ⟨other, otherOptions, otherVersion_eq, otherSize_eq, otherWhole⟩
      rcases List.append_inj same rfl with ⟨sameBase, rfl⟩
      rcases Ipv4Base.octets_inj.mp sameBase with rfl
      rfl
  | v6 first =>
    cases second with
    | v4 second => cases family
    | v6 second =>
      rcases first with ⟨base, version_eq⟩
      rcases second with ⟨other, otherVersion_eq⟩
      rcases Ipv6Base.octets_inj.mp same with rfl
      rfl

theorem UdpFields.octets_inj {first second : UdpFields} :
    first.octets = second.octets ↔ first = second := by
  rcases first
  rcases second
  simp only [octets, Bytes.ofWord_append_inj, Bytes.ofWord_inj, UdpFields.mk.injEq]

/-! ## One dissection -/

namespace Dissection

variable {first second : Dissection}

/-- In one frame the headers are located in one way, whoever asks for them. -/
theorem layout_eq_of_octets (same : first.octets = second.octets) :
    first.layout = second.layout := by
  have located := locate_octets first first.udp.destination
  rw [if_pos rfl, same, locate_octets] at located
  split at located
  · exact (congrArg Prod.fst (Except.ok.inj located)).symm
  · cases located

theorem outer_eq_of_octets (layout : first.layout = second.layout)
    (same : first.outerOctets = second.outerOctets) : first.outer = second.outer := by
  have headers : first.outer.map (·.header first.link.size) =
      second.outer.map (·.header second.link.size) := congrArg Layout.outer layout
  cases wrapped : first.outer with
  | none =>
    rw [wrapped, Option.map_none] at headers
    exact (Option.map_eq_none_iff.mp headers.symm).symm
  | some outer =>
    rw [wrapped, Option.map_some] at headers
    rcases Option.map_eq_some_iff.mp headers.symm with ⟨other, otherWrapped, header⟩
    have octets : outer.octets = other.octets := by
      simpa only [outerOctets, wrapped, otherWrapped, Option.map_some, Option.getD_some] using same
    rw [otherWrapped, IpFields.eq_of_octets (congrArg IpHeader.family header).symm octets]

/-- A frame has at most one dissection. -/
theorem eq_of_octets (same : first.octets = second.octets) : first = second := by
  have layout := layout_eq_of_octets same
  have linkSize : first.link.size = second.link.size := congrArg Layout.linkSize layout
  have inner : first.inner.header first.innerOffset = second.inner.header second.innerOffset :=
    congrArg Layout.inner layout
  have udp : first.udpOffset = second.udpOffset := congrArg Layout.udp layout
  have innerOffset : first.innerOffset = second.innerOffset := congrArg IpHeader.offset inner
  have innerSize : first.inner.size = second.inner.size := congrArg IpHeader.size inner
  have outerSize : first.outerSize = second.outerSize := by
    simp only [Dissection.innerOffset, linkSize] at innerOffset
    exact Nat.add_left_cancel innerOffset
  have count : first.link.tags.length = second.link.tags.length := by
    simp only [LinkFields.size, LinkFields.typeOffset] at linkSize
    omega
  rcases List.append_inj same (by rw [length_linkOctets, length_linkOctets, linkSize]) with
    ⟨sameLink, behindLink⟩
  rcases List.append_inj behindLink (by rw [length_outerOctets, length_outerOctets, outerSize]) with
    ⟨sameOuter, behindOuter⟩
  rcases List.append_inj behindOuter
    (by rw [IpFields.length_octets, IpFields.length_octets, innerSize]) with
    ⟨sameInner, behindInner⟩
  rcases List.append_inj behindInner rfl with ⟨sameUdp, sameMessage⟩
  have outer := outer_eq_of_octets layout sameOuter
  rcases first with ⟨link, wrapped, packet, datagram, message, carries, carriesUdp⟩
  rcases second with ⟨otherLink, otherWrapped, otherPacket, otherDatagram, otherMessage,
    otherCarries, otherCarriesUdp⟩
  rcases LinkFields.eq_of_octets count sameLink with rfl
  rcases outer with rfl
  rcases IpFields.eq_of_octets (congrArg IpHeader.family inner) sameInner with rfl
  rcases UdpFields.octets_inj.mp sameUdp with rfl
  rcases sameMessage with rfl
  rfl

/-! ## What is recorded -/

/-- What a layout and the cursor beside it record of a dissected frame. -/
structure Records (parts : Dissection) (layout : Layout) (cursor : Cursor) : Prop where
  linkSize : layout.linkSize = 14 + 4 * parts.link.tags.length
  ethertypeOffset : layout.ethertypeOffset = layout.linkSize - 2
  outermost : (layout.outer.getD layout.inner).offset = layout.linkSize
  outer : layout.outer = parts.outer.map (·.header layout.linkSize)
  /-- The inner header starts where the outer one stops. -/
  inner : layout.inner =
    parts.inner.header ((layout.outer.map IpHeader.stop).getD layout.linkSize)
  udp : layout.udp = layout.inner.stop
  dns : layout.dns = layout.udp + 8
  inside : layout.dns ≤ parts.octets.length
  noIpv6InIpv4 : ∀ outer, layout.outer = some outer → outer.family = .v4 →
    layout.inner.family = .v4
  /-- A reply leaves out the header of a tunnel between packets of one family. -/
  stripSize : layout.stripSize =
    match layout.outer with
    | some outer => if outer.family = layout.inner.family then outer.size else 0
    | none => 0
  cursor : cursor =
    { position := layout.dns
      limit := parts.octets.length
      encap := layout.outer.map (·.family)
      payload := some layout.inner.family }

theorem innerOffset_eq_stop (parts : Dissection) :
    parts.innerOffset = (parts.layout.outer.map IpHeader.stop).getD parts.layout.linkSize := by
  cases wrapped : parts.outer with
  | none =>
    rw [innerOffset, outerSize_of_none wrapped, layout_outer_of_none wrapped]
    rfl
  | some outer =>
    rw [innerOffset, outerSize_of_some wrapped, layout_outer_of_some wrapped]
    rfl

/-- The layout and the cursor of a dissection record it. -/
theorem records_layout (parts : Dissection) : parts.Records parts.layout parts.reached where
  linkSize := by
    simp only [layout, LinkFields.size, LinkFields.typeOffset, ethernetAddressSize]
    omega
  ethertypeOffset := rfl
  outermost := by
    cases wrapped : parts.outer with
    | none =>
      rw [layout_outer_of_none wrapped]
      simp only [Option.getD_none, layout, IpFields.header, innerOffset, outerSize_of_none wrapped,
        Nat.add_zero]
    | some outer =>
      rw [layout_outer_of_some wrapped]
      rfl
  outer := rfl
  inner := congrArg parts.inner.header parts.innerOffset_eq_stop
  udp := rfl
  dns := rfl
  inside := by
    rw [length_octets]
    exact Nat.le_add_right ..
  noIpv6InIpv4 := by
    intro header placed four
    rcases Option.map_eq_some_iff.mp placed with ⟨outer, wrapped, rfl⟩
    have carries := parts.carries outer wrapped
    have outerFamily : outer.family = .v4 := four
    rw [IpFields.Carries, outerFamily] at carries
    cases family : parts.inner.family with
    | v4 => exact family
    | v6 =>
      rw [family] at carries
      cases carries
  stripSize := by
    rcases parts with ⟨link, outer, inner, udp, message, carries, carriesUdp⟩
    cases outer with
    | none => rfl
    | some outer =>
      have wraps := carries outer rfl
      cases outer with
      | v4 outer =>
        cases inner with
        | v4 inner => rfl
        | v6 inner => cases wraps
      | v6 outer =>
        cases inner with
        | v4 inner => rfl
        | v6 inner => rfl
  cursor := by
    rw [reached, layout, Option.map_map]
    rfl

/-- There is one layout, and one cursor beside it, that record a dissection. -/
theorem Records.unique {parts : Dissection} {layout other : Layout} {cursor beside : Cursor}
    (records : parts.Records layout cursor) (also : parts.Records other beside) :
    layout = other ∧ cursor = beside := by
  have linkSize : layout.linkSize = other.linkSize := records.linkSize.trans also.linkSize.symm
  have ethertypeOffset : layout.ethertypeOffset = other.ethertypeOffset := by
    rw [records.ethertypeOffset, also.ethertypeOffset, linkSize]
  have outer : layout.outer = other.outer := by rw [records.outer, also.outer, linkSize]
  have inner : layout.inner = other.inner := by rw [records.inner, also.inner, outer, linkSize]
  have udp : layout.udp = other.udp := by rw [records.udp, also.udp, inner]
  have dns : layout.dns = other.dns := by rw [records.dns, also.dns, udp]
  have same : layout = other := by
    cases layout
    cases other
    rw [Layout.mk.injEq]
    exact ⟨linkSize, ethertypeOffset, outer, inner, udp, dns⟩
  exact ⟨same, by rw [records.cursor, also.cursor, same]⟩

end Dissection

/-- Headers are located in exactly the frames with a dissection whose datagram is sent to the port.
There is no other dissection of such a frame, and the layout and the cursor record it. -/
theorem locate_eq_ok_iff {data : Bytes} {port : UInt16} {layout : Layout} {cursor : Cursor} :
    locate data port = .ok (layout, cursor) ↔
      ∃ parts : Dissection, data = parts.octets ∧ parts.udp.destination = port
        ∧ parts.Records layout cursor ∧ ∀ other : Dissection, data = other.octets → other = parts := by
  constructor
  · intro found
    rcases exists_dissection found with ⟨parts, whole, asked, rfl, rfl⟩
    refine ⟨parts, whole, asked, parts.records_layout, ?_⟩
    intro other again
    exact Dissection.eq_of_octets (again.symm.trans whole)
  · rintro ⟨parts, rfl, asked, records, -⟩
    rcases records.unique parts.records_layout with ⟨rfl, rfl⟩
    rw [locate_octets, if_pos asked]

end Packet
end DnsResponder
