import DnsResponder.Proofs.Frame.Cursor
import DnsResponder.Proofs.Packet.Dissection
import DnsResponder.Proofs.Refusal

namespace DnsResponder
namespace Packet

/-!
# Locating headers finds the dissection

`locate` goes down a frame check by check.  Here it is compared with dissections, which know nothing
of the order of the checks.  In the frame of a dissection the headers are located where its layout
says, and every frame in which headers are located is the frame of some dissection with that layout.
-/

/-! ## Tags -/

namespace Tag

/-- The type word in front of the tags: the kind of the first one, or the final ethertype. -/
def announced (final : UInt16) : List Tag → UInt16
  | [] => final
  | tag :: _ => tag.kind

/-- What follows that word, up to and including the final ethertype. -/
def follow (final : UInt16) : List Tag → Bytes
  | [] => []
  | tag :: rest => Bytes.ofWord tag.control ++ Bytes.ofWord (announced final rest) ++ follow final rest

/-- Tags are written as pairs of a kind and a control word, and read as pairs of a control word and
the kind of what follows. -/
theorem flatMap_octets (final : UInt16) (tags : List Tag) :
    tags.flatMap octets ++ Bytes.ofWord final =
      Bytes.ofWord (announced final tags) ++ follow final tags := by
  induction tags with
  | nil => simp only [List.flatMap_nil, List.nil_append, announced, follow, List.append_nil]
  | cons tag rest ih =>
    rw [List.flatMap_cons, List.append_assoc, ih, octets, announced, follow]
    simp only [List.append_assoc]

theorem isVlan_announced (tag : Tag) (final : UInt16) (rest : List Tag) (offset : Nat) :
    (Ethertype.mk (announced final (tag :: rest)) offset).isVlan = true := by
  rcases tag.isVlan with customer | service
  · simp only [Ethertype.isVlan, announced, customer, beq_self_eq_true, Bool.true_or]
  · simp only [Ethertype.isVlan, announced, service, beq_self_eq_true, Bool.or_true]

end Tag

variable {data rest : Bytes} {cursor next : Cursor}

theorem word_ofTag (offset : Nat) (control kind : UInt16)
    (whole : (Bytes.ofWord control ++ Bytes.ofWord kind).length = Header.vlan.size) :
    (⟨offset, Bytes.ofWord control ++ Bytes.ofWord kind, whole⟩ : View .vlan).word 2 = kind :=
  Bytes.word_octets kind

theorem skipTags_eq (final : UInt16) (tags : List Tag) (room offset : Nat)
    (plain : (Ethertype.mk final (offset + 4 * tags.length)).isVlan = false)
    (few : tags.length ≤ room) (stands : cursor.Before data (Tag.follow final tags ++ rest))
    (behind : cursor.position = offset + 2) :
    skipTags data room ⟨Tag.announced final tags, offset⟩ cursor =
        .ok (⟨final, offset + 4 * tags.length⟩, cursor.after (4 * tags.length))
      ∧ (cursor.after (4 * tags.length)).Before data rest := by
  induction tags generalizing room offset cursor with
  | nil =>
    refine ⟨?_, stands.after rfl⟩
    cases room with
    | zero => rfl
    | succ room =>
      have noTag : ¬ (Ethertype.mk (Tag.announced final []) offset).isVlan = true :=
        Bool.eq_false_iff.mp plain
      rw [skipTags, if_neg noTag]
      rfl
  | cons tag tags ih =>
    cases room with
    | zero => exact absurd few (Nat.not_succ_le_zero _)
    | succ room =>
      have shape : Tag.follow final (tag :: tags) ++ rest =
          (Bytes.ofWord tag.control ++ Bytes.ofWord (Tag.announced final tags))
            ++ (Tag.follow final tags ++ rest) := by
        simp only [Tag.follow, List.append_assoc]
      rw [shape] at stands
      have whole : (Bytes.ofWord tag.control ++ Bytes.ofWord (Tag.announced final tags)).length
          = Header.vlan.size := rfl
      have further : offset + 4 + 4 * tags.length = offset + 4 * (tag :: tags).length := by
        rw [List.length_cons]
        omega
      have standsBehind := stands.after whole
      have inner := ih room (offset + 4) (further ▸ plain) (Nat.le_of_succ_le_succ few)
        standsBehind (by simp only [Cursor.after, Header.size, behind])
      have moved : (cursor.after Header.vlan.size).after (4 * tags.length) =
          cursor.after (4 * (tag :: tags).length) := by
        simp only [Cursor.after, Header.size, List.length_cons]
        congr 1
        omega
      rw [moved, further] at inner
      refine ⟨?_, inner.2⟩
      rw [skipTags, if_pos (Tag.isVlan_announced tag final tags offset), stands.read_eq whole]
      simp only [Stop.ofReading, bind, Except.bind, word_ofTag, behind]
      exact inner.1

theorem of_skipTags (room : Nat) (found ethertype : Ethertype)
    (stands : cursor.Before data rest)
    (skipped : skipTags data room found cursor = .ok (ethertype, next)) :
    ∃ tags back, tags.length ≤ room ∧ found.value = Tag.announced ethertype.value tags
      ∧ rest = Tag.follow ethertype.value tags ++ back
      ∧ next.Before data back := by
  induction room generalizing found cursor rest with
  | zero =>
    cases skipped
    exact ⟨[], rest, Nat.le_refl 0, rfl, rfl, stands⟩
  | succ room ih =>
    rw [skipTags] at skipped
    split at skipped
    · next vlan =>
      rcases bind_eq_ok_iff.mp skipped with ⟨⟨view, passed⟩, read, skippedMore⟩
      rcases stands.of_read (Stop.ofReading_eq_ok_iff.mp read) with
        ⟨back, split, -, -, standsBehind⟩
      rcases view with ⟨offset, octets, whole⟩
      rcases Bytes.exists_word 2 octets whole with ⟨control, afterControl, rfl, left2⟩
      rcases Bytes.exists_word 0 afterControl left2 with ⟨kind, nothing, rfl, left0⟩
      rcases List.eq_nil_of_length_eq_zero left0 with rfl
      rcases ih _ standsBehind skippedMore with ⟨tags, remaining, few, same, cut, standsThere⟩
      have isVlan : found.value = ethertypeVlan ∨ found.value = ethertypeServiceVlan := by
        simpa only [Ethertype.isVlan, Bool.or_eq_true, beq_iff_eq] using vlan
      refine ⟨⟨found.value, control, isVlan⟩ :: tags, remaining, Nat.succ_le_succ few, rfl, ?_,
        standsThere⟩
      have kindEq : kind = Tag.announced ethertype.value tags := by
        rw [← same]
        exact (Bytes.word_octets kind).symm
      rw [split, cut, kindEq, Tag.follow]
      simp only [List.append_nil, List.append_assoc]
    · cases skipped
      exact ⟨[], rest, Nat.zero_le _, rfl, rfl, stands⟩

/-! ## IP headers -/

/-- What the checks on an IPv4 header look at. -/
theorem octet_version_v4 (base : Ipv4Base) (offset : Nat) :
    (⟨offset, base.octets, base.length_octets⟩ : View .ipv4).octet 0 = base.versionAndSize := rfl

theorem word_fragment (base : Ipv4Base) (offset : Nat) :
    (⟨offset, base.octets, base.length_octets⟩ : View .ipv4).word 6 = base.fragment :=
  Bytes.word_octets base.fragment

theorem octet_protocol_v4 (base : Ipv4Base) (offset : Nat) :
    (⟨offset, base.octets, base.length_octets⟩ : View .ipv4).octet 9 = base.protocol := rfl

/-- What the checks on an IPv6 header look at. -/
theorem octet_version_v6 (base : Ipv6Base) (offset : Nat) :
    (⟨offset, base.octets, base.length_octets⟩ : View .ipv6).octet 0 = base.versionAndClass := rfl

theorem octet_protocol_v6 (base : Ipv6Base) (offset : Nat) :
    (⟨offset, base.octets, base.length_octets⟩ : View .ipv6).octet 6 = base.protocol := rfl

theorem readIpv4_eq (fields : Ipv4Fields) (stands : cursor.Before data (fields.octets ++ rest)) :
    readIpv4 data cursor = .ok ((IpFields.v4 fields).header cursor.position, fields.protocol,
      cursor.after (IpFields.v4 fields).size) := by
  rw [Ipv4Fields.octets, List.append_assoc] at stands
  have long : ¬ ipv4HeaderSize fields.versionAndSize < Header.ipv4.size := by
    rw [fields.size_eq]
    exact Nat.not_lt_of_le (Nat.le_add_right ..)
  have extra := Stop.difference_eq fields.size_eq
  have skipped := (stands.after fields.toIpv4Base.length_octets).skip_eq rfl
  simp only [readIpv4, stands.read_eq fields.toIpv4Base.length_octets, Stop.ofReading, bind,
    Except.bind, octet_version_v4, word_fragment, octet_protocol_v4, fields.version_eq, fields.whole,
    long, extra, skipped, ne_eq, not_true_eq_false, if_false]
  rw [fields.size_eq]
  simp only [IpFields.header, IpFields.family, IpFields.size, Cursor.after, Nat.add_assoc]
  rfl

theorem of_readIpv4 {header : IpHeader} {protocol : UInt8} (stands : cursor.Before data rest)
    (found : readIpv4 data cursor = .ok (header, protocol, next)) :
    ∃ fields : Ipv4Fields, ∃ back, rest = fields.octets ++ back ∧ protocol = fields.protocol
      ∧ next.Before data back := by
  rcases bind_eq_ok_iff.mp found with ⟨⟨view, passed⟩, read, checked⟩
  rcases stands.of_read (Stop.ofReading_eq_ok_iff.mp read) with
    ⟨afterBase, split, -, -, standsBehind⟩
  rcases view with ⟨offset, octets, whole⟩
  rcases Ipv4Base.exists_of_length octets whole with ⟨base, rfl⟩
  simp only [octet_version_v4, word_fragment, octet_protocol_v4] at checked
  split at checked
  · cases checked
  · next version =>
    split at checked
    · cases checked
    · next long =>
      split at checked
      · cases checked
      · next unbroken =>
        rcases bind_eq_ok_iff.mp checked with ⟨optionsSize, taken, skipped⟩
        rcases bind_eq_ok_iff.mp skipped with ⟨⟨⟨⟩, reached⟩, skip, returned⟩
        rcases standsBehind.of_skip (Stop.ofReading_eq_ok_iff.mp skip) with
          ⟨options, back, cut, rfl, -, standsThere⟩
        cases returned
        refine ⟨{ base with
          options
          version_eq := Decidable.not_not.mp version
          size_eq := Stop.difference_eq_ok_iff.mp taken
          whole := Decidable.not_not.mp unbroken }, back, ?_, rfl, standsThere⟩
        rw [split, cut, Ipv4Fields.octets, List.append_assoc]

theorem readIpv6_eq (fields : Ipv6Fields)
    (stands : cursor.Before data (fields.toIpv6Base.octets ++ rest)) :
    readIpv6 data cursor = .ok ((IpFields.v6 fields).header cursor.position, fields.protocol,
      cursor.after (IpFields.v6 fields).size) := by
  simp only [readIpv6, stands.read_eq fields.toIpv6Base.length_octets, Stop.ofReading, bind,
    Except.bind, octet_version_v6, octet_protocol_v6, fields.version_eq, ne_eq, not_true_eq_false,
    if_false]
  rfl

theorem of_readIpv6 {header : IpHeader} {protocol : UInt8} (stands : cursor.Before data rest)
    (found : readIpv6 data cursor = .ok (header, protocol, next)) :
    ∃ fields : Ipv6Fields, ∃ back, rest = fields.toIpv6Base.octets ++ back
      ∧ protocol = fields.protocol ∧ next.Before data back := by
  rcases bind_eq_ok_iff.mp found with ⟨⟨view, passed⟩, read, checked⟩
  rcases stands.of_read (Stop.ofReading_eq_ok_iff.mp read) with ⟨back, split, -, -, standsBehind⟩
  rcases view with ⟨offset, octets, whole⟩
  rcases Ipv6Base.exists_of_length octets whole with ⟨base, rfl⟩
  by_cases six : version base.versionAndClass = 6
  · simp only [octet_version_v6, octet_protocol_v6, six, ne_eq, not_true_eq_false,
      if_false] at checked
    cases checked
    exact ⟨{ base with version_eq := six }, back, split, rfl, standsBehind⟩
  · simp only [octet_version_v6, six, ne_eq, not_false_eq_true, if_true] at checked
    cases checked

theorem readFirstIp_eq (fields : IpFields) (stands : cursor.Before data (fields.octets ++ rest)) :
    readFirstIp data fields.ethertype cursor = .ok (fields.header cursor.position, fields.protocol,
      cursor.after fields.size) := by
  cases fields with
  | v4 fields => exact (if_pos rfl).trans (readIpv4_eq fields stands)
  | v6 fields =>
    have other : ¬ ethertypeIpv6 = ethertypeIpv4 := by decide
    exact (if_neg other).trans ((if_pos rfl).trans (readIpv6_eq fields stands))

/-- What is passed over as the first header is one, and its ethertype announced it. -/
theorem of_readFirstIp {ethertype : UInt16} {header : IpHeader} {protocol : UInt8}
    (stands : cursor.Before data rest)
    (found : readFirstIp data ethertype cursor = .ok (header, protocol, next)) :
    ∃ fields : IpFields, ∃ back, rest = fields.octets ++ back ∧ ethertype = fields.ethertype
      ∧ protocol = fields.protocol ∧ next.Before data back := by
  rw [readFirstIp] at found
  split at found
  · next four =>
    rcases of_readIpv4 stands found with ⟨fields, back, cut, same, standsThere⟩
    exact ⟨.v4 fields, back, cut, four, same, standsThere⟩
  · split at found
    · next six =>
      rcases of_readIpv6 stands found with ⟨fields, back, cut, same, standsThere⟩
      exact ⟨.v6 fields, back, cut, six, same, standsThere⟩
    · cases found

/-! ## Tunnels -/

theorem enterTunnel_eq {tunnel inner : IpFields} (carries : tunnel.Carries inner) {outer : IpHeader}
    (same : outer.family = tunnel.family) (stands : cursor.Before data (inner.octets ++ rest)) :
    enterTunnel data outer tunnel.protocol cursor = .ok (some outer, inner.header cursor.position,
      inner.protocol, cursor.after inner.size) := by
  have fourNotUdp : ¬ protocolIpv4 = protocolUdp := by decide
  have sixNotUdp : ¬ protocolIpv6 = protocolUdp := by decide
  have sixNotFour : ¬ protocolIpv6 = protocolIpv4 := by decide
  cases inner with
  | v4 fields =>
    have four : tunnel.protocol = protocolIpv4 := by
      cases tunnel <;> exact (Option.some.inj carries).symm
    simp only [enterTunnel, four, if_neg fourNotUdp, if_true, readIpv4_eq fields stands]
    rfl
  | v6 fields =>
    cases tunnel with
    | v4 wrong => cases carries
    | v6 wrapping =>
      have six : (IpFields.v6 wrapping).protocol = protocolIpv6 := (Option.some.inj carries).symm
      simp only [enterTunnel, six, if_neg sixNotUdp, if_neg sixNotFour, if_true, same,
        readIpv6_eq fields stands, IpFields.family]
      rfl

/-- A packet that is no tunnel is not entered, and one that is carries what its protocol says. -/
theorem of_enterTunnel {tunnel : IpFields} {offset : Nat} {outer : Option IpHeader}
    {inner : IpHeader} {protocol : UInt8} (stands : cursor.Before data rest)
    (found : enterTunnel data (tunnel.header offset) tunnel.protocol cursor =
      .ok (outer, inner, protocol, next)) :
    (outer = none ∧ protocol = protocolUdp ∧ tunnel.protocol = protocolUdp
        ∧ next.Before data rest) ∨
      ∃ fields : IpFields, ∃ back, outer.isSome ∧ tunnel.Carries fields
        ∧ rest = fields.octets ++ back ∧ protocol = fields.protocol ∧ next.Before data back := by
  rw [enterTunnel] at found
  split at found
  · next udp =>
    cases found
    exact .inl ⟨rfl, udp, udp, stands⟩
  · split at found
    · next four =>
      rcases map_eq_ok_iff.mp found with ⟨reading, read, nested⟩
      cases nested
      rcases of_readIpv4 stands read with ⟨fields, back, cut, same, standsThere⟩
      refine .inr ⟨.v4 fields, back, rfl, ?_, cut, same, standsThere⟩
      cases tunnel <;> exact congrArg some four.symm
    · split at found
      · next six =>
        cases tunnel with
        | v4 wrapping => cases found
        | v6 wrapping =>
          rcases map_eq_ok_iff.mp found with ⟨reading, read, nested⟩
          cases nested
          rcases of_readIpv6 stands read with ⟨fields, back, cut, same, standsThere⟩
          exact .inr ⟨.v6 fields, back, rfl, congrArg some six.symm, cut, same, standsThere⟩
      · cases found

/-! ## Whole frames -/

/-- The cursor as it is left in front of a message. -/
def Dissection.reached (parts : Dissection) : Cursor where
  position := parts.messageOffset
  limit := parts.octets.length
  encap := parts.outer.map IpFields.family
  payload := some parts.inner.family

theorem isVlan_ethertype (fields : IpFields) (offset : Nat) :
    (Ethertype.mk fields.ethertype offset).isVlan = false := by
  cases fields <;> rfl

/-- The first header is read and the tunnel, if it is one, entered. -/
theorem nesting_eq (parts : Dissection)
    (stands : cursor.Before data (parts.outerOctets ++ (parts.inner.octets ++ rest))) :
    ∃ header protocol passed,
      readFirstIp data parts.first.ethertype cursor = .ok (header, protocol, passed)
      ∧ enterTunnel data header protocol passed =
          .ok (parts.outer.map (·.header cursor.position),
            parts.inner.header (cursor.position + parts.outerSize), protocolUdp,
            cursor.after (parts.outerSize + parts.inner.size))
      ∧ (cursor.after (parts.outerSize + parts.inner.size)).Before data rest := by
  cases wrapped : parts.outer with
  | none =>
    have plain : parts.first = parts.inner := by rw [Dissection.first, wrapped]; rfl
    have nothing : parts.outerOctets = [] := by rw [Dissection.outerOctets, wrapped]; rfl
    have noSize := Dissection.outerSize_of_none wrapped
    rw [nothing, List.nil_append] at stands
    rw [plain, noSize, Nat.zero_add, Nat.add_zero]
    refine ⟨_, _, _, readFirstIp_eq _ stands, ?_, stands.after parts.inner.length_octets⟩
    rw [parts.carriesUdp]
    rfl
  | some tunnel =>
    have whole : parts.first = tunnel := by rw [Dissection.first, wrapped]; rfl
    have octets : parts.outerOctets = tunnel.octets := by rw [Dissection.outerOctets, wrapped]; rfl
    have size := Dissection.outerSize_of_some wrapped
    rw [octets] at stands
    rw [whole, size]
    have standsInside := stands.after tunnel.length_octets
    have sameFamily : (tunnel.header cursor.position).family = tunnel.family := rfl
    have entered := enterTunnel_eq (parts.carries tunnel wrapped) sameFamily standsInside
    have behind : (cursor.after tunnel.size).after parts.inner.size =
        cursor.after (tunnel.size + parts.inner.size) := by
      simp only [Cursor.after, Nat.add_assoc]
    rw [behind, parts.carriesUdp] at entered
    exact ⟨_, _, _, readFirstIp_eq _ stands, entered,
      behind ▸ standsInside.after parts.inner.length_octets⟩

theorem word_port (fields : UdpFields) (offset : Nat) :
    (⟨offset, fields.octets, fields.length_octets⟩ : View .udp).word 2 = fields.destination :=
  Bytes.word_octets fields.destination

/-- The octets of a frame as they are read: an Ethernet header with the type that stands first, then
the rest of the tags. -/
theorem Dissection.octets_eq_tagged (parts : Dissection) :
    parts.octets =
      (parts.link.receiver ++ (parts.link.sender ++
          Bytes.ofWord (Tag.announced parts.first.ethertype parts.link.tags))) ++
        (Tag.follow parts.first.ethertype parts.link.tags ++
          (parts.outerOctets ++ (parts.inner.octets ++ (parts.udp.octets ++ parts.message)))) := by
  have tagged := Tag.flatMap_octets parts.first.ethertype parts.link.tags
  simp only [Dissection.octets, Dissection.linkOctets, LinkFields.octets, LinkFields.tagOctets,
    List.append_assoc]
  rw [← List.append_assoc (List.flatMap _ _), tagged, List.append_assoc]

/-- In the frame of a dissection the headers are located where the layout says, for whoever asks for
the port that the datagram is sent to. -/
theorem locate_octets (parts : Dissection) (port : UInt16) :
    locate parts.octets port =
      if parts.udp.destination = port then .ok (parts.layout, parts.reached)
      else .error (.refused (.packet (.otherPort parts.udp.destination))) := by
  obtain ⟨ethernet, shape⟩ : ∃ ethernet, ethernet = parts.link.receiver ++ (parts.link.sender ++
      Bytes.ofWord (Tag.announced parts.first.ethertype parts.link.tags)) := ⟨_, rfl⟩
  have whole : ethernet.length = Header.ethernet.size := by
    simp only [shape, List.length_append, parts.link.receiver_size, parts.link.sender_size,
      Bytes.length_ofWord, ethernetAddressSize, Header.size]
  have stands : (Cursor.new parts.octets).Before parts.octets (ethernet ++
      (Tag.follow parts.first.ethertype parts.link.tags ++
        (parts.outerOctets ++ (parts.inner.octets ++ (parts.udp.octets ++ parts.message))))) := by
    rw [shape, ← parts.octets_eq_tagged]
    exact Cursor.before_new parts.octets
  have announced : (⟨0, ethernet, whole⟩ : View .ethernet).word firstEthertypeOffset =
      Tag.announced parts.first.ethertype parts.link.tags := by
    have behind : ethernet = (parts.link.receiver ++ parts.link.sender) ++
        (Bytes.ofWord (Tag.announced parts.first.ethertype parts.link.tags) ++ []) := by
      simp only [shape, List.append_assoc, List.append_nil]
    refine View.word_of_split _ behind ?_ _
    · simp only [List.length_append, parts.link.receiver_size, parts.link.sender_size,
        ethernetAddressSize, firstEthertypeOffset]
  rcases skipTags_eq parts.first.ethertype parts.link.tags
    maxVlanTags firstEthertypeOffset (isVlan_ethertype _ _) parts.link.tags_le
    (stands.after whole) rfl with ⟨skipped, standsBehindTags⟩
  have linkSize : 0 + Header.ethernet.size + 4 * parts.link.tags.length = parts.link.size := by
    simp only [Header.size, LinkFields.size, LinkFields.typeOffset, ethernetAddressSize]
    omega
  have atPacket : ((Cursor.new parts.octets).after Header.ethernet.size).after
      (4 * parts.link.tags.length) = { position := parts.link.size, limit := parts.octets.length } := by
    simp only [Cursor.after, Cursor.new, linkSize]
  have ethertypeOffset : firstEthertypeOffset + 4 * parts.link.tags.length =
      parts.link.typeOffset := by
    simp only [firstEthertypeOffset, LinkFields.typeOffset, ethernetAddressSize]
  rw [atPacket, ethertypeOffset] at skipped
  rw [atPacket] at standsBehindTags
  rcases nesting_eq parts standsBehindTags with
    ⟨header, protocol, passed, read, entered, standsAtUdp⟩
  have readUdp := standsAtUdp.read_eq parts.udp.length_octets
  have readEthernet : (Cursor.new parts.octets).read parts.octets .ethernet =
      .ok ⟨0, ethernet, whole⟩ ((Cursor.new parts.octets).after Header.ethernet.size) :=
    stands.read_eq whole
  simp only [locate, readEthernet, announced, skipped, read, entered, readUdp, word_port,
    requireUdp, Stop.ofReading, Stop.ofRefusal, bind, Except.bind, pure, Except.pure, throw,
    throwThe, MonadExceptOf.throw, if_true]
  by_cases asked : parts.udp.destination = port
  · rw [if_neg (not_not_intro asked), if_pos asked]
    simp only [Cursor.after, Option.map_map, ← Nat.add_assoc]
    rfl
  · rw [if_pos asked, if_neg asked]

/-- What is read as an Ethernet header and its tags is the link layer of the frame. -/
theorem of_link {view : View .ethernet} {atPacket : Cursor} {ethertype : Ethertype}
    (read : (Cursor.new data).read data .ethernet = .ok view next)
    (skipped : skipTags data maxVlanTags ⟨view.word firstEthertypeOffset, firstEthertypeOffset⟩
      next = .ok (ethertype, atPacket)) :
    ∃ link : LinkFields, ∃ back, data = link.octets ethertype.value ++ back
      ∧ atPacket.Before data back := by
  rcases (Cursor.before_new data).of_read read with
    ⟨behindEthernet, cutEthernet, -, -, standsAtTags⟩
  rcases view with ⟨offset, octets, whole⟩
  rcases Bytes.exists_part ethernetAddressSize 8 octets whole with
    ⟨receiver, afterReceiver, rfl, receiverSize, left8⟩
  rcases Bytes.exists_part ethernetAddressSize 2 afterReceiver left8 with
    ⟨sender, afterSender, rfl, senderSize, left2⟩
  rcases Bytes.exists_word 0 afterSender left2 with ⟨type, nothing, rfl, left0⟩
  rcases List.eq_nil_of_length_eq_zero left0 with rfl
  rcases of_skipTags maxVlanTags _ ethertype standsAtTags skipped with
    ⟨tags, behindTags, few, announced, cutTags, standsAtPacket⟩
  have typeEq : type = Tag.announced ethertype.value tags := by
    rw [← announced]
    have behind : receiver ++ (sender ++ (Bytes.ofWord type ++ [])) =
        (receiver ++ sender) ++ (Bytes.ofWord type ++ []) := (List.append_assoc ..).symm
    refine (View.word_of_split _ behind ?_ _).symm
    · simp only [List.length_append, receiverSize, senderSize, ethernetAddressSize,
        firstEthertypeOffset]
  subst typeEq
  refine ⟨⟨receiver, sender, tags, receiverSize, senderSize, few⟩, behindTags, ?_, standsAtPacket⟩
  rw [cutEthernet, cutTags]
  simp only [LinkFields.octets, LinkFields.tagOctets, Tag.flatMap_octets, List.append_assoc,
    List.nil_append]

/-- What is read as one header or two is a packet with UDP in it, perhaps in a tunnel. -/
theorem of_nesting {ethertype : UInt16} {header inner : IpHeader} {outer : Option IpHeader}
    {protocol carried : UInt8} {atUdp : Cursor} (stands : cursor.Before data rest)
    (read : readFirstIp data ethertype cursor = .ok (header, protocol, next))
    (entered : enterTunnel data header protocol next = .ok (outer, inner, carried, atUdp))
    (required : requireUdp outer carried = .ok ()) :
    ∃ (tunnel : Option IpFields) (packet : IpFields) (back : Bytes),
      rest = (tunnel.map IpFields.octets).getD [] ++ (packet.octets ++ back)
      ∧ ethertype = (tunnel.getD packet).ethertype
      ∧ (∀ wrapping, tunnel = some wrapping → wrapping.Carries packet)
      ∧ packet.protocol = protocolUdp ∧ atUdp.Before data back := by
  rcases of_readFirstIp stands read with ⟨first, behindFirst, cutFirst, typeOfFirst, -, -⟩
  subst cutFirst typeOfFirst
  rw [readFirstIp_eq first stands] at read
  cases read
  have udp : carried = protocolUdp := by
    rw [requireUdp] at required
    split at required
    · next udp => exact udp
    · split at required <;> cases required
  rcases of_enterTunnel (stands.after first.length_octets) entered with
    ⟨-, -, direct, standsAtUdp⟩ | ⟨packet, back, -, carries, cutPacket, same, standsAtUdp⟩
  · refine ⟨none, first, behindFirst, rfl, rfl, ?_, direct, standsAtUdp⟩
    intro wrapping impossible
    cases impossible
  · refine ⟨some first, packet, back, congrArg (first.octets ++ ·) cutPacket, rfl, ?_,
      same.symm.trans udp, standsAtUdp⟩
    intro wrapping chosen
    exact Option.some.inj chosen ▸ carries

/-- Every frame in which headers are located is the frame of a dissection, and the headers are where
its layout says. -/
theorem exists_dissection {port : UInt16} {layout : Layout}
    (found : locate data port = .ok (layout, cursor)) :
    ∃ parts : Dissection, data = parts.octets ∧ parts.udp.destination = port
      ∧ layout = parts.layout ∧ cursor = parts.reached := by
  suffices exists_parts : ∃ parts : Dissection, data = parts.octets by
    rcases exists_parts with ⟨parts, rfl⟩
    rw [locate_octets] at found
    split at found
    · next asked =>
      cases found
      exact ⟨parts, rfl, asked, rfl, rfl⟩
    · cases found
  rcases bind_eq_ok_iff.mp found with ⟨⟨ethernet, atTags⟩, readEthernet, found⟩
  rcases bind_eq_ok_iff.mp found with ⟨⟨ethertype, atPacket⟩, skipped, found⟩
  rcases bind_eq_ok_iff.mp found with ⟨⟨header, protocol, atTunnel⟩, readFirst, found⟩
  rcases bind_eq_ok_iff.mp found with ⟨⟨outer, inner, carried, atUdp⟩, entered, found⟩
  rcases bind_eq_ok_iff.mp found with ⟨⟨⟩, required, found⟩
  rcases bind_eq_ok_iff.mp found with ⟨⟨view, atMessage⟩, readUdp, -⟩
  rcases of_link (Stop.ofReading_eq_ok_iff.mp readEthernet) skipped with
    ⟨link, behindLink, cutLink, standsAtPacket⟩
  rcases of_nesting standsAtPacket readFirst entered (Stop.ofRefusal_eq_ok_iff.mp required) with
    ⟨tunnel, packet, behindPacket, cutPacket, type, carries, carriesUdp, standsAtUdp⟩
  rcases standsAtUdp.of_read (Stop.ofReading_eq_ok_iff.mp readUdp) with ⟨message, cutUdp, -, -, -⟩
  rcases UdpFields.exists_of_length view.octets view.size_eq with ⟨udp, fields⟩
  refine ⟨⟨link, tunnel, packet, udp, message, carries, carriesUdp⟩, ?_⟩
  rw [cutLink, cutPacket, cutUdp, fields, type]
  rfl

/-! ## Refusals -/

section Refusals

variable (data : Bytes) (cursor : Cursor)

theorem stopsOnlyFor_skipTags (room : Nat) (found : Ethertype) :
    StopsOnlyFor Stop.OfHeaders (skipTags data room found cursor) := by
  induction room generalizing found cursor with
  | zero => exact stopsOnlyFor_ok (found, cursor)
  | succ room ih =>
    rw [skipTags]
    split
    · exact (stopsOnlyFor_ofReading _ fun _ => rfl).bind fun tag _ => ih tag.2 _
    · exact stopsOnlyFor_ok (found, cursor)

/-- The check on the size comes before the options are counted. -/
theorem stopsOnlyFor_readIpv4 : StopsOnlyFor Stop.OfHeaders (readIpv4 data cursor) := by
  refine (stopsOnlyFor_ofReading _ fun _ => rfl).bind fun ⟨ip, passed⟩ _ => ?_
  dsimp only
  split
  · exact stopsOnlyFor_error rfl
  · split
    · exact stopsOnlyFor_error rfl
    · next long =>
      split
      · exact stopsOnlyFor_error rfl
      · refine (stopsOnlyFor_difference (Nat.le_of_not_lt long)).bind fun optionsSize _ => ?_
        refine (stopsOnlyFor_ofReading _ fun _ => rfl).bind fun skipped _ => ?_
        exact stopsOnlyFor_ok _

theorem stopsOnlyFor_readIpv6 : StopsOnlyFor Stop.OfHeaders (readIpv6 data cursor) := by
  refine (stopsOnlyFor_ofReading _ fun _ => rfl).bind fun ⟨ip, passed⟩ _ => ?_
  dsimp only
  split
  · exact stopsOnlyFor_error rfl
  · exact stopsOnlyFor_ok _

theorem stopsOnlyFor_readFirstIp (ethertype : UInt16) :
    StopsOnlyFor Stop.OfHeaders (readFirstIp data ethertype cursor) := by
  rw [readFirstIp]
  split
  · exact stopsOnlyFor_readIpv4 data cursor
  · split
    · exact stopsOnlyFor_readIpv6 data cursor
    · exact stopsOnlyFor_error rfl

theorem stopsOnlyFor_enterTunnel (first : IpHeader) (protocol : UInt8) :
    StopsOnlyFor Stop.OfHeaders (enterTunnel data first protocol cursor) := by
  rw [enterTunnel]
  split
  · exact stopsOnlyFor_ok _
  · split
    · exact (stopsOnlyFor_readIpv4 data cursor).map _
    · split
      · cases first.family with
        | v4 => exact stopsOnlyFor_error trivial
        | v6 => exact (stopsOnlyFor_readIpv6 data cursor).map _
      · exact stopsOnlyFor_error rfl

theorem stopsOnlyFor_requireUdp (outer : Option IpHeader) (protocol : UInt8) :
    StopsOnlyFor Refusal.OfHeaders (requireUdp outer protocol) := by
  rw [requireUdp]
  split
  · exact stopsOnlyFor_ok _
  · split
    · exact stopsOnlyFor_error trivial
    · exact stopsOnlyFor_error rfl

/-- Headers are refused for what they are, and never for the message or a reply; and nothing outside
the frame is looked at on the way down. -/
theorem stopsOnlyFor_locate (port : UInt16) : StopsOnlyFor Stop.OfHeaders (locate data port) := by
  refine (stopsOnlyFor_ofReading _ fun _ => rfl).bind fun ⟨ethernet, atTags⟩ _ => ?_
  refine (stopsOnlyFor_skipTags _ _ _ _).bind fun ⟨ethertype, atPacket⟩ _ => ?_
  refine (stopsOnlyFor_readFirstIp _ _ _).bind fun ⟨header, protocol, atTunnel⟩ _ => ?_
  refine (stopsOnlyFor_enterTunnel _ _ _ _).bind fun ⟨outer, inner, carried, atUdp⟩ _ => ?_
  refine (StopsOnlyFor.ofRefusal (stopsOnlyFor_requireUdp _ _)).bind fun _ _ => ?_
  refine (stopsOnlyFor_ofReading _ fun _ => rfl).bind fun ⟨udp, atMessage⟩ _ => ?_
  dsimp only
  split
  · exact stopsOnlyFor_error rfl
  · exact stopsOnlyFor_ok _

end Refusals

end Packet
end DnsResponder
