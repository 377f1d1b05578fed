import DnsResponder.Proofs.Packet.Fields
import DnsResponder.Proofs.Reply.Plan

namespace DnsResponder
namespace Packet

/-!
# The frame of a reply

A reply changes the frame of its query part by part: the tunnel that is left out, the message, the
lengths, the ends, the checksums.  Each of these changes is a function on dissections, and the reply
is their composition, `Dissection.reply`.  None of them but the first moves a header, so the layout
of the reply is that of the query without its tunnel.

Nothing here knows in which order octets are written, or that a reply is written over its query.
-/

namespace Dissection

variable (parts : Dissection)

def withMessage (message : Bytes) : Dissection :=
  { parts with message }

def withUdp (udp : UdpFields) : Dissection :=
  { parts with udp }

/-- The frame with its Ethernet addresses exchanged. -/
def withLinkExchanged : Dissection :=
  { parts with link := parts.link.exchanged }

/-- Octets of the datagram. -/
def datagramSize : Nat :=
  Header.udp.size + parts.message.length

/-- The frame with the length of its datagram right and without a UDP checksum. -/
def withDatagramSize : Dissection :=
  parts.withUdp { parts.udp with
    datagramSize := UInt16.ofNat parts.datagramSize
    checksum := 0 }

def sized : Dissection :=
  (parts.withDatagramSize.withInner (.sized parts.datagramSize)).withOuter
    (.sized (parts.inner.size + parts.datagramSize))

/-- The frame with source and destination exchanged at every layer. -/
def exchanged : Dissection :=
  ((parts.withLinkExchanged.withOuter .exchanged).withInner .exchanged).withUdp parts.udp.exchanged

/-- The frame with the checksum of the datagram, if the reply carries a computed one. -/
def datagramChecksummed (settings : Settings) : Dissection :=
  if Reply.isChecksummed parts.layout settings then
    parts.withUdp { parts.udp with
      checksum := (Checksum.udp parts.inner.source.octets parts.inner.destination.octets
        (parts.udp.octets ++ parts.message)).getD parts.udp.checksum }
  else parts

/-- The octets of the question, and of all others if so many are counted. -/
def questionOctets (querySize : Nat) : Bytes :=
  (parts.message.drop Header.dns.size).take querySize

/-- The message of a reply: a new header, the question as it came, and the answer section. -/
def answer (querySize : Nat) (response : Dns.Response) : Bytes :=
  response.header.encode ++ (parts.questionOctets querySize ++ response.answerSection)

/-- The reply before its datagram has a checksum. -/
def replyUnsummed (querySize : Nat) (response : Dns.Response) (tunnelReturn : TunnelReturn) :
    Dissection :=
  ((parts.unwrapped.withMessage (parts.answer querySize response)).sized.exchanged.withOuter
    (.returned tunnelReturn)).withInner .checksummed

def reply (querySize : Nat) (response : Dns.Response) (settings : Settings) : Dissection :=
  (parts.replyUnsummed querySize response settings.tunnelReturn).datagramChecksummed settings

/-! ## Where the changes stand -/

@[simp]
theorem layout_withUdp (udp : UdpFields) : (parts.withUdp udp).layout = parts.layout := rfl

@[simp]
theorem layout_withMessage (message : Bytes) :
    (parts.withMessage message).layout = parts.layout := rfl

@[simp]
theorem layout_withLinkExchanged : parts.withLinkExchanged.layout = parts.layout := rfl

@[simp]
theorem layout_sized : parts.sized.layout = parts.layout := by
  rw [sized, layout_withOuter, layout_withInner, withDatagramSize, layout_withUdp]

@[simp]
theorem layout_exchanged : parts.exchanged.layout = parts.layout := by
  rw [exchanged, layout_withUdp, layout_withInner, layout_withOuter, layout_withLinkExchanged]

@[simp]
theorem layout_datagramChecksummed (settings : Settings) :
    (parts.datagramChecksummed settings).layout = parts.layout := by
  rw [datagramChecksummed]
  split
  · exact parts.layout_withUdp _
  · rfl

/-- The headers of a reply stand where those of its query do once the tunnel is left out. -/
@[simp]
theorem layout_reply (querySize : Nat) (response : Dns.Response) (settings : Settings) :
    (parts.reply querySize response settings).layout = parts.unwrapped.layout := by
  rw [reply, layout_datagramChecksummed, replyUnsummed, layout_withInner, layout_withOuter,
    layout_exchanged, layout_sized, layout_withMessage]

/-! ## What the changes leave -/

theorem datagramChecksummed_eq (settings : Settings) :
    ∃ sum, parts.datagramChecksummed settings =
      parts.withUdp { parts.udp with checksum := sum } := by
  rw [datagramChecksummed]
  split
  · exact ⟨_, rfl⟩
  · exact ⟨parts.udp.checksum, rfl⟩

theorem datagramChecksummed_keeps (settings : Settings) :
    (parts.datagramChecksummed settings).inner = parts.inner
      ∧ (parts.datagramChecksummed settings).message = parts.message := by
  rcases parts.datagramChecksummed_eq settings with ⟨sum, same⟩
  rw [same]
  exact ⟨rfl, rfl⟩

theorem reply_parts (querySize : Nat) (response : Dns.Response) (settings : Settings) :
    ∃ sum, parts.reply querySize response settings =
      (parts.replyUnsummed querySize response settings.tunnelReturn).withUdp
        { source := parts.udp.destination
          destination := parts.udp.source
          datagramSize := UInt16.ofNat (Header.udp.size + (parts.answer querySize response).length)
          checksum := sum } :=
  datagramChecksummed_eq (parts.replyUnsummed querySize response settings.tunnelReturn) settings

/-- The header of a reply's packet, from that of its query. -/
theorem inner_reply_eq (querySize : Nat) (response : Dns.Response) (settings : Settings) :
    (parts.reply querySize response settings).inner =
      IpFields.Rewrite.checksummed.apply (IpFields.Rewrite.exchanged.apply
        ((IpFields.Rewrite.sized
          (Header.udp.size + (parts.answer querySize response).length)).apply parts.inner)) := by
  rcases parts.reply_parts querySize response settings with ⟨sum, same⟩
  rw [same]
  rfl

/-- The header of the tunnel that stays, from that of the query. -/
theorem outer_reply_eq (querySize : Nat) (response : Dns.Response) (settings : Settings) :
    (parts.reply querySize response settings).outer =
      parts.keptOuter.map fun outer =>
        (IpFields.Rewrite.returned settings.tunnelReturn).apply (IpFields.Rewrite.exchanged.apply
          ((IpFields.Rewrite.sized (parts.inner.size
            + (Header.udp.size + (parts.answer querySize response).length))).apply outer)) := by
  rcases parts.reply_parts querySize response settings with ⟨sum, same⟩
  rw [same]
  have whole : ((parts.replyUnsummed querySize response settings.tunnelReturn).outer) =
      ((parts.keptOuter.map (IpFields.Rewrite.sized (parts.inner.size
        + (Header.udp.size + (parts.answer querySize response).length))).apply).map
          IpFields.Rewrite.exchanged.apply).map
            (IpFields.Rewrite.returned settings.tunnelReturn).apply := rfl
  rw [Option.map_map, Option.map_map] at whole
  exact whole

theorem ethertype_sized : parts.sized.first.ethertype = parts.first.ethertype := by
  rw [sized, ethertype_withOuter, ethertype_withInner]
  rfl

theorem ethertype_exchanged : parts.exchanged.first.ethertype = parts.first.ethertype :=
  (ethertype_withInner _ .exchanged).trans (ethertype_withOuter _ .exchanged)

/-- The ethertype of a reply names what its Ethernet header carries. -/
theorem ethertype_reply (querySize : Nat) (response : Dns.Response) (settings : Settings) :
    (parts.reply querySize response settings).first.ethertype =
      if parts.layout.stripSize = 0 then parts.first.ethertype else parts.inner.ethertype := by
  have kept : (parts.reply querySize response settings).first.ethertype =
      parts.unwrapped.first.ethertype := by
    rcases parts.reply_parts querySize response settings with ⟨sum, same⟩
    have unsummed : (parts.replyUnsummed querySize response
        settings.tunnelReturn).first.ethertype = parts.unwrapped.first.ethertype := by
      rw [replyUnsummed, ethertype_withInner, ethertype_withOuter, ethertype_exchanged,
        ethertype_sized]
      rfl
    rw [same]
    exact unsummed
  rw [kept]
  rcases parts.unwrapped_cases with ⟨same, nothing⟩ | ⟨tunnel, -, -, gone, size⟩
  · rw [same, if_pos nothing]
  · have some : parts.layout.stripSize ≠ 0 := by
      rw [size]
      cases tunnel <;> simp only [IpFields.size, Header.size] <;> omega
    rw [if_neg some, first, gone]
    rfl

theorem message_reply (querySize : Nat) (response : Dns.Response) (settings : Settings) :
    (parts.reply querySize response settings).message = parts.answer querySize response := by
  rcases parts.reply_parts querySize response settings with ⟨sum, same⟩
  rw [same]
  rfl

theorem octets_reply (querySize : Nat) (response : Dns.Response) (settings : Settings) :
    ∃ headers : Bytes, headers.length = parts.unwrapped.messageOffset
      ∧ (parts.reply querySize response settings).octets =
        headers ++ parts.answer querySize response := by
  have offset : (parts.reply querySize response settings).messageOffset =
      parts.unwrapped.messageOffset :=
    congrArg Layout.dns (parts.layout_reply querySize response settings)
  refine ⟨(parts.reply querySize response settings).headers, ?_, ?_⟩
  · rw [length_headers, offset]
  · rw [split_message, message_reply]

theorem questionOctets_eq (querySize : Nat) :
    parts.questionOctets querySize =
      (parts.octets.drop (parts.messageOffset + Header.dns.size)).take querySize := by
  rw [questionOctets, parts.split_message, ← List.drop_drop, List.drop_left' parts.length_headers]

variable {parts}

theorem patch_udp {udp : UdpFields} {within : Nat} {octets : Bytes}
    (written : parts.udp.octets.patch? within octets = some udp.octets) :
    parts.octets.patch? (parts.udpOffset + within) octets = some (parts.withUdp udp).octets :=
  (Bytes.patch?_inside parts.split_udp parts.length_before_udp written).trans
    (congrArg some (split_udp (parts.withUdp udp)).symm)

theorem octets_withInner (change : IpFields.Rewrite) :
    (parts.withInner change).octets = (parts.linkOctets ++ parts.outerOctets) ++
      ((change.apply parts.inner).octets ++ (parts.udp.octets ++ parts.message)) := by
  rw [split_inner, linkOctets_withInner]
  rfl

/-- The frame whose tunnel header is rewritten, around that header. -/
theorem octets_withOuter {outer : IpFields} (change : IpFields.Rewrite)
    (wrapped : parts.outer = some outer) :
    (parts.withOuter change).octets = parts.linkOctets ++ ((change.apply outer).octets ++
      (parts.inner.octets ++ (parts.udp.octets ++ parts.message))) := by
  have rewritten : (parts.withOuter change).outer = some (change.apply outer) :=
    congrArg (Option.map _) wrapped
  rw [split_outer _ rewritten, linkOctets_withOuter]
  rfl

/-- Another far end of an IPv6 tunnel is a write over the old one. -/
theorem patch_returned {fields : Ipv6Fields} (wrapped : parts.outer = some (.v6 fields))
    (address : BitVec 128) :
    parts.octets.patch? ((IpFields.v6 fields).header parts.link.size).destinationOffset
        (Address.octetsV6 address) =
      some (parts.withOuter (.returned (.endpoint address))).octets := by
  rw [octets_withOuter _ wrapped]
  exact Bytes.patch?_inside (parts.split_outer wrapped) parts.length_linkOctets
    (fields.toIpv6Base.patch_destination address)

/-- Nothing is rewritten where there is no tunnel. -/
theorem withOuter_of_none (change : IpFields.Rewrite) (direct : parts.outer = none) :
    parts.withOuter change = parts := by
  rcases parts with ⟨link, outer, inner, udp, message, carries, carriesUdp⟩
  subst direct
  rfl

end Dissection
end Packet
end DnsResponder
