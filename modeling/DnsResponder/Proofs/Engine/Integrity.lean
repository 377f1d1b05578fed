import DnsResponder.Proofs.Checksum.Datagram
import DnsResponder.Proofs.Engine.Envelope

namespace DnsResponder
namespace Engine

open Packet

/-!
# Lengths and checksums of a reply

What a receiver checks before it reads the message is right in every reply: each length field
reaches from where it counts to the end of the frame, and the IPv4 header and the datagram have the
one's-complement sum of all ones together with their checksums.

The length fields have 16 bits.  They hold the lengths because a reply that fits keeps each of its
packets below the limit.  The checksums are computed last, over the octets that go out: over lengths
that are new, addresses that are exchanged, and a checksum field that was set to zero.
-/

/-! ## Length fields -/

section Lengths

/-- The length field of an IP header. -/
def lengthField : IpFields → UInt16
  | .v4 packet => packet.packetSize
  | .v6 packet => packet.payloadSize

/-- The offset from which the length field of a header counts: IPv4 counts from the start of its
header, IPv6 from its end. -/
def countedFrom (fields : IpFields) (offset : Nat) : Nat :=
  match fields with
  | .v4 _ => offset
  | .v6 _ => offset + Header.ipv6.size

/-- The length field of the header at an offset reaches up to where the frame stops. -/
def Reaches (fields : IpFields) (offset stop : Nat) : Prop :=
  countedFrom fields offset + (lengthField fields).toNat = stop

theorem toNat_size {size : Nat} (fits : size ≤ Reply.maxLengthField) :
    (UInt16.ofNat size).toNat = size := by
  rw [Reply.maxLengthField] at fits
  rw [UInt16.toNat_ofNat', Nat.mod_eq_of_lt (by omega)]

variable {offset stop : Nat}

theorem reaches_sized (fields : IpFields) {behind : Nat}
    (fits : fields.size + behind ≤ Reply.maxLengthField) :
    Reaches ((IpFields.Rewrite.sized behind).apply fields) offset
      (offset + (fields.size + behind)) := by
  cases fields with
  | v4 fields =>
    have size : (UInt16.ofNat (fields.octets.length + behind)).toNat =
        (IpFields.v4 fields).size + behind := by
      rw [fields.length_octets]
      exact toNat_size fits
    exact congrArg (offset + ·) size
  | v6 fields =>
    have size : (UInt16.ofNat behind).toNat = behind :=
      toNat_size (Nat.le_trans (Nat.le_add_left ..) fits)
    exact (congrArg (offset + Header.ipv6.size + ·) size).trans (Nat.add_assoc ..)

theorem Reaches.exchanged {fields : IpFields} (reaches : Reaches fields offset stop) :
    Reaches (IpFields.Rewrite.exchanged.apply fields) offset stop := by
  cases fields <;> exact reaches

theorem Reaches.returned {fields : IpFields} (tunnelReturn : TunnelReturn)
    (reaches : Reaches fields offset stop) :
    Reaches ((IpFields.Rewrite.returned tunnelReturn).apply fields) offset stop := by
  cases fields <;> exact reaches

theorem Reaches.checksummed {fields : IpFields} (reaches : Reaches fields offset stop) :
    Reaches (IpFields.Rewrite.checksummed.apply fields) offset stop := by
  cases fields <;> exact reaches

/-- Every length field of a frame reaches up to its end. -/
structure Measured (parts : Dissection) : Prop where
  datagram : parts.udpOffset + parts.udp.datagramSize.toNat = parts.octets.length
  packet : Reaches parts.inner parts.innerOffset parts.octets.length
  tunnel : ∀ outer, parts.outer = some outer → Reaches outer parts.link.size parts.octets.length

variable (parts : Dissection) (querySize : Nat) (response : Dns.Response) (settings : Settings)

theorem addresses_reply :
    (parts.reply querySize response settings).inner.source = parts.inner.destination
      ∧ (parts.reply querySize response settings).inner.destination = parts.inner.source := by
  rw [parts.inner_reply_eq]
  cases parts.inner <;> exact ⟨rfl, rfl⟩

variable {parts querySize response settings} {tailroom : Nat}

theorem size_inner_reply :
    (parts.reply querySize response settings).inner.size = parts.inner.size := by
  rw [parts.inner_reply_eq, IpFields.Rewrite.size_eq, IpFields.Rewrite.size_eq,
    IpFields.Rewrite.size_eq]

section Fitting

variable (fits : Reply.Fits parts tailroom querySize response.answerSection.length settings)

include fits

/-- The octets of a reply, from the header of its packet on. -/
theorem length_reply :
    (parts.reply querySize response settings).octets.length =
      (parts.reply querySize response settings).innerOffset + (parts.inner.size
        + (Header.udp.size + Reply.messageSize querySize response.answerSection.length)) := by
  rw [Dissection.length_octets, Dissection.messageOffset, Dissection.udpOffset, parts.message_reply,
    Reply.length_answer response fits.starts, size_inner_reply, Nat.add_assoc, Nat.add_assoc]

theorem datagram_reply :
    (parts.reply querySize response settings).udpOffset
        + (parts.reply querySize response settings).udp.datagramSize.toNat =
      (parts.reply querySize response settings).octets.length := by
  have field : (parts.reply querySize response settings).udp.datagramSize =
      UInt16.ofNat (Header.udp.size + (parts.answer querySize response).length) := by
    rcases parts.reply_parts querySize response settings with ⟨sum, same⟩
    rw [same]
    rfl
  rw [field, Reply.length_answer response fits.starts, toNat_size fits.datagram, length_reply fits,
    Dissection.udpOffset, size_inner_reply, Nat.add_assoc]

theorem packet_reply :
    Reaches (parts.reply querySize response settings).inner
      (parts.reply querySize response settings).innerOffset
      (parts.reply querySize response settings).octets.length := by
  have packetFits := fits.packet
  rw [Nat.add_assoc] at packetFits
  rw [length_reply fits, parts.inner_reply_eq, Reply.length_answer response fits.starts]
  exact ((reaches_sized parts.inner packetFits).exchanged).checksummed

theorem tunnel_reply {outer : IpFields}
    (kept : (parts.reply querySize response settings).outer = some outer) :
    Reaches outer (parts.reply querySize response settings).link.size
      (parts.reply querySize response settings).octets.length := by
  have wrapped := Dissection.outerSize_of_some kept
  rw [parts.outer_reply_eq, Reply.length_answer response fits.starts] at kept
  rcases Option.map_eq_some_iff.mp kept with ⟨before, keptBefore, rfl⟩
  have tunnelFits := fits.tunnel before keptBefore
  rw [Nat.add_assoc, Nat.add_assoc] at tunnelFits
  rw [IpFields.Rewrite.size_eq, IpFields.Rewrite.size_eq, IpFields.Rewrite.size_eq] at wrapped
  rw [length_reply fits, Dissection.innerOffset, wrapped, Nat.add_assoc]
  exact ((reaches_sized before tunnelFits).exchanged).returned _

/-- The length fields of a reply that fits are right. -/
theorem measured_reply : Measured (parts.reply querySize response settings) :=
  ⟨datagram_reply fits, packet_reply fits, fun _ kept => tunnel_reply fits kept⟩

end Fitting

end Lengths

/-! ## Checksums -/

section Sums

/-- What the checksum of a datagram covers besides the datagram: the addresses of its packet, its
size and its protocol. -/
def pseudoHeader (fields : IpFields) (size : Nat) : Bytes :=
  fields.source.octets ++ (fields.destination.octets ++ sizeAndProtocol fields.family size)

theorem length_addresses (fields : IpFields) :
    fields.source.octets.length = fields.family.addressSize
      ∧ fields.destination.octets.length = fields.family.addressSize := by
  rw [Address.length_octets, Address.length_octets]
  cases fields <;> exact ⟨rfl, rfl⟩

/-- The checksums of a frame, under settings for the UDP checksum over IPv4.  An IPv4 header and a
datagram that carries a checksum have the one's-complement sum of all ones. -/
structure Summed (settings : Settings) (parts : Dissection) : Prop where
  header : ∀ packet, parts.inner = .v4 packet → Checksum.onesSum packet.octets = 0xFFFF
  datagram : parts.inner.family = .v6 ∨ settings.udp4Checksum = .compute →
    parts.udp.checksum ≠ 0
      ∧ Checksum.onesSum (pseudoHeader parts.inner parts.datagramSize ++
        (parts.udp.octets ++ parts.message)) = 0xFFFF
  unsummed : parts.inner.family = .v4 → settings.udp4Checksum = .zero → parts.udp.checksum = 0

theorem onesSum_checksummed (fields : IpFields) {packet : Ipv4Fields}
    (summed : IpFields.Rewrite.checksummed.apply fields = .v4 packet) :
    Checksum.onesSum packet.octets = 0xFFFF := by
  cases fields with
  | v6 fields => cases summed
  | v4 fields =>
    rcases Reply.ipv4Header_eq fields with ⟨sum, found⟩
    have same : packet = { fields with checksum := sum } := by
      rw [← IpFields.v4.inj summed, found]
      rfl
    rw [fields.octets_eq_checksum] at found
    rw [same, Ipv4Fields.octets_eq_checksum]
    exact Checksum.onesSum_of_ipv4Header rfl found

/-- A datagram whose checksum is computed while its field is zero adds up with it. -/
theorem summed_datagramChecksummed {parts : Dissection} {settings : Settings}
    (zero : parts.udp.checksum = 0)
    (summed : Reply.isChecksummed parts.layout settings = true)
    (below : parts.datagramSize ≤ Checksum.maxDatagramSize) :
    (parts.datagramChecksummed settings).udp.checksum ≠ 0
      ∧ Checksum.onesSum (pseudoHeader parts.inner parts.datagramSize ++
        ((parts.datagramChecksummed settings).udp.octets ++ parts.message)) = 0xFFFF := by
  have front : parts.udp.beforeChecksum.length = 6 := rfl
  have size : (parts.udp.octets ++ parts.message).length = parts.datagramSize := by
    rw [List.length_append, UdpFields.length_octets, Dissection.datagramSize]
  rcases Reply.udp_eq parts.inner.source.octets parts.inner.destination.octets
    (Nat.le_trans (Nat.le_of_eq size) below) with ⟨sum, found⟩
  have checksummed : (parts.datagramChecksummed settings).udp =
      { parts.udp with checksum := sum } := by
    rw [Dissection.datagramChecksummed, if_pos summed, found]
    rfl
  -- the sum was taken over a field that counts as zero, and is right with the checksum in its place
  rw [UdpFields.octets_append, zero] at found
  have behind : parts.udp.beforeChecksum.length + 2 + parts.message.length = parts.datagramSize := by
    rw [front, Dissection.datagramSize]
    rfl
  have split : { parts.udp with checksum := sum }.octets ++ parts.message =
      parts.udp.beforeChecksum ++ (Bytes.ofWord sum ++ parts.message) :=
    UdpFields.octets_append _ _
  have whole := Checksum.onesSum_of_udp (length_addresses parts.inner) (by rw [front]) found
  rw [behind] at whole
  rw [checksummed, split]
  exact whole

/-- The checksums of a reply that fits are right. -/
theorem summed_reply {parts : Dissection} {querySize tailroom : Nat} {response : Dns.Response}
    {settings : Settings}
    (fits : Reply.Fits parts tailroom querySize response.answerSection.length settings) :
    Summed settings (parts.reply querySize response settings) := by
  obtain ⟨unsummed, shown⟩ : ∃ unsummed,
      unsummed = parts.replyUnsummed querySize response settings.tunnelReturn := ⟨_, rfl⟩
  have reply : parts.reply querySize response settings = unsummed.datagramChecksummed settings :=
    congrArg (Dissection.datagramChecksummed · settings) shown.symm
  have zero : unsummed.udp.checksum = 0 := by
    rw [shown]
    rfl
  have size : unsummed.datagramSize =
      Header.udp.size + Reply.messageSize querySize response.answerSection.length := by
    rw [← Reply.length_answer response fits.starts, shown]
    rfl
  rcases unsummed.datagramChecksummed_keeps settings with ⟨keptInner, keptMessage⟩
  have inner := parts.inner_reply_eq querySize response settings
  rw [reply, keptInner] at inner
  have family : unsummed.inner.family = parts.inner.family := by
    rw [inner, IpFields.Rewrite.family_eq, IpFields.Rewrite.family_eq, IpFields.Rewrite.family_eq]
  rw [reply]
  refine ⟨?_, ?_, ?_⟩
  · intro packet carried
    rw [keptInner, inner] at carried
    exact onesSum_checksummed _ carried
  · intro carried
    rw [keptInner] at carried
    have summed := (Reply.isChecksummed_iff unsummed settings).mpr carried
    rw [family] at carried
    have below := fits.checksum ((Reply.isChecksummed_iff parts settings).mpr carried)
    rw [← size] at below
    rw [Dissection.datagramSize, keptInner, keptMessage]
    exact summed_datagramChecksummed zero summed below
  · intro carried omitted
    rw [keptInner] at carried
    have without : ¬ Reply.isChecksummed unsummed.layout settings = true := by
      rw [Reply.isChecksummed_iff, carried, omitted]
      decide
    rw [Dissection.datagramChecksummed, if_neg without]
    exact zero

end Sums

/-! ## Transmitted frames -/

/-- In the frame that a responder sends, every length field reaches up to the end of the frame, and
the checksums are right over what stands there: the addresses are those of the query, exchanged. -/
theorem sums_of_sent {responder after : Responder} {moment : Moment} {frame sent : Frame}
    {log left : Log}
    (transmitted : responder.process moment frame log = (.transmit, sent, after, left)) :
    ∃ (parts reply : Dissection) (cursor again : Cursor),
      locate frame.octets responder.settings.dnsPort = .ok (parts.layout, cursor)
      ∧ frame.octets = parts.octets
      ∧ locate sent.octets reply.udp.destination = .ok (reply.layout, again)
      ∧ sent.octets = reply.octets
      ∧ reply.inner.source = parts.inner.destination
      ∧ reply.inner.destination = parts.inner.source
      ∧ Measured reply ∧ Summed responder.settings reply := by
  rcases asks_of_sent transmitted with ⟨parts, query, question, answer, asks, fits, rfl⟩
  obtain ⟨response, composed⟩ : ∃ response,
      response = responseFor responder.settings frame.octets parts query question answer := ⟨_, rfl⟩
  rw [ReplyFits, ← composed] at fits
  rw [← composed]
  have addresses := addresses_reply parts question.consumed response responder.settings
  refine ⟨parts, parts.reply question.consumed response responder.settings, parts.reached,
    (parts.reply question.consumed response responder.settings).reached, ?_, asks.whole, ?_, rfl,
    addresses.1, addresses.2, measured_reply fits, summed_reply fits⟩
  · rw [asks.whole, locate_octets, if_pos asks.port]
  · exact (locate_octets _ _).trans (if_pos rfl)

/-- A responder that sums its datagrams over IPv4 too, for the network and the name of the
specimen. -/
def Specimen.summing : Responder :=
  { Specimen.responder with settings := { udp4Checksum := .compute } }

/-- Its reply to the specimen carries a checksum, and the datagram adds up with it. -/
theorem specimen_sums_up :
    ∃ (sent : Frame) (after : Responder) (left : Log) (reply : Dissection),
      Specimen.summing.process ⟨0, 0, 0⟩ ⟨[8, 9], Specimen.parts.octets, List.replicate 16 7⟩
        { processId := "1" } = (.transmit, sent, after, left)
      ∧ sent.octets = reply.octets ∧ reply.udp.checksum ≠ 0
      ∧ Checksum.onesSum (pseudoHeader reply.inner reply.datagramSize ++
        (reply.udp.octets ++ reply.message)) = 0xFFFF := by
  have action : (Specimen.summing.process ⟨0, 0, 0⟩
      ⟨[8, 9], Specimen.parts.octets, List.replicate 16 7⟩ { processId := "1" }).1 = .transmit := by
    decide +kernel
  rcases sums_of_sent (Prod.ext action rfl) with
    ⟨parts, reply, cursor, again, -, -, -, octets, -, -, -, sums⟩
  rcases sums.datagram (.inr rfl) with ⟨nonzero, whole⟩
  exact ⟨_, _, _, reply, Prod.ext action rfl, octets, nonzero, whole⟩

end Engine
end DnsResponder
