import DnsResponder.Proofs.Engine.Decision
import DnsResponder.Proofs.Window

namespace DnsResponder
namespace Engine

open Packet

/-!
# The headers of a reply

A reply is written over its query, field by field, at offsets that shift when a tunnel is left out.
`Envelope` compares the headers before and after as a whole: which of them are there, which fields
were exchanged, and that all others are those of the query.  Lengths and checksums are new, and what
is said of them here is only that nothing else is.
-/

/-! ## Before and after -/

/-- What the tunnel's header becomes: it stays for IPv4 inside IPv6 only, with a new length, and sent
back or to the configured end. -/
def OuterTurned (tunnelReturn : TunnelReturn) (parts reply : Dissection) : Prop :=
  match parts.outer, parts.inner with
  | some (.v6 tunnel), .v4 _ =>
    ∃ size, reply.outer = some (.v6 { tunnel with
      payloadSize := size
      source := tunnel.destination
      destination :=
        match tunnelReturn with
        | .reflect => tunnel.source
        | .endpoint address => address })
  | _, _ => reply.outer = none

/-- What the header of the datagram's packet becomes: its addresses are exchanged, and its length and
checksum are new. -/
def InnerTurned : IpFields → IpFields → Prop
  | .v4 packet, turned =>
    ∃ size sum, turned = .v4 { packet with
      packetSize := size
      checksum := sum
      source := packet.destination
      destination := packet.source }
  | .v6 packet, turned =>
    ∃ size, turned = .v6 { packet with
      payloadSize := size
      source := packet.destination
      destination := packet.source }

/-- How the headers of a reply follow from those of its query. -/
structure Envelope (tunnelReturn : TunnelReturn) (parts reply : Dissection) : Prop where
  receiver : reply.link.receiver = parts.link.sender
  sender : reply.link.sender = parts.link.receiver
  tags : reply.link.tags = parts.link.tags
  ethertype : reply.first.ethertype =
    if parts.layout.stripSize = 0 then parts.first.ethertype else parts.inner.ethertype
  outer : OuterTurned tunnelReturn parts reply
  inner : InnerTurned parts.inner reply.inner
  udp : ∃ size sum, reply.udp =
    { source := parts.udp.destination
      destination := parts.udp.source
      datagramSize := size
      checksum := sum }

theorem outer_reply (parts : Dissection) (querySize : Nat) (response : Dns.Response)
    (settings : Settings) :
    OuterTurned settings.tunnelReturn parts (parts.reply querySize response settings) := by
  rcases parts.reply_parts querySize response settings with ⟨sum, same⟩
  rw [same]
  rcases parts with ⟨link, outer, inner, udp, message, carries, carriesUdp⟩
  cases outer with
  | none => exact rfl
  | some tunnel =>
    cases tunnel with
    | v4 tunnel =>
      cases inner with
      | v4 packet => exact rfl
      | v6 packet => exact rfl
    | v6 tunnel =>
      cases inner with
      | v4 packet => exact ⟨_, rfl⟩
      | v6 packet => exact rfl

theorem inner_reply (parts : Dissection) (querySize : Nat) (response : Dns.Response)
    (settings : Settings) :
    InnerTurned parts.inner (parts.reply querySize response settings).inner := by
  rw [parts.inner_reply_eq]
  cases parts.inner with
  | v4 packet =>
    rcases IpFields.Rewrite.checksummed_v4 { packet with
      packetSize := UInt16.ofNat (packet.octets.length
        + (Header.udp.size + (parts.answer querySize response).length))
      source := packet.destination
      destination := packet.source } with ⟨sum, same⟩
    exact ⟨_, sum, same⟩
  | v6 packet => exact ⟨_, rfl⟩

/-- The headers of a reply are those of its query, turned around. -/
theorem envelope_reply (parts : Dissection) (querySize : Nat) (response : Dns.Response)
    (settings : Settings) :
    Envelope settings.tunnelReturn parts (parts.reply querySize response settings) := by
  rcases parts.reply_parts querySize response settings with ⟨sum, same⟩
  refine ⟨?_, ?_, ?_, parts.ethertype_reply .., outer_reply .., inner_reply .., ?_⟩
  · rw [same]
    rfl
  · rw [same]
    rfl
  · rw [same]
    rfl
  · rw [same]
    exact ⟨_, sum, rfl⟩

/-! ## Where the reply stands -/

section Place

variable {frame : Frame} {parts : Dissection} {querySize : Nat} {response : Dns.Response}

theorem stripSize_le (parts : Dissection) : parts.layout.stripSize ≤ parts.octets.length := by
  rw [parts.length_octets, parts.messageOffset_eq, Nat.add_assoc]
  exact Nat.le_add_right ..

theorem head_repliedFrame (querySize : Nat) (response : Dns.Response) (settings : Settings)
    (whole : frame.octets = parts.octets) :
    (Reply.repliedFrame frame parts querySize response settings).head =
      frame.head + parts.layout.stripSize := by
  rw [Reply.repliedFrame, Frame.head, List.length_append, whole,
    List.length_take_of_le (stripSize_le parts)]
  rfl

theorem size_repliedFrame (settings : Settings)
    (fits : Reply.Fits parts frame.tailroom querySize response.answerSection.length settings) :
    (Reply.repliedFrame frame parts querySize response settings).size =
      parts.unwrapped.messageOffset
        + Reply.messageSize querySize response.answerSection.length := by
  have layout := parts.layout_reply querySize response settings
  have offset : (parts.reply querySize response settings).messageOffset =
      parts.unwrapped.messageOffset := congrArg Layout.dns layout
  rw [Reply.repliedFrame, Frame.size, Dissection.length_octets, offset, parts.message_reply,
    Reply.length_answer response fits.starts]

/-- Around the reply the window is what it was around the query, and so are the octets that were
left out in front of it. -/
theorem window_repliedFrame (settings : Settings) (whole : frame.octets = parts.octets)
    (fits : Reply.Fits parts frame.tailroom querySize response.answerSection.length settings)
    {place : Nat}
    (outside : place < frame.head ∨
      (Reply.repliedFrame frame parts querySize response settings).head
        + (Reply.repliedFrame frame parts querySize response settings).size ≤ place) :
    (Reply.repliedFrame frame parts querySize response settings).window[place]? =
      frame.window[place]? := by
  rcases outside with inFront | behind
  · simp only [Frame.window, Reply.repliedFrame, List.append_assoc]
    rw [List.getElem?_append_left inFront, List.getElem?_append_left inFront]
  · obtain ⟨replied, shown⟩ : ∃ replied,
        replied = Reply.repliedFrame frame parts querySize response settings := ⟨_, rfl⟩
    have newSize := size_repliedFrame settings fits
    have newHead := head_repliedFrame querySize response settings whole
    have after : replied.after =
        frame.after.drop (Reply.planFor parts querySize response.answerSection.length).grow := by
      rw [shown]
      rfl
    rw [← shown] at newSize newHead behind ⊢
    have size : frame.octets.length = parts.messageOffset + parts.message.length := by
      rw [whole, parts.length_octets]
    have offset := parts.messageOffset_eq
    have covers := fits.covers
    have front : (replied.before ++ replied.octets).length = replied.head + replied.size :=
      List.length_append
    have oldFront : (frame.before ++ frame.octets).length = frame.head + frame.octets.length :=
      List.length_append
    have grown : (Reply.planFor parts querySize response.answerSection.length).grow =
        Reply.messageSize querySize response.answerSection.length - parts.message.length := rfl
    rw [Frame.window, Frame.window, List.getElem?_append_right (by omega),
      List.getElem?_append_right (by omega), after, List.getElem?_drop, grown, front, oldFront]
    congr 1
    omega

end Place

/-! ## Transmitted frames -/

/-- A frame that a responder sends is the reply to a query that asked something and whose reply
fits. -/
theorem asks_of_sent {responder after : Responder} {moment : Moment} {frame sent : Frame}
    {log left : Log}
    (transmitted : responder.process moment frame log = (.transmit, sent, after, left)) :
    ∃ parts query question answer,
      Asks responder.settings responder.tables frame.octets parts query question answer
      ∧ ReplyFits responder.settings frame parts query question answer
      ∧ sent = Reply.repliedFrame frame parts question.consumed
        (responseFor responder.settings frame.octets parts query question answer)
        responder.settings := by
  have action : (handle responder.settings responder.tables frame).action = .transmit :=
    congrArg Prod.fst transmitted
  have changed : (handle responder.settings responder.tables frame).frame = sent :=
    congrArg (·.2.1) transmitted
  rcases asks_of_transmit action with ⟨parts, query, question, answer, asks, fits, replied⟩
  exact ⟨parts, query, question, answer, asks, fits, changed.symm.trans replied⟩

/-- The frame that a responder sends is the reply to a query that it could locate and read.  It starts
where the left-out octets end, is as long as its parts, has the headers of the query turned around,
and leaves the window around it as it was. -/
theorem envelope_of_sent {responder after : Responder} {moment : Moment} {frame sent : Frame}
    {log left : Log}
    (transmitted : responder.process moment frame log = (.transmit, sent, after, left)) :
    ∃ (parts reply : Dissection) (cursor : Cursor) (reception : Reception)
      (question : Dns.Question) (answer : Answer) (response : Dns.Response),
      Packet.locate frame.octets responder.settings.dnsPort = .ok (parts.layout, cursor)
      ∧ frame.octets = parts.octets ∧ sent.octets = reply.octets
      ∧ Dns.Question.decode frame.octets (parts.layout.dns + Header.dns.size)
          responder.settings.namePolicy = .ok question
      ∧ handle responder.settings responder.tables frame =
          ⟨some reception, some question, .replied answer response.answerSection.length, sent⟩
      ∧ Dns.Response.compose reception.query answer
          (payloadSize? responder.settings frame.octets reception question)
          responder.settings.responseFlags = .ok response
      ∧ sent.head = frame.head + parts.layout.stripSize
      ∧ sent.size + parts.layout.stripSize =
          parts.layout.dns + Header.dns.size + question.consumed + response.answerSection.length
      ∧ Envelope responder.settings.tunnelReturn parts reply
      ∧ ∀ place, place < frame.head ∨ sent.head + sent.size ≤ place →
          sent.window[place]? = frame.window[place]? := by
  rcases asks_of_sent transmitted with ⟨parts, query, question, answer, asks, fits, rfl⟩
  have handled := handle_of_fits asks fits
  have size := size_repliedFrame responder.settings fits
  have offset := parts.messageOffset_eq
  have dns : parts.layout.dns = parts.messageOffset := rfl
  refine ⟨parts, parts.reply question.consumed _ responder.settings, parts.reached,
    receptionOf parts query, question, answer,
    responseFor responder.settings frame.octets parts query question answer, ?_, asks.whole, rfl,
    asks.decoded, handled, Dns.Response.compose_eq .., head_repliedFrame _ _ _ asks.whole, ?_,
    envelope_reply .., ?_⟩
  · rw [asks.whole, locate_octets, if_pos asks.port]
  · rw [size, dns, offset, Reply.messageSize]
    omega
  · exact fun place outside => window_repliedFrame _ asks.whole fits outside

/-- The specimen came in a tunnel of IPv4 in IPv4, which is left out of its reply. -/
theorem specimen_leaves_tunnel :
    ∃ (sent : Frame) (after : Responder) (left : Log),
      Specimen.responder.process ⟨0, 0, 0⟩ ⟨[8, 9], Specimen.parts.octets, List.replicate 16 7⟩
        { processId := "1" } = (.transmit, sent, after, left) ∧ sent.head = 22 := by
  have action : (Specimen.responder.process ⟨0, 0, 0⟩
      ⟨[8, 9], Specimen.parts.octets, List.replicate 16 7⟩ { processId := "1" }).1 = .transmit := by
    decide +kernel
  refine ⟨_, _, _, Prod.ext action rfl, ?_⟩
  rcases envelope_of_sent (Prod.ext action rfl) with
    ⟨parts, reply, cursor, reception, question, answer, response, located, whole, -, -, -, -, head,
    -⟩
  have asked : Specimen.parts.udp.destination = Specimen.responder.settings.dnsPort := rfl
  rw [locate_octets, if_pos asked] at located
  have layout : Specimen.parts.layout = parts.layout :=
    congrArg Prod.fst (Except.ok.inj located)
  rw [← layout] at head
  exact head

end Engine
end DnsResponder
