import DnsResponder.Proofs.Engine.Envelope
import DnsResponder.Proofs.Packet.Exactness

namespace DnsResponder
namespace Engine

open Packet

/-!
# A reply is not answered

A reply goes back to where its query came from, and that may be another responder, or the same one.
Its headers are located again, this time for the port that the query was sent from, where the plan
of the reply put them.  Its message, however, is marked as a response.  There is no other way to take
the frame apart, so no responder finds a query in it, whatever its settings and tables: the reply is
passed on by everyone, and no chain of responders sends a frame around.
-/

/-! ## Frames without a query -/

/-- However a frame is taken apart, its message is no standard query. -/
def Silent (octets : Bytes) : Prop :=
  ∀ (parts : Dissection) (header : Dns.MessageHeader) (body : Bytes), octets = parts.octets →
    parts.message = header.encode ++ body → header.isStandardQuery = false

/-- A frame without a query is passed on as it is. -/
theorem Silent.passed {frame : Frame} (silent : Silent frame.octets) (settings : Settings)
    (tables : Tables) :
    (handle settings tables frame).action = .pass ∧ (handle settings tables frame).frame = frame := by
  rcases handle_cases settings tables frame with ⟨parts, query, question, answer, asks, -⟩ | passed
  · rcases asks.message with ⟨body, message⟩
    have noQuery := silent parts query body asks.whole message
    rw [asks.standard] at noQuery
    cases noQuery
  · exact ⟨passed.1.action_eq, passed.2⟩

theorem not_standard_of_response {header : Dns.MessageHeader}
    (response : header.flags &&& Dns.Flag.response = Dns.Flag.response) :
    header.isStandardQuery = false := by
  apply Bool.eq_false_iff.mpr
  intro standard
  rw [Dns.MessageHeader.and_eq_zero_of_standard standard (by decide)] at response
  exact absurd response (by decide)

/-- There is no query in a reply. -/
theorem silent_reply (parts : Dissection) (querySize : Nat) {response : Dns.Response}
    (settings : Settings)
    (marked : response.header.flags &&& Dns.Flag.response = Dns.Flag.response) :
    Silent (parts.reply querySize response settings).octets := by
  intro other header body same message
  rcases Dissection.eq_of_octets same with rfl
  rw [parts.message_reply, Dissection.answer] at message
  rcases Dns.MessageHeader.eq_of_encode_append message with rfl
  exact not_standard_of_response marked

/-! ## Responders in a chain -/

/-- One responder on the way of a frame, at some moment, with the window around the frame there. -/
structure Hop where
  responder : Responder
  moment : Moment
  log : Log
  before : Bytes
  after : Bytes

def Hop.process (hop : Hop) (octets : Bytes) : Action × Frame × Responder × Log :=
  hop.responder.process hop.moment ⟨hop.before, octets, hop.after⟩ hop.log

/-- What responders decide on a frame that each of them leaves to the next one. -/
def decisions : List Hop → Bytes → List Action
  | [], _ => []
  | hop :: rest, octets =>
    (hop.process octets).1 :: decisions rest (hop.process octets).2.1.octets

/-- A frame without a query is passed on along any chain of responders. -/
theorem Silent.decisions_eq {octets : Bytes} (silent : Silent octets) (hops : List Hop) :
    decisions hops octets = List.replicate hops.length .pass := by
  induction hops with
  | nil => rfl
  | cons hop rest ih =>
    have passed : (hop.process octets).1 = .pass ∧
        (hop.process octets).2.1 = ⟨hop.before, octets, hop.after⟩ :=
      Silent.passed silent hop.responder.settings hop.responder.tables
    rw [decisions, passed.1, passed.2, List.length_cons, List.replicate_succ, ih]

/-! ## The layout of a reply -/

/-- Leaving out a tunnel's header moves everything behind it to the front by its size. -/
theorem layout_unwrapped (parts : Dissection) :
    parts.unwrapped.layout =
      { parts.layout with
        outer := if 0 < parts.layout.stripSize then none else parts.layout.outer
        inner := { parts.layout.inner with
          offset := parts.layout.inner.offset - parts.layout.stripSize }
        udp := parts.layout.udp - parts.layout.stripSize
        dns := parts.layout.dns - parts.layout.stripSize } := by
  have shifted := Reply.shifted_layout parts
  simp only [Reply.shifted, bind_eq_ok_iff, Stop.difference_eq_ok_iff] at shifted
  rcases shifted with ⟨inner, innerOffset, udp, udpOffset, dns, dnsOffset, made⟩
  rw [← Except.ok.inj made, innerOffset, udpOffset, dnsOffset, Nat.add_sub_cancel_left,
    Nat.add_sub_cancel_left, Nat.add_sub_cancel_left]

/-! ## Transmitted frames -/

/-- In a frame that a responder sends, the headers are located for the source port of the query, just
where the plan of the reply put them: without the tunnel that was left out, and behind the same tags.
Every responder passes the frame on as it is, and so does every chain of them. -/
theorem final_of_sent {responder after : Responder} {moment : Moment} {frame sent : Frame}
    {log left : Log}
    (transmitted : responder.process moment frame log = (.transmit, sent, after, left)) :
    ∃ (parts reply : Dissection) (cursor again : Cursor) (reception : Reception)
      (question : Dns.Question) (answer : Answer) (replySize : Nat) (plan : Reply.Plan),
      locate frame.octets responder.settings.dnsPort = .ok (parts.layout, cursor)
      ∧ frame.octets = parts.octets ∧ sent.octets = reply.octets
      ∧ handle responder.settings responder.tables frame =
          ⟨some reception, some question, .replied answer replySize, sent⟩
      ∧ Reply.plan frame parts.layout replySize question.consumed responder.settings = .ok plan
      ∧ plan.layout =
          { parts.layout with
            outer := if 0 < parts.layout.stripSize then none else parts.layout.outer
            inner := { parts.layout.inner with
              offset := parts.layout.inner.offset - parts.layout.stripSize }
            udp := parts.layout.udp - parts.layout.stripSize
            dns := parts.layout.dns - parts.layout.stripSize }
      ∧ reply.link.tags = parts.link.tags
      ∧ locate sent.octets parts.udp.source = .ok (plan.layout, again)
      ∧ (∀ (other : Responder) (later : Moment) (arrived : Frame) (others : Log),
          arrived.octets = sent.octets →
            (other.process later arrived others).1 = .pass
            ∧ (other.process later arrived others).2.1 = arrived)
      ∧ ∀ hops : List Hop, decisions hops sent.octets = List.replicate hops.length .pass := by
  rcases asks_of_sent transmitted with ⟨parts, query, question, answer, asks, fits, replied⟩
  obtain ⟨response, composed⟩ : ∃ response,
      response = responseFor responder.settings frame.octets parts query question answer := ⟨_, rfl⟩
  have handled := handle_of_fits asks fits
  rw [ReplyFits, ← composed] at fits
  rw [← composed] at handled replied
  have octets : sent.octets =
      (parts.reply question.consumed response responder.settings).octets :=
    congrArg Frame.octets replied
  have silent : Silent sent.octets := by
    rw [octets]
    apply silent_reply
    rw [composed]
    exact Dns.Response.flagsFor_response ..
  have envelope := envelope_reply parts question.consumed response responder.settings
  have port : (parts.reply question.consumed response responder.settings).udp.destination =
      parts.udp.source := by
    rcases envelope.udp with ⟨size, sum, turned⟩
    rw [turned]
  have planned := (Reply.plan_eq_ok_iff asks.whole).mpr ⟨fits, rfl⟩
  refine ⟨parts, parts.reply question.consumed response responder.settings, parts.reached,
    (parts.reply question.consumed response responder.settings).reached, receptionOf parts query,
    question, answer, response.answerSection.length, _, ?_, asks.whole, octets, ?_, planned,
    layout_unwrapped parts, envelope.tags, ?_, ?_, silent.decisions_eq⟩
  · rw [asks.whole, locate_octets, if_pos asks.port]
  · rw [handled, replied]
  · rw [octets, locate_octets, if_pos port, parts.layout_reply]
    rfl
  · intro other later arrived others same
    exact Silent.passed (same ▸ silent) other.settings other.tables

namespace Specimen

/-- The specimen as it would come from another responder: sent from the port of its service.  The
address that it comes from is served as well. -/
def fromPort : Dissection :=
  parts.withUdp ⟨53, 53, 28, 0⟩

def hop : Hop where
  responder := responder
  moment := ⟨0, 0, 0⟩
  log := { processId := "1" }
  before := [8, 9]
  after := List.replicate 16 7

end Specimen

/-- The reply to such a query goes back to that port, and there it ends. -/
theorem specimen_is_not_sent_around :
    ∃ (sent : Frame) (after : Responder) (left : Log),
      Specimen.hop.process Specimen.fromPort.octets = (.transmit, sent, after, left)
      ∧ decisions [Specimen.hop, Specimen.hop] sent.octets = [.pass, .pass] := by
  have action : (Specimen.hop.process Specimen.fromPort.octets).1 = .transmit := by
    decide +kernel
  refine ⟨_, _, _, Prod.ext action rfl, ?_⟩
  rcases final_of_sent (Prod.ext action rfl) with
    ⟨parts, reply, cursor, again, reception, question, answer, replySize, plan, -, -, -, -, -, -, -,
    -, -, chain⟩
  exact chain [Specimen.hop, Specimen.hop]

end Engine
end DnsResponder
