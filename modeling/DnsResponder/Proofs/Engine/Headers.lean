import DnsResponder.Proofs.Dns.Flags
import DnsResponder.Proofs.Engine.Answer

namespace DnsResponder
namespace Engine

open Packet

/-!
# Message headers of replies

Two frames that belong together each carry a message header: the query's, where its layout says, and
the response's, where that is once the tunnel has been left.  The second is made from the first and
from the settings, and nothing else in the frame enters into its flags.

Three of the flags are those of the settings only where the settings decide them.  A bit that they
leave open comes back as the client sent it, so settings without any flags let a client mark its own
response as authoritative.
-/

/-! ## Query and response -/

/-- The message headers that a frame and the one sent for it carry. -/
def Headed (port : UInt16) (frame sent : Frame) (query response : Dns.MessageHeader) : Prop :=
  ∃ layout cursor, locate frame.octets port = .ok (layout, cursor)
    ∧ Dns.MessageHeader.parse? (frame.octets.drop layout.dns) = some query
    ∧ Dns.MessageHeader.parse? (sent.octets.drop (layout.dns - layout.stripSize)) = some response

section Headers

variable {settings : Settings} {tables : Tables} {frame : Frame} {parts : Dissection}
  {query : Dns.MessageHeader} {question : Dns.Question} {answer : Answer}

/-- The header of the reply is found where the message starts once the tunnel has been left. -/
theorem parse_repliedFrame {querySize : Nat} {response : Dns.Response} :
    Dns.MessageHeader.parse?
        ((Reply.repliedFrame frame parts querySize response settings).octets.drop
          (parts.layout.dns - parts.layout.stripSize)) = some response.header := by
  rcases parts.octets_reply querySize response settings with ⟨headers, reached, split⟩
  have dns : parts.layout.dns - parts.layout.stripSize = headers.length :=
    (Nat.sub_eq_of_eq_add' parts.messageOffset_eq).trans reached.symm
  rw [Reply.repliedFrame, split, dns, List.drop_left]
  exact Dns.MessageHeader.parse?_encode ..

/-- The message of the query starts with its header. -/
theorem message_of_asks (asks : Asks settings tables frame.octets parts query question answer) :
    ∃ body, frame.octets.drop parts.layout.dns = query.encode ++ body := by
  rcases asks.message with ⟨body, message⟩
  have dns : parts.layout.dns = parts.messageOffset := rfl
  refine ⟨body, ?_⟩
  rw [asks.whole, dns, parts.split_message, List.drop_left' parts.length_headers, message]

theorem parse_of_asks (asks : Asks settings tables frame.octets parts query question answer) :
    Dns.MessageHeader.parse? (frame.octets.drop parts.layout.dns) = some query := by
  rcases message_of_asks asks with ⟨body, message⟩
  rw [message]
  exact Dns.MessageHeader.parse?_encode query body

theorem headed_of_asks (asks : Asks settings tables frame.octets parts query question answer) :
    Headed settings.dnsPort frame
      (Reply.repliedFrame frame parts question.consumed
        (responseFor settings frame.octets parts query question answer) settings)
      query (responseFor settings frame.octets parts query question answer).header :=
  ⟨parts.layout, parts.reached, asks.located, parse_of_asks asks, parse_repliedFrame⟩

/-- A frame carries one header, and so does the one sent for it. -/
theorem Headed.unique {port : UInt16} {sent : Frame} {response other : Dns.MessageHeader}
    {beside : Dns.MessageHeader} (headed : Headed port frame sent query response)
    (also : Headed port frame sent other beside) : query = other ∧ response = beside := by
  rcases headed with ⟨layout, cursor, located, queried, responded⟩
  rcases also with ⟨also, next, again, otherQueried, otherResponded⟩
  rw [located] at again
  cases again
  rw [queried] at otherQueried
  rw [responded] at otherResponded
  exact ⟨Option.some.inj otherQueried, Option.some.inj otherResponded⟩

end Headers

/-! ## Flags -/

/-- The flags of a response are made from those of its query. -/
theorem flags_eq_of_sent {responder after : Responder} {moment : Moment} {frame sent : Frame}
    {log left : Log}
    (transmitted : responder.process moment frame log = (.transmit, sent, after, left)) :
    ∃ query response, Headed responder.settings.dnsPort frame sent query response
      ∧ response.flags = Dns.Response.flagsFor query.flags responder.settings.responseFlags := by
  rcases asks_of_sent transmitted with ⟨parts, query, question, answer, asks, -, rfl⟩
  exact ⟨query, _, headed_of_asks asks, rfl⟩

open Dns.Response in
/-- The settings alone decide the three bits of a response exactly when its query has none of those
set that they leave open.  And two queries of which only these bits may differ get the same flags
exactly when they agree in the open ones. -/
theorem open_bits_come_back {responder after : Responder} {moment : Moment} {frame sent : Frame}
    {log left : Log} {moment' : Moment} {another resent : Frame} {next : Responder}
    {log' left' : Log}
    (transmitted : responder.process moment frame log = (.transmit, sent, after, left))
    (retransmitted : responder.process moment' another log' = (.transmit, resent, next, left')) :
    ∃ query response other beside,
      Headed responder.settings.dnsPort frame sent query response
      ∧ Headed responder.settings.dnsPort another resent other beside
      ∧ (DecidedBy responder.settings.responseFlags response.flags ↔
        query.flags &&& openBits responder.settings.responseFlags = 0)
      ∧ (query.flags &&& ~~~settableBits = other.flags &&& ~~~settableBits →
        (response.flags = beside.flags ↔
          query.flags &&& openBits responder.settings.responseFlags =
            other.flags &&& openBits responder.settings.responseFlags)) := by
  rcases flags_eq_of_sent transmitted with ⟨query, response, headed, flags⟩
  rcases flags_eq_of_sent retransmitted with ⟨other, beside, also, besideFlags⟩
  refine ⟨query, response, other, beside, headed, also, ?_, ?_⟩
  · rw [flags]
    exact decidedBy_flagsFor_iff
  · intro alike
    rw [flags, besideFlags]
    exact flagsFor_eq_iff alike

/-! ## A query that marks its own response -/

namespace Specimen

/-- The query of the specimen with every bit set that settings could decide. -/
def markedQuery : Dns.MessageHeader :=
  { query with flags := query.flags ||| Dns.Response.settableBits }

def marked : Dissection :=
  { parts with
    message := markedQuery.encode ++ Dns.questionOctets [1, 97] Dns.typeA Dns.classInternet }

def plainFrame : Frame :=
  ⟨[8, 9], parts.octets, List.replicate 16 7⟩

def markedFrame : Frame :=
  ⟨[8, 9], marked.octets, List.replicate 16 7⟩

/-- What the responder of the specimen sends for a frame. -/
def reply (frame : Frame) : Frame :=
  (responder.process ⟨0, 0, 0⟩ frame { processId := "1" }).2.1

theorem headed_plainFrame :
    Headed 53 plainFrame (reply plainFrame) query
      { query with flags := 0x8100, answers := 1 } :=
  ⟨parts.layout, parts.reached, by decide +kernel, by decide +kernel, by decide +kernel⟩

theorem headed_markedFrame :
    Headed 53 markedFrame (reply markedFrame) markedQuery
      { query with flags := 0x85C0, answers := 1 } :=
  ⟨marked.layout, marked.reached, by decide +kernel, by decide +kernel, by decide +kernel⟩

end Specimen

open Specimen in
/-- The settings of the specimen leave all three bits open, so they decide the response to the plain
query and not the one to the marked query. -/
theorem specimen_is_decided_unless_marked :
    ∃ plain marked : Dns.MessageHeader,
      Headed 53 plainFrame (reply plainFrame) query plain
      ∧ Headed 53 markedFrame (reply markedFrame) markedQuery marked
      ∧ Dns.Response.DecidedBy {} plain.flags ∧ plain.flags ≠ marked.flags := by
  have sent : (responder.process ⟨0, 0, 0⟩ plainFrame { processId := "1" }).1 = .transmit := by
    decide +kernel
  have resent : (responder.process ⟨0, 0, 0⟩ markedFrame { processId := "1" }).1 = .transmit := by
    decide +kernel
  rcases open_bits_come_back (Prod.ext sent rfl) (Prod.ext resent rfl) with
    ⟨asked, plain, other, marked, headed, also, decided, alike⟩
  obtain ⟨rfl, -⟩ := headed.unique headed_plainFrame
  obtain ⟨rfl, -⟩ := also.unique headed_markedFrame
  refine ⟨plain, marked, headed, also, decided.mpr (by decide), fun same => ?_⟩
  exact absurd ((alike (by decide)).mp same) (by decide)

open Specimen in
/-- No setting asks for any of the three bits, and the marked query gets a response with all of
them, which is not the one that the plain query gets. -/
theorem client_marks_its_response :
    responder.settings.responseFlags = {}
      ∧ (responder.process ⟨0, 0, 0⟩ markedFrame { processId := "1" }).1 = .transmit
      ∧ ∃ response : Dns.MessageHeader,
        Headed 53 markedFrame (reply markedFrame) markedQuery response
        ∧ response.flags &&& Dns.Response.settableBits = Dns.Response.settableBits
        ∧ ¬ Dns.Response.DecidedBy {} response.flags
        ∧ ∀ plain, Headed 53 plainFrame (reply plainFrame) query plain →
          plain.flags ≠ response.flags := by
  refine ⟨rfl, by decide +kernel, _, headed_markedFrame, by decide, ?_, ?_⟩
  · intro decided
    exact absurd decided.authoritative (by decide)
  · intro plain headed
    obtain ⟨-, rfl⟩ := headed.unique headed_plainFrame
    decide

end Engine
end DnsResponder
