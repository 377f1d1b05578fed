import DnsResponder.Proofs.Engine.Envelope
import DnsResponder.Proofs.Records

namespace DnsResponder
namespace Engine

open Packet

/-!
# The message of a reply

The message that goes out is put together from three sources: a header made from that of the query,
the octets of the question as they came, and records made from what is stored under the question's
key.  Its question decodes to the same key as the query's did, so the answer record, which names its
owner by a pointer to the question, names what was asked.
-/

/-- What the header of a response takes from its query, and what it says about itself. -/
structure RespondsTo (query header : Dns.MessageHeader) : Prop where
  id : header.id = query.id
  response : header.flags &&& Dns.Flag.response = Dns.Flag.response
  opcode : header.flags &&& Dns.Flag.opcode = 0
  recursionDesired : header.flags &&& Dns.Flag.recursionDesired =
    query.flags &&& Dns.Flag.recursionDesired
  truncated : header.flags &&& Dns.Flag.truncated = 0
  authenticData : header.flags &&& Dns.Flag.authenticData = 0
  checkingDisabled : header.flags &&& Dns.Flag.checkingDisabled = 0
  responseCode : header.flags &&& Dns.Flag.responseCode = 0
  questions : header.questions = 1
  answers : header.answers = 1
  authorities : header.authorities = 0

/-- The one record that answers a question: its owner is the name at offset twelve. -/
def answerOctets (qtype : UInt16) (ttl : UInt32) (address : Address) : Bytes :=
  [0xC0, 0x0C] ++ (Bytes.ofWord qtype ++ (Bytes.ofWord Dns.classInternet ++ (Bytes.ofLong ttl ++
    (Bytes.ofNat 2 address.family.addressSize ++ address.octets))))

/-- The extension record that a header with an additional record announces. -/
def additionalOctets (header : Dns.MessageHeader) (payloadSize : UInt16) : Bytes :=
  if header.additionals = 1 then
    0 :: (Bytes.ofWord Dns.typeOpt ++ (Bytes.ofWord payloadSize ++ List.replicate 6 0))
  else []

theorem flagsFor_of_cleared (query : UInt16) (flags : ResponseFlags) {mask : UInt16}
    (inside : Dns.Response.clearedBits &&& mask = mask) :
    Dns.Response.flagsFor query flags &&& mask = 0 := by
  rw [← inside, ← UInt16.and_assoc, Dns.Response.flagsFor_cleared, UInt16.zero_and]

theorem respondsTo_headerFor {query : Dns.MessageHeader} (standard : query.isStandardQuery = true)
    (flags : ResponseFlags) (withOpt : Bool) :
    RespondsTo query (Dns.Response.headerFor query flags withOpt) where
  id := rfl
  response := Dns.Response.flagsFor_response ..
  opcode := (Dns.Response.flagsFor_opcode ..).trans
    (Dns.MessageHeader.and_eq_zero_of_standard standard (by decide))
  recursionDesired := Dns.Response.flagsFor_recursionDesired ..
  truncated := flagsFor_of_cleared _ _ (by decide)
  authenticData := flagsFor_of_cleared _ _ (by decide)
  checkingDisabled := flagsFor_of_cleared _ _ (by decide)
  responseCode := flagsFor_of_cleared _ _ (by decide)
  questions := rfl
  answers := rfl
  authorities := rfl

/-- The payload size that is advertised is the one of the settings. -/
theorem payloadSize_cases (settings : Settings) (data : Bytes) (reception : Reception)
    (question : Dns.Question) :
    payloadSize? settings data reception question = none ∨
      payloadSize? settings data reception question = some settings.ednsPayloadSize := by
  rw [payloadSize?]
  split
  · exact .inr rfl
  · exact .inl rfl

/-- The records of a response are the answer and what its header announces besides. -/
theorem records_eq {records : Records} {key : Dns.Key} {answer : Answer} {ttl : UInt32}
    (held : records.Holds key answer.address ttl) (query : Dns.MessageHeader)
    (flags : ResponseFlags) {advertised : Option UInt16} {payloadSize : UInt16}
    (echoed : advertised = none ∨ advertised = some payloadSize) :
    Dns.Response.records answer advertised =
      answerOctets key.qtype answer.ttl answer.address ++
        additionalOctets (Dns.Response.headerFor query flags advertised.isSome) payloadSize := by
  have record : Dns.Response.answerRecord answer =
      answerOctets key.qtype answer.ttl answer.address := by
    rw [Dns.Response.answerRecord_eq, held.answerType]
    rfl
  rw [Dns.Response.records, record]
  rcases echoed with rfl | rfl
  · rfl
  · rfl

section Reply

variable {settings : Settings} {tables : Tables} {frame : Frame} {parts : Dissection}
  {query : Dns.MessageHeader} {question : Dns.Question} {answer : Answer}

theorem octets_repliedFrame (asks : Asks settings tables frame.octets parts query question answer) :
    ∃ (headers : Bytes) (header : Dns.MessageHeader),
      headers.length = parts.unwrapped.messageOffset
      ∧ (Reply.repliedFrame frame parts question.consumed
          (responseFor settings frame.octets parts query question answer) settings).octets =
        headers ++ (header.encode ++ (parts.questionOctets question.consumed ++
          (answerOctets question.key.qtype answer.ttl answer.address ++
            additionalOctets header settings.ednsPayloadSize)))
      ∧ RespondsTo query header
      ∧ (header.additionals = 0 ∨ header.additionals = 1) := by
  rcases Records.holds_of_resolve asks.resolved with ⟨stored, held, -⟩
  have advertised := payloadSize_cases settings frame.octets (receptionOf parts query) question
  rcases parts.octets_reply question.consumed
    (responseFor settings frame.octets parts query question answer) settings with
    ⟨headers, reached, split⟩
  have records : (responseFor settings frame.octets parts query question answer).answerSection =
      answerOctets question.key.qtype answer.ttl answer.address ++
        additionalOctets (responseFor settings frame.octets parts query question answer).header
          settings.ednsPayloadSize :=
    records_eq held query settings.responseFlags advertised
  refine ⟨headers, (responseFor settings frame.octets parts query question answer).header, reached,
    ?_, respondsTo_headerFor asks.standard _ _, ?_⟩
  · rw [Reply.repliedFrame, split, Dissection.answer, records]
  · rcases advertised with none | some
    · left
      rw [responseFor, responseTo, none]
      rfl
    · right
      rw [responseFor, responseTo, some]
      rfl

end Reply

/-- The message of a frame that is sent is a header that responds to the query's, the question as it
came, one record with what is stored under the question's key, and an extension record exactly when
the header counts one.  The question is found again where it was. -/
theorem answer_of_sent {responder after : Responder} {moment : Moment} {frame sent : Frame}
    {log left : Log}
    (transmitted : responder.process moment frame log = (.transmit, sent, after, left)) :
    ∃ (layout : Layout) (cursor : Cursor) (query header : Dns.MessageHeader)
      (question : Dns.Question) (asked : Bytes) (address : Address) (stored : UInt32),
      Packet.locate frame.octets responder.settings.dnsPort = .ok (layout, cursor)
      ∧ Dns.MessageHeader.parse? (frame.octets.drop layout.dns) = some query
      ∧ Dns.Question.decode frame.octets (layout.dns + Header.dns.size)
          responder.settings.namePolicy = .ok question
      ∧ frame.octets.slice? (layout.dns + Header.dns.size) question.consumed = some asked
      ∧ responder.tables.records.Holds question.key address stored
      ∧ sent.octets.drop (layout.dns - layout.stripSize) =
          header.encode ++ (asked ++
            (answerOctets question.key.qtype
                (effectiveTtl stored query.id responder.settings.randomTtl) address ++
              additionalOctets header responder.settings.ednsPayloadSize))
      ∧ RespondsTo query header
      ∧ (header.additionals = 0 ∨ header.additionals = 1)
      ∧ Dns.Question.decode sent.octets (layout.dns - layout.stripSize + Header.dns.size)
          responder.settings.namePolicy = .ok question := by
  rcases asks_of_sent transmitted with ⟨parts, query, question, answer, asks, fits, replied⟩
  rcases octets_repliedFrame asks with ⟨headers, header, reached, split, responds, counted⟩
  rw [← replied] at split
  rcases asks.message with ⟨body, message⟩
  rcases Records.holds_of_resolve asks.resolved with ⟨stored, held, ttl⟩
  have dns : parts.layout.dns - parts.layout.stripSize = parts.unwrapped.messageOffset :=
    Nat.sub_eq_of_eq_add' parts.messageOffset_eq
  have place : parts.layout.dns = parts.messageOffset := rfl
  have starts := fits.starts
  have asked := parts.questionOctets_eq question.consumed
  have inside : parts.layout.dns + Header.dns.size + question.consumed ≤ frame.octets.length := by
    rw [asks.whole, parts.length_octets, place]
    omega
  rw [← asks.whole] at asked
  refine ⟨parts.layout, parts.reached, query, header, question,
    parts.questionOctets question.consumed, answer.address, stored, ?_, ?_, asks.decoded, ?_, held,
    ?_, responds, counted, ?_⟩
  · rw [asks.whole, locate_octets, if_pos asks.port]
  · rw [asks.whole, place, parts.split_message, List.drop_left' parts.length_headers, message]
    exact Dns.MessageHeader.parse?_encode query body
  · rw [Bytes.slice?_of_le inside, asked]
    rfl
  · rw [dns, split, List.drop_left' reached, ttl]
  · rw [← List.append_assoc, asked] at split
    apply Dns.Question.decode_again asks.decoded inside split
    rw [dns, List.length_append, reached, Dns.MessageHeader.length_encode]

/-- The specimen's message starts at its offset 66.  That of the reply starts 20 octets earlier, with
a header that responds to the query's. -/
theorem specimen_is_answered :
    ∃ (sent : Frame) (after : Responder) (left : Log),
      Specimen.responder.process ⟨0, 0, 0⟩ ⟨[8, 9], Specimen.parts.octets, List.replicate 16 7⟩
        { processId := "1" } = (.transmit, sent, after, left) ∧
      ∃ header rest, RespondsTo Specimen.query header
        ∧ sent.octets.drop 46 = header.encode ++ rest := by
  have action : (Specimen.responder.process ⟨0, 0, 0⟩
      ⟨[8, 9], Specimen.parts.octets, List.replicate 16 7⟩ { processId := "1" }).1 = .transmit := by
    decide +kernel
  refine ⟨_, _, _, Prod.ext action rfl, ?_⟩
  rcases answer_of_sent (Prod.ext action rfl) with
    ⟨layout, cursor, query, header, question, asked, address, stored, located, parsed, -, -, -,
    message, responds, -, -⟩
  have port : Specimen.parts.udp.destination = Specimen.responder.settings.dnsPort := rfl
  rw [locate_octets, if_pos port] at located
  obtain rfl : Specimen.parts.layout = layout := congrArg Prod.fst (Except.ok.inj located)
  have same : some Specimen.query = some query := by
    rw [← parsed]
    decide +kernel
  rcases Option.some.inj same with rfl
  exact ⟨header, _, responds, message⟩

end Engine
end DnsResponder
