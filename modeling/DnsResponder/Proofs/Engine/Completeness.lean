import DnsResponder.Proofs.Administration
import DnsResponder.Proofs.Engine.Answer

namespace DnsResponder
namespace Engine

open Packet
open Dns.PackedName (wireOctets Packable ReadableBy)

/-!
# Every well-formed query is answered

A client that knows a name writes it in wire form, an operator has written it with dots.  When the
name was stored and the reply fits, nothing on the way from the frame to the answer can refuse the
query: not the headers around it, whatever their free fields say, not the octets behind its question,
and not the history that led to the tables.
-/

/-- A frame with a standard query for a name and a type in the Internet class, and some octets behind
it.  Everything else about the frame is open. -/
structure Poses (parts : Dissection) (port : UInt16) (query : Dns.MessageHeader) (name : String)
    (qtype : UInt16) (trailing : Bytes) : Prop where
  port : parts.udp.destination = port
  standard : query.flags &&& (Dns.Flag.response ||| Dns.Flag.opcode) = 0
  questions : query.questions ≠ 0
  message : parts.message = query.encode ++
    (Dns.questionOctets (wireOctets name) qtype Dns.classInternet ++ trailing)

/-- Whether a query is answered with an extension record: the settings echo it, the query announces
additional records, and one with extensions follows the question. -/
def Extends (settings : Settings) (query : Dns.MessageHeader) (trailing : Bytes) : Prop :=
  settings.ednsEcho = true ∧ 0 < query.additionals ∧ Dns.optFollows trailing 0 = true

instance (settings : Settings) (query : Dns.MessageHeader) (trailing : Bytes) :
    Decidable (Extends settings query trailing) :=
  inferInstanceAs (Decidable (_ ∧ _))

/-- Octets of the records that answer a query with an address of a family. -/
def recordsSize (settings : Settings) (query : Dns.MessageHeader) (trailing : Bytes)
    (family : Family) : Nat :=
  Dns.answerFixedSize + family.addressSize +
    if Extends settings query trailing then Dns.optRecordSize else 0

/-- A reply with records of some size finds room: its frame does not shrink and grows into the
tailroom, and its datagram and its packets stay within their limits. -/
structure RoomFor (settings : Settings) (parts : Dissection)
    (tailroom querySize trailing size : Nat) : Prop where
  covered : trailing ≤ size
  growth : size - trailing ≤ tailroom
  packet : parts.inner.size + (Header.udp.size + Reply.messageSize querySize size) ≤ 65535
  tunnel : ∀ outer, parts.keptOuter = some outer →
    outer.size + (parts.inner.size + (Header.udp.size + Reply.messageSize querySize size)) ≤ 65535
  checksum : parts.inner.family = .v6 ∨ settings.udp4Checksum = .compute →
    Header.udp.size + Reply.messageSize querySize size ≤ 1480

variable {settings : Settings} {parts : Dissection} {query : Dns.MessageHeader} {name : String}
  {qtype : UInt16} {trailing : Bytes} {tailroom size : Nat} {tables : Tables} {address : Address}
  {ttl : UInt32} {frame : Frame}

/-- The question that is decoded from the wire form of a name. -/
def questionFor (name : String) (qtype : UInt16) : Dns.Question :=
  ⟨.named name qtype, (wireOctets name).length + Dns.questionTailSize⟩

theorem Poses.length_message (posed : Poses parts settings.dnsPort query name qtype trailing) :
    parts.message.length =
      Header.dns.size + (questionFor name qtype).consumed + trailing.length := by
  rw [posed.message, List.length_append, query.length_encode, List.length_append,
    Dns.length_questionOctets, ← Nat.add_assoc]
  rfl

theorem Poses.split (posed : Poses parts settings.dnsPort query name qtype trailing) :
    parts.octets = (parts.headers ++ query.encode) ++
      (Dns.questionOctets (wireOctets name) qtype Dns.classInternet ++ trailing) := by
  rw [parts.split_message, posed.message, List.append_assoc]

theorem length_before_question (parts : Dissection) (query : Dns.MessageHeader) :
    (parts.headers ++ query.encode).length = parts.messageOffset + Header.dns.size := by
  rw [List.length_append, parts.length_headers, query.length_encode]

theorem Poses.questionOctets_eq (posed : Poses parts settings.dnsPort query name qtype trailing) :
    parts.questionOctets (questionFor name qtype).consumed =
      Dns.questionOctets (wireOctets name) qtype Dns.classInternet := by
  rw [Dissection.questionOctets, posed.message, List.drop_left' query.length_encode]
  exact List.take_left' (Dns.length_questionOctets ..)

/-- The octets behind the question alone decide whether the response is extended. -/
theorem Poses.payloadSize?_eq (posed : Poses parts settings.dnsPort query name qtype trailing) :
    payloadSize? settings parts.octets (receptionOf parts query) (questionFor name qtype) =
      if Extends settings query trailing then some settings.ednsPayloadSize else none := by
  have split := posed.split
  rw [← List.append_assoc] at split
  have follows : Dns.optFollows parts.octets ((receptionOf parts query).questionStart +
      (questionFor name qtype).consumed) = Dns.optFollows trailing 0 := by
    apply Dns.optFollows_behind split
    rw [List.length_append, length_before_question, Dns.length_questionOctets]
    rfl
  rw [payloadSize?, follows]
  refine if_congr ?_ rfl rfl
  rw [Extends, Bool.and_eq_true, Bool.and_eq_true, decide_eq_true_iff, and_assoc]
  rfl

theorem Poses.length_answerSection
    (posed : Poses parts settings.dnsPort query name qtype trailing) (answer : Answer) :
    (responseFor settings parts.octets parts query (questionFor name qtype)
        answer).answerSection.length =
      recordsSize settings query trailing answer.address.family := by
  have advertised := posed.payloadSize?_eq
  rw [responseFor, responseTo, advertised, recordsSize]
  change (Dns.Response.records answer _).length = _
  rw [Dns.Response.records, List.length_append, Dns.Response.length_answerRecord]
  split
  · rfl
  · rfl

/-- A frame that poses a query for what is stored asks for it. -/
theorem Poses.asks (posed : Poses parts settings.dnsPort query name qtype trailing)
    (packable : Packable name) (readable : ReadableBy settings.namePolicy name)
    (inService : tables.served.contains parts.inner.destination = true)
    (held : tables.records.Holds (.named name qtype) address ttl)
    (wet : tables.options.switch .dryRun settings.dryRun = false) :
    Asks settings tables parts.octets parts query (questionFor name qtype)
      ⟨address, effectiveTtl ttl query.id settings.randomTtl⟩ where
  whole := rfl
  port := posed.port
  inService := inService
  message := ⟨_, posed.message⟩
  standard := by
    rw [Dns.MessageHeader.isStandardQuery, posed.standard]
    rfl
  questions := posed.questions
  decoded := Dns.Question.decode_eq posed.split (length_before_question parts query)
    (Dns.PackedName.readName_wireOctets packable readable)
  resolved := held.resolve
  wet := wet

theorem fits_of_roomFor (posed : Poses parts settings.dnsPort query name qtype trailing)
    (room : RoomFor settings parts tailroom (questionFor name qtype).consumed trailing.length size) :
    Reply.Fits parts tailroom (questionFor name qtype).consumed size settings where
  starts := by
    rw [posed.length_message]
    exact Nat.le_add_right ..
  covers := by
    have covered := room.covered
    rw [posed.length_message, Reply.messageSize]
    omega
  room := by
    have growth := room.growth
    rw [posed.length_message, Reply.messageSize]
    omega
  datagram := Nat.le_trans (Nat.le_add_left ..) room.packet
  checksum := fun checksummed => room.checksum ((Reply.isChecksummed_iff parts settings).mp checksummed)
  packet := by
    rw [Nat.add_assoc]
    exact room.packet
  tunnel := by
    intro outer kept
    have whole := room.tunnel outer kept
    rw [← Nat.add_assoc, ← Nat.add_assoc] at whole
    exact whole

/-- A query for a name that was stored, and is still, is answered with what was stored last, when it
comes to a served address and the reply finds room. -/
theorem answered_of_stored {queue : Option CaptureQueue} {initial : Log}
    {history : List Responder.Event}
    (stored : Responder.entryAfter history name qtype = some (address, ttl))
    (readable : ReadableBy settings.namePolicy name)
    (posed : Poses parts settings.dnsPort query name qtype trailing)
    (whole : frame.octets = parts.octets)
    (inService : ∃ block ∈
        (Responder.after settings queue initial history).1.tables.served.blocks,
      block.covers parts.inner.destination = true)
    (wet : (Responder.after settings queue initial history).1.tables.options.switch .dryRun
      settings.dryRun = false)
    (room : RoomFor settings parts frame.tailroom
      ((wireOctets name).length + Dns.questionTailSize) trailing.length
      (recordsSize settings query trailing address.family))
    (moment : Moment) (log : Log) :
    ∃ (sent : Frame) (left : Responder) (after : Log) (header : Dns.MessageHeader),
      (Responder.after settings queue initial history).1.process moment frame log =
        (.transmit, sent, left, after)
      ∧ RespondsTo query header
      ∧ sent.octets.drop parts.unwrapped.messageOffset = header.encode ++
          (Dns.questionOctets (wireOctets name) qtype Dns.classInternet ++
            (answerOctets qtype (effectiveTtl ttl query.id settings.randomTtl) address ++
              additionalOctets header settings.ednsPayloadSize)) := by
  have kept := Responder.settings_after initial settings queue history
  have packable := Responder.packable_of_entryAfter stored
  have held := Records.holds_of_held?
    ((Responder.held?_after initial settings queue history packable qtype).trans stored)
  have inside := (Served.contains_iff (Responder.bounded_after initial settings queue history)
    parts.inner.destination).mpr inService
  have asks := posed.asks packable readable inside held wet
  have fits : ReplyFits settings frame parts query (questionFor name qtype)
      ⟨address, effectiveTtl ttl query.id settings.randomTtl⟩ := by
    rw [ReplyFits, whole, posed.length_answerSection]
    exact fits_of_roomFor posed room
  rw [← whole] at asks
  have handled := handle_of_fits asks fits
  have action : ((Responder.after settings queue initial history).1.process moment frame log).1 =
      .transmit := by
    rw [Responder.action_process, kept, handled]
    rfl
  rcases octets_repliedFrame asks with ⟨headers, header, reached, split, responds, -⟩
  rw [posed.questionOctets_eq] at split
  refine ⟨_, _, _, header, Prod.ext action rfl, responds, ?_⟩
  rw [kept, handled]
  exact (congrArg (List.drop _) split).trans (List.drop_left' reached)

/-- A history in which the network of the specimen is served, and an address is stored for its name,
written with a final dot. -/
def Specimen.history : List Responder.Event :=
  [.serve "192.0.2.0/24", .insertA "b" ⟨0x05060708, 60⟩,
    .insertA "a." ⟨0x01020304, 300⟩, .remove "b" .a]

/-- The specimen is answered after this history, with the stored address and time to live. -/
theorem specimen_is_answered_from_history :
    ∃ (sent : Frame) (left : Responder) (after : Log) (header : Dns.MessageHeader),
      (Responder.after {} none { processId := "1" } Specimen.history).1.process ⟨0, 0, 0⟩
          ⟨[8, 9], Specimen.parts.octets, List.replicate 16 7⟩ { processId := "1" } =
        (.transmit, sent, left, after)
      ∧ RespondsTo Specimen.query header
      ∧ sent.octets.drop 46 = header.encode ++
          (Dns.questionOctets (wireOctets "a") Dns.typeA Dns.classInternet ++
            (answerOctets Dns.typeA 300 (.v4 0x01020304) ++ additionalOctets header 512)) := by
  have stored : Responder.entryAfter Specimen.history "a" Dns.typeA =
      some (.v4 0x01020304, 300) := by
    decide +kernel
  have posed : Poses Specimen.parts 53 Specimen.query "a" Dns.typeA [] :=
    ⟨rfl, by decide, by decide, by decide +kernel⟩
  have inService : ∃ block ∈ (Responder.after {} none { processId := "1" }
      Specimen.history).1.tables.served.blocks,
      block.covers Specimen.parts.inner.destination = true := by
    decide +kernel
  have wet : (Responder.after {} none { processId := "1" }
      Specimen.history).1.tables.options.switch .dryRun false = false := by
    decide +kernel
  have room : RoomFor {} Specimen.parts
      (Frame.tailroom ⟨[8, 9], Specimen.parts.octets, List.replicate 16 7⟩)
      ((wireOctets "a").length + Dns.questionTailSize) (List.length ([] : Bytes))
      (recordsSize {} Specimen.query [] (Address.v4 0x01020304).family) := by
    refine ⟨by decide +kernel, by decide +kernel, by decide +kernel, ?_, by decide +kernel⟩
    intro outer kept
    cases kept
  exact answered_of_stored stored (fun _ => by decide +kernel) posed rfl inService wet room
    ⟨0, 0, 0⟩ { processId := "1" }

end Engine
end DnsResponder
