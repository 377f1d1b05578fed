import DnsResponder.Proofs.Engine.Headers
import DnsResponder.Proofs.Replay.Jobs

namespace DnsResponder

open Packet

/-!
# How much a frame grows

A reply is its query up to the end of the question, with an answer section behind it.  The question
ends within the query, so a reply cannot be longer than its query by more than the section, which has
one of four sizes.  And since a frame is never cut, the section has to cover whatever stood behind the
question, so a reply is not shorter either, except for the tunnel that it leaves.

The bound holds for every frame, whatever it says of its own sizes.  So with room for the largest
section behind a frame its handling never ends for lack of room, and a replay, which leaves more room
than that, never sees this end.
-/

namespace Engine

/-! ## Replies -/

/-- How a frame with its reply in it stands to the one with the query: `strip` octets have become
headroom, and at most `extra` octets are new. -/
structure GrowsBy (strip extra : Nat) (frame sent : Frame) : Prop where
  leaves : strip ≤ frame.size
  head : sent.head = frame.head + strip
  covers : frame.size - strip ≤ sent.size
  bounded : sent.size ≤ frame.size - strip + extra
  inside : sent.head + sent.size ≤ frame.window.length

section Handling

variable {settings : Settings} {tables : Tables} {frame : Frame} {parts : Dissection}
  {query : Dns.MessageHeader} {question : Dns.Question} {answer : Answer}

theorem growsBy_repliedFrame {querySize : Nat} {response : Dns.Response}
    (whole : frame.octets = parts.octets)
    (fits : Reply.Fits parts frame.tailroom querySize response.answerSection.length settings) :
    GrowsBy parts.layout.stripSize response.answerSection.length frame
      (Reply.repliedFrame frame parts querySize response settings) := by
  have size := Dissection.size_of_octets whole
  have offset := parts.messageOffset_eq
  have newSize := size_repliedFrame settings fits
  have newHead := head_repliedFrame querySize response settings whole
  have window := frame.length_window
  rcases fits with ⟨starts, covers, room, -, -, -, -⟩
  rw [Reply.messageSize] at newSize covers room
  refine ⟨?_, newHead, ?_, ?_, ?_⟩ <;> omega

/-- What answers a question is an address of the type that it asks for. -/
theorem Asks.recordType_eq (asks : Asks settings tables frame.octets parts query question answer) :
    question.key.recordType = .ofCode (Dns.Response.answerType answer) := by
  rcases Records.holds_of_resolve asks.resolved with ⟨ttl, held, -⟩
  exact congrArg Dns.RecordType.ofCode held.answerType

/-- The section that the reply of a frame gets has the size for the type that is asked for. -/
theorem length_answerSection
    (asks : Asks settings tables frame.octets parts query question answer) :
    (responseFor settings frame.octets parts query question answer).answerSection.length =
      Dns.Response.sectionSize question.key.recordType
        ((responseFor settings frame.octets parts query question answer).header.additionals != 0)
      := by
  rw [responseFor, responseTo, Dns.Response.length_records, asks.recordType_eq]
  cases payloadSize? settings frame.octets (receptionOf parts query) question <;> rfl

/-! ## Refusals -/

/-- A frame whose reply is refused asked something, and the refusal names what is in the way. -/
theorem obstacle_of_refused {cause : ReplyError}
    (ended : (handle settings tables frame).ending = .stopped (.refused (.reply cause))) :
    ∃ parts query question answer,
      Asks settings tables frame.octets parts query question answer
      ∧ Reply.Obstacle Reply.packetSize frame parts.layout
        (responseFor settings frame.octets parts query question answer).answerSection.length
        question.consumed settings cause := by
  have course := course_of_handle settings tables frame
  generalize handled : handle settings tables frame = run at course ended
  cases course with
  | unreceived stopped early =>
    cases ended
    rcases early with impossible | impossible <;> cases impossible
  | unread received inquired refused =>
    cases ended
    exact refused.elim
  | unresolved received inquired resolved refused =>
    cases ended
    exact refused.elim
  | dry => cases ended
  | unfit asks excess limit =>
    rcases handle_of_not_fits asks excess with ⟨other, ⟨-, obstacle⟩, again⟩
    rw [handled] at again
    cases ended
    cases again
    exact ⟨_, _, _, _, asks, obstacle⟩
  | replied => cases ended

/-- Only a frame with less room behind it than the largest section is refused for lack of room. -/
theorem tailroom_of_refused
    (ended : (handle settings tables frame).ending = .stopped (.refused (.reply .noTailroom))) :
    frame.tailroom < Dns.Response.maxSectionSize := by
  rcases obstacle_of_refused ended with ⟨parts, query, question, answer, asks, obstacle⟩
  have size := Dissection.size_of_octets asks.whole
  have starts := asks.starts
  have section_le := Dns.Response.sectionSize_le question.key.recordType
    ((responseFor settings frame.octets parts query question answer).header.additionals != 0)
  rw [← length_answerSection asks] at section_le
  cases obstacle with
  | lacksRoom grows =>
    rw [Reply.replyEnd_of_message, Reply.messageSize] at grows
    omega

end Handling

/-- What a responder sends is longer than what came by the answer section at most, and starts where
the left-out octets end. -/
theorem growsBy_of_sent {responder after : Responder} {moment : Moment} {frame sent : Frame}
    {log left : Log}
    (transmitted : responder.process moment frame log = (.transmit, sent, after, left)) :
    ∃ (layout : Layout) (cursor : Cursor) (question : Dns.Question) (header : Dns.MessageHeader),
      locate frame.octets responder.settings.dnsPort = .ok (layout, cursor)
      ∧ Dns.Question.decode frame.octets (layout.dns + Header.dns.size)
          responder.settings.namePolicy = .ok question
      ∧ Dns.MessageHeader.parse? (sent.octets.drop (layout.dns - layout.stripSize)) = some header
      ∧ (question.key.recordType = .a ∨ question.key.recordType = .aaaa)
      ∧ GrowsBy layout.stripSize
          (Dns.Response.sectionSize question.key.recordType (header.additionals != 0)) frame sent := by
  rcases asks_of_sent transmitted with ⟨parts, query, question, answer, asks, fits, rfl⟩
  have located : locate frame.octets responder.settings.dnsPort =
      .ok (parts.layout, parts.reached) := by
    rw [asks.whole, locate_octets, if_pos asks.port]
  have type : question.key.recordType = .a ∨ question.key.recordType = .aaaa := by
    rw [asks.recordType_eq, Dns.Response.answerType]
    cases answer.address.family with
    | v4 => exact .inl rfl
    | v6 => exact .inr rfl
  have grows := growsBy_repliedFrame asks.whole fits
  rw [length_answerSection asks] at grows
  exact ⟨parts.layout, parts.reached, question, _, located, asks.decoded, parse_repliedFrame, type,
    grows⟩

end Engine

/-! ## Room for a reply -/

namespace Replay

open Engine

/-- A frame grows by its answer section at most, within its window.  Where there is room for the
largest section behind a frame, its handling does not end for lack of room, whatever the frame holds.
A replay hands every frame to the responder with more room than that. -/
theorem grows_by_section_and_has_room :
    (∀ (responder after : Responder) (moment : Moment) (frame sent : Frame) (log left : Log),
      responder.process moment frame log = (.transmit, sent, after, left) →
      ∃ (layout : Layout) (cursor : Cursor) (question : Dns.Question) (header : Dns.MessageHeader),
        locate frame.octets responder.settings.dnsPort = .ok (layout, cursor)
        ∧ Dns.Question.decode frame.octets (layout.dns + Header.dns.size)
            responder.settings.namePolicy = .ok question
        ∧ Dns.MessageHeader.parse? (sent.octets.drop (layout.dns - layout.stripSize)) = some header
        ∧ (question.key.recordType = .a ∨ question.key.recordType = .aaaa)
        ∧ GrowsBy layout.stripSize
            (Dns.Response.sectionSize question.key.recordType (header.additionals != 0)) frame sent
        ∧ sent.size ≤ frame.size - layout.stripSize + 39)
    ∧ (∀ (settings : Settings) (tables : Tables) (frame : Frame), 39 ≤ frame.tailroom →
      (handle settings tables frame).ending ≠ .stopped (.refused (.reply .noTailroom)))
    ∧ ∀ (session : Session) (responder : Responder) (moment : Moment) (job : Job),
      session.host.responder = some responder →
      session.perform moment job = (job.result responder,
        { session with
          host.responder := some (responder.process moment job.entering session.host.log).2.2.1
          host.log := (responder.process moment job.entering session.host.log).2.2.2 })
      ∧ (handle responder.settings responder.tables job.entering).ending ≠
          .stopped (.refused (.reply .noTailroom)) := by
  have roomy (settings : Settings) (tables : Tables) (frame : Frame) (room : 39 ≤ frame.tailroom) :
      (handle settings tables frame).ending ≠ .stopped (.refused (.reply .noTailroom)) :=
    fun ended => Nat.not_lt_of_le room (tailroom_of_refused ended)
  refine ⟨?_, roomy, ?_⟩
  · intro responder after moment frame sent log left transmitted
    rcases growsBy_of_sent transmitted with
      ⟨layout, cursor, question, header, located, decoded, parsed, type, grows⟩
    have largest : sent.size ≤ frame.size - layout.stripSize + 39 :=
      Nat.le_trans grows.bounded (Nat.add_le_add_left (Dns.Response.sectionSize_le ..) _)
    exact ⟨layout, cursor, question, header, located, decoded, parsed, type, grows, largest⟩
  · intro session responder moment job present
    have room : 39 ≤ job.entering.tailroom := by
      rw [Job.entering, Frame.tailroom, List.length_replicate]
      decide
    exact ⟨(Session.Holds.refl present).perform moment job, roomy _ _ _ room⟩

namespace Specimen

open Engine.Specimen in
/-- The specimen of a query, in a window with just the room for its reply. -/
def tight : Frame :=
  ⟨[8, 9], parts.octets, List.replicate 16 7⟩

/-- What its responder makes of it. -/
def replied : Action × Frame × Responder × Log :=
  Engine.Specimen.responder.process ⟨0, 0, 0⟩ tight { processId := "1" }

open Engine.Specimen in
/-- The reply to the specimen is longer by one record than the specimen without its tunnel.  With 39
octets of room, or in a replay, the specimen is not refused for lack of room. -/
theorem specimen_grows_by_record :
    replied.1 = .transmit ∧ GrowsBy 20 16 tight replied.2.1
    ∧ (handle {} tables ⟨[], parts.octets, List.replicate 39 0⟩).ending ≠
        .stopped (.refused (.reply .noTailroom))
    ∧ (handle {} tables (Job.mk 0 parts.octets).entering).ending ≠
        .stopped (.refused (.reply .noTailroom)) := by
  have action : replied.1 = .transmit := by
    decide +kernel
  rcases grows_by_section_and_has_room with ⟨grows, roomy, replays⟩
  refine ⟨action, ?_, roomy _ _ _ (Nat.le_of_eq List.length_replicate.symm), ?_⟩
  · rcases grows responder _ ⟨0, 0, 0⟩ tight _ _ _ (Prod.ext action rfl) with
      ⟨layout, cursor, question, header, located, decoded, parsed, type, grown, -⟩
    have asked : parts.udp.destination = responder.settings.dnsPort := rfl
    have found : locate tight.octets responder.settings.dnsPort = .ok (parts.layout, parts.reached) :=
      (locate_octets _ _).trans (if_pos asked)
    obtain rfl : parts.layout = layout :=
      congrArg Prod.fst (Except.ok.inj (found.symm.trans located))
    obtain rfl : Engine.Specimen.question = question :=
      Except.ok.inj (asks.decoded.symm.trans decoded)
    have counted : (Dns.MessageHeader.parse? (replied.2.1.octets.drop
        (parts.layout.dns - parts.layout.stripSize))).map Dns.MessageHeader.additionals = some 0 := by
      decide +kernel
    have none : header.additionals = 0 :=
      Option.some.inj ((congrArg (Option.map Dns.MessageHeader.additionals) parsed).symm.trans counted)
    rw [none] at grown
    exact grown
  · exact (replays { host := { responder := some responder, log := { processId := "1" } } } responder
      ⟨0, 0, 0⟩ ⟨0, parts.octets⟩ rfl).2

end Specimen

end Replay
end DnsResponder
