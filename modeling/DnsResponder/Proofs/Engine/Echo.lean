import DnsResponder.Proofs.Dns.Sections
import DnsResponder.Proofs.Engine.Headers

namespace DnsResponder
namespace Engine

open Packet

/-!
# Which queries get an extension record

A client that understands extension records sends one in the additional section of its query, and
settings that echo such records let the response carry one as well.  The responder looks for it in
one place, behind the first question.  There the additional section starts in a query with one
question and no records before, and for such queries the two messages carry extension records
alike.

In any other query something else stands in that place.  A second question for the root and that
type looks the same as an extension record, and so a client gets one back that has sent none.
-/

section Extension

variable {settings : Settings} {tables : Tables} {frame : Frame} {parts : Dissection}
  {query : Dns.MessageHeader} {question : Dns.Question} {answer : Answer}

/-! ## What the responder looks at -/

/-- A response counts an additional record when the settings echo it, the query counts one, and an
extension record follows the first question. -/
theorem additionals_responseFor {data : Bytes} :
    (responseFor settings data parts query question answer).header.additionals = 1 ↔
      settings.ednsEcho = true ∧ 0 < query.additionals
        ∧ Dns.StartsWithOpt
          (data.drop (parts.layout.dns + Header.dns.size + question.consumed)) := by
  have counted (size : Option UInt16) :
      (Dns.Response.headerFor query settings.responseFlags size.isSome).additionals = 1 ↔
        size.isSome = true := by
    cases size with
    | none => exact iff_of_false (show (0 : UInt16) ≠ 1 by decide) Bool.false_ne_true
    | some size => exact iff_of_true rfl rfl
  have looked : (payloadSize? settings data (receptionOf parts query) question).isSome = true ↔
      (settings.ednsEcho && decide (0 < query.additionals)
        && Dns.optFollows data (parts.layout.dns + Header.dns.size + question.consumed)) = true := by
    rw [payloadSize?]
    exact Option.isSome_ite
  rw [responseFor, responseTo]
  refine (counted _).trans (looked.trans ?_)
  rw [Bool.and_eq_true, Bool.and_eq_true, decide_eq_true_iff, Dns.optFollows_iff, and_assoc]

/-! ## The response -/

theorem behindRecord?_answerOctets (qtype : UInt16) (ttl : UInt32) (address : Address)
    (rest : Bytes) :
    Dns.behindRecord? (answerOctets qtype ttl address ++ rest) = some rest := by
  have counted : Bytes.ofNat 2 address.family.addressSize =
      Bytes.ofWord (UInt16.ofNat address.family.addressSize) := by
    cases address.family <;> rfl
  have split : answerOctets qtype ttl address ++ rest =
      0xC0 :: 0x0C :: ((Bytes.ofWord qtype ++ Bytes.ofWord Dns.classInternet ++ Bytes.ofLong ttl) ++
        (Bytes.ofWord (UInt16.ofNat address.family.addressSize) ++ (address.octets ++ rest))) := by
    rw [answerOctets, counted]
    simp only [List.append_assoc, List.cons_append, List.nil_append]
  rw [split]
  apply Dns.behindRecord?_pointer
  · rw [List.length_append, List.length_append, Bytes.length_ofWord, Bytes.length_ofWord,
      Bytes.length_ofLong]
  · rw [Address.length_octets]
    cases address.family <;> rfl

theorem startsWithOpt_additionalOctets {header : Dns.MessageHeader} {payloadSize : UInt16} :
    Dns.StartsWithOpt (additionalOctets header payloadSize) ↔ header.additionals = 1 := by
  rw [additionalOctets]
  by_cases extended : header.additionals = 1
  · rw [if_pos extended]
    refine iff_of_true ⟨?_, rfl⟩ extended
    exact Nat.le_of_eq rfl
  · rw [if_neg extended]
    refine iff_of_false ?_ extended
    rintro ⟨long, -⟩
    exact absurd long (by decide)

/-- The message of a reply, with the header that responds to the query. -/
theorem message_repliedFrame
    (asks : Asks settings tables frame.octets parts query question answer) :
    (Reply.repliedFrame frame parts question.consumed
        (responseFor settings frame.octets parts query question answer) settings).octets.drop
          (parts.layout.dns - parts.layout.stripSize) =
      (responseFor settings frame.octets parts query question answer).header.encode ++
        (parts.questionOctets question.consumed ++
          (answerOctets question.key.qtype answer.ttl answer.address ++
            additionalOctets (responseFor settings frame.octets parts query question answer).header
              settings.ednsPayloadSize)) := by
  rcases octets_repliedFrame asks with ⟨headers, header, reached, split, -, -⟩
  have dns : parts.layout.dns - parts.layout.stripSize = headers.length :=
    (Nat.sub_eq_of_eq_add' parts.messageOffset_eq).trans reached.symm
  have parsed : Dns.MessageHeader.parse? ((Reply.repliedFrame frame parts question.consumed
      (responseFor settings frame.octets parts query question answer) settings).octets.drop
        (parts.layout.dns - parts.layout.stripSize)) =
      some (responseFor settings frame.octets parts query question answer).header :=
    parse_repliedFrame
  rw [split, dns, List.drop_left, Dns.MessageHeader.parse?_encode, Option.some.injEq] at parsed
  rw [split, dns, List.drop_left, parsed]

/-- The question of a reply is passed over by its labels when that of its query is. -/
theorem behindQuestion?_reply
    (asks : Asks settings tables frame.octets parts query question answer)
    (labelled : Dns.Question.decode frame.octets (parts.layout.dns + Header.dns.size) .byLabels =
      .ok question) (rest : Bytes) :
    Dns.behindQuestion? (parts.questionOctets question.consumed ++ rest) = some rest := by
  have whole := Dns.Question.whole_of_decode labelled (Records.typed_of_resolve asks.resolved)
  have asked : parts.questionOctets question.consumed =
      (frame.octets.drop (parts.layout.dns + Header.dns.size)).take question.consumed := by
    rw [asks.whole]
    exact parts.questionOctets_eq question.consumed
  have size : (parts.questionOctets question.consumed).length = question.consumed := by
    rw [asked, List.length_take, List.length_drop]
    omega
  have again : Dns.Question.decode (parts.questionOctets question.consumed ++ rest) 0 .byLabels =
      .ok question := by
    rw [asked]
    exact Dns.Question.decode_again labelled whole (List.nil_append _).symm rfl
  have inside : 0 + question.consumed ≤ (parts.questionOctets question.consumed ++ rest).length := by
    rw [List.length_append, size]
    omega
  have passed := Dns.behindQuestion?_of_decode again inside
  rw [Nat.zero_add, List.drop_left' size] at passed
  exact passed

/-- The additional section of a reply is what follows its answer record. -/
theorem additionalSection?_reply
    (asks : Asks settings tables frame.octets parts query question answer)
    (labelled : Dns.Question.decode frame.octets (parts.layout.dns + Header.dns.size) .byLabels =
      .ok question) {header : Dns.MessageHeader} (responds : RespondsTo query header)
    (rest : Bytes) :
    Dns.additionalSection? header (parts.questionOctets question.consumed ++
      (answerOctets question.key.qtype answer.ttl answer.address ++ rest)) = some rest := by
  have asked : header.questions ≠ 0 := by
    rw [responds.questions]
    decide
  rw [Dns.additionalSection?_of_first asked (behindQuestion?_reply asks labelled _),
    responds.questions, responds.answers, responds.authorities]
  exact congrArg (Option.bind · _) (behindRecord?_answerOctets ..)

/-- The message of a reply carries an extension record when its header counts one. -/
theorem carriesOpt_repliedFrame
    (asks : Asks settings tables frame.octets parts query question answer)
    (labelled : Dns.Question.decode frame.octets (parts.layout.dns + Header.dns.size) .byLabels =
      .ok question) :
    Dns.CarriesOpt ((Reply.repliedFrame frame parts question.consumed
        (responseFor settings frame.octets parts query question answer) settings).octets.drop
          (parts.layout.dns - parts.layout.stripSize)) ↔
      (responseFor settings frame.octets parts query question answer).header.additionals = 1 := by
  have responds : RespondsTo query
      (responseFor settings frame.octets parts query question answer).header :=
    respondsTo_headerFor asks.standard _ _
  rw [message_repliedFrame asks,
    Dns.carriesOpt_encode (additionalSection?_reply asks labelled responds _),
    startsWithOpt_additionalOctets]
  refine and_iff_right_of_imp fun extended => ?_
  rw [extended]
  decide

/-! ## The query -/

section Query

variable {body : Bytes} (asks : Asks settings tables frame.octets parts query question answer)
  (message : frame.octets.drop parts.layout.dns = query.encode ++ body)

include message in
theorem drop_behind_header (size : Nat) :
    frame.octets.drop (parts.layout.dns + Header.dns.size + size) = body.drop size := by
  rw [← List.drop_drop, ← List.drop_drop, message, List.drop_left' query.length_encode]

include asks message in
/-- The question of a query is passed over by its labels when it is found by them. -/
theorem behindQuestion?_query
    (labelled : Dns.Question.decode frame.octets (parts.layout.dns + Header.dns.size) .byLabels =
      .ok question) :
    Dns.behindQuestion? body = some (body.drop question.consumed) := by
  have whole := Dns.Question.whole_of_decode labelled (Records.typed_of_resolve asks.resolved)
  have start : frame.octets.drop (parts.layout.dns + Header.dns.size) = body :=
    drop_behind_header message 0
  have passed := Dns.behindQuestion?_of_decode labelled whole
  rw [drop_behind_header message, start] at passed
  exact passed

end Query

end Extension

/-! ## Transmitted frames -/

/-- A frame that is sent counts an additional record exactly when the settings echo such records,
the query counts one, and an extension record follows the first question.

When that question is found by its labels, the count says of the response what passing over its
sections says.  From behind the question, the additional section of the query is found by passing
over the other questions and over the records between.  So without any of these, a response carries
an extension record exactly when its query does and the settings echo it. -/
theorem echoes_what_follows {responder after : Responder} {moment : Moment} {frame sent : Frame}
    {log left : Log}
    (transmitted : responder.process moment frame log = (.transmit, sent, after, left)) :
    ∃ (layout : Layout) (cursor : Cursor) (query response : Dns.MessageHeader)
      (question : Dns.Question) (asked replied behind : Bytes),
      locate frame.octets responder.settings.dnsPort = .ok (layout, cursor)
      ∧ frame.octets.drop layout.dns = query.encode ++ asked
      ∧ sent.octets.drop (layout.dns - layout.stripSize) = response.encode ++ replied
      ∧ Dns.Question.decode frame.octets (layout.dns + Header.dns.size)
          responder.settings.namePolicy = .ok question
      ∧ behind = asked.drop question.consumed
      ∧ (response.additionals = 1 ↔
          responder.settings.ednsEcho = true ∧ 0 < query.additionals ∧ Dns.StartsWithOpt behind)
      ∧ (Dns.Question.decode frame.octets (layout.dns + Header.dns.size) .byLabels = .ok question →
          (Dns.CarriesOpt (response.encode ++ replied) ↔ response.additionals = 1)
          ∧ Dns.additionalSection? query asked =
              (Dns.behindAll? Dns.behindQuestion? (query.questions.toNat - 1) behind).bind
                (Dns.behindAll? Dns.behindRecord?
                  (query.answers.toNat + query.authorities.toNat))
          ∧ (query.questions = 1 → query.answers = 0 → query.authorities = 0 →
              (Dns.CarriesOpt (response.encode ++ replied) ↔
                responder.settings.ednsEcho = true ∧ Dns.CarriesOpt (query.encode ++ asked)))) := by
  rcases asks_of_sent transmitted with ⟨parts, query, question, answer, asks, -, rfl⟩
  rcases message_of_asks asks with ⟨body, message⟩
  have split := message_repliedFrame asks
  have counted :
      (responseFor responder.settings frame.octets parts query question answer).header.additionals
          = 1 ↔ responder.settings.ednsEcho = true ∧ 0 < query.additionals
        ∧ Dns.StartsWithOpt (body.drop question.consumed) := by
    rw [additionals_responseFor, drop_behind_header message]
  refine ⟨parts.layout, parts.reached, query, _, question, body, _, _, asks.located, message, split,
    asks.decoded, rfl, counted, fun labelled => ?_⟩
  have first := behindQuestion?_query asks message labelled
  have carried := carriesOpt_repliedFrame asks labelled
  rw [split] at carried
  refine ⟨carried, Dns.additionalSection?_of_first asks.questions first, ?_⟩
  intro one unanswered unreferred
  rw [carried, counted,
    Dns.carriesOpt_encode (Dns.additionalSection?_of_only one unanswered unreferred first)]

/-! ## Two queries -/

namespace Specimen

/-- A responder that echoes extension records. -/
def echoing : Responder :=
  { responder with settings := { ednsEcho := true } }

/-- The query of the specimen, with an extension record. -/
def extended : Dissection :=
  { parts with
    message := { query with additionals := 1 }.encode ++
      (Dns.questionOctets [1, 97] Dns.typeA Dns.classInternet ++ Dns.Response.optRecord 1232) }

/-- An address record of the root without any data. -/
def rootRecord : Bytes :=
  0 :: (Bytes.ofWord Dns.typeA ++ (Bytes.ofWord Dns.classInternet ++ List.replicate 6 0))

/-- The query of the specimen, with a second question, for the extension records of the root, and an
additional record that is none. -/
def doubled : Dissection :=
  { parts with
    message := { query with questions := 2, additionals := 1 }.encode ++
      (Dns.questionOctets [1, 97] Dns.typeA Dns.classInternet ++
        (Dns.questionOctets [] Dns.typeOpt Dns.classInternet ++ rootRecord)) }

/-- A query that came in the tunnel of the specimen. -/
def came (asking : Dissection) : Frame :=
  ⟨[8, 9], asking.octets, List.replicate 16 7⟩

end Specimen

open Specimen in
/-- The query with an extension record gets one back. -/
theorem specimen_is_extended :
    ∃ (sent : Frame) (after : Responder) (left : Log),
      echoing.process ⟨0, 0, 0⟩ (came extended) { processId := "1" } =
        (.transmit, sent, after, left)
      ∧ Dns.CarriesOpt extended.message
      ∧ Dns.CarriesOpt (sent.octets.drop (extended.layout.dns - extended.layout.stripSize)) := by
  have action : (echoing.process ⟨0, 0, 0⟩ (came extended) { processId := "1" }).1 = .transmit := by
    decide +kernel
  obtain ⟨⟨acted, sent, after, left⟩, run⟩ : ∃ run,
      run = echoing.process ⟨0, 0, 0⟩ (came extended) { processId := "1" } := ⟨_, rfl⟩
  rw [← run] at action ⊢
  obtain rfl : acted = .transmit := action
  have carried : Dns.CarriesOpt extended.message :=
    ⟨{ query with additionals := 1 }, Dns.Response.optRecord 1232, by decide, by decide, by decide,
      by decide⟩
  refine ⟨sent, after, left, rfl, carried, ?_⟩
  rcases echoes_what_follows run.symm with
    ⟨layout, cursor, asked, response, question, body, replied, behind, located, message, split,
    decoded, -, -, labelled⟩
  have port : extended.udp.destination = echoing.settings.dnsPort := rfl
  have octets : (came extended).octets = extended.octets := rfl
  rw [octets, locate_octets, if_pos port] at located
  obtain rfl : extended.layout = layout := congrArg Prod.fst (Except.ok.inj located)
  have found (policy : Dns.NamePolicy) :
      Dns.Question.decode (came extended).octets (extended.layout.dns + Header.dns.size) policy =
        .ok Specimen.question := by
    cases policy <;> rfl
  rw [found, Except.ok.injEq] at decoded
  have shown : (came extended).octets.drop extended.layout.dns = extended.message := by
    rw [octets, extended.split_message]
    exact List.drop_left' extended.length_headers
  rw [message] at shown
  obtain rfl : asked = { query with additionals := 1 } :=
    Dns.MessageHeader.eq_of_encode_append shown
  have alike := (labelled (decoded ▸ found .byLabels)).2.2 rfl rfl rfl
  rw [← split, shown] at alike
  exact alike.mpr ⟨rfl, carried⟩

open Specimen in
/-- The additional section of the doubled query is a record of another type, no other section has a
record, and the query gets an extension record back. -/
theorem client_gets_record_it_did_not_send :
    (echoing.process ⟨0, 0, 0⟩ (came doubled) { processId := "1" }).1 = .transmit
      ∧ Dns.CarriesOpt ((echoing.process ⟨0, 0, 0⟩ (came doubled)
        { processId := "1" }).2.1.octets.drop (doubled.layout.dns - doubled.layout.stripSize))
      ∧ (came doubled).octets.drop doubled.layout.dns = doubled.message
      ∧ ∃ header, Dns.MessageHeader.parse? doubled.message = some header
        ∧ header.answers = 0 ∧ header.authorities = 0
        ∧ Dns.additionalSection? header (doubled.message.drop Header.dns.size) = some rootRecord
        ∧ rootRecord.take 3 ≠ 0 :: Bytes.ofWord Dns.typeOpt := by
  refine ⟨by decide +kernel, ?_, ?_, { query with questions := 2, additionals := 1 },
    by decide +kernel, rfl, rfl, by decide +kernel, by decide⟩
  · exact ⟨{ query with flags := 0x8100, answers := 1, additionals := 1 },
      Dns.Response.optRecord 512, by decide +kernel, by decide, by decide +kernel, by decide⟩
  · decide +kernel

end Engine
end DnsResponder
