import DnsResponder.Engine.Decision
import DnsResponder.Engine.Accounting
import DnsResponder.Proofs.Dns.Header
import DnsResponder.Proofs.Dns.Question
import DnsResponder.Proofs.Dns.Response
import DnsResponder.Proofs.Records
import DnsResponder.Proofs.Reply.Edit

namespace DnsResponder
namespace Engine

open Packet

/-!
# Which frames are answered

Handling a frame is a chain of checks and lookups, each of which can end it.  `Asks` says of a frame
what all of them say together: which dissection it is, whom it is for, what it asks, and what the
answer is.  A frame is answered exactly when it asks for something and the reply fits, and then the
reply is that of the dissection.  Every other frame comes out as it went in.
-/

/-! ## Reception -/

theorem before_reached (parts : Dissection) :
    parts.reached.Before parts.octets parts.message :=
  ⟨rfl, parts.headers, parts.split_message, parts.length_headers⟩

theorem destination_layout (parts : Dissection) :
    parts.layout.destination? parts.octets = some parts.inner.destination := by
  have read := parts.inner.slice_destination parts.split_inner parts.length_before_inner
  have family : parts.layout.inner.family = parts.inner.destination.family :=
    parts.inner.family_destination.symm
  rw [Layout.destination?, IpHeader.destination?, IpHeader.addressAt?]
  apply (congrArg (Option.map _) read).trans
  rw [family, Option.map_some, Address.read_octets]

variable {settings : Settings} {served : Served}

/-- What is received of a frame: whom it is for and the header of its message. -/
def receptionOf (parts : Dissection) (query : Dns.MessageHeader) : Reception where
  layout := parts.layout
  destination := parts.inner.destination
  query := query
  questionStart := parts.messageOffset + Header.dns.size

/-- A frame to the port, for a served destination and with a whole message header, is received. -/
theorem receive_eq {parts : Dissection} {query : Dns.MessageHeader} {body : Bytes}
    (port : parts.udp.destination = settings.dnsPort)
    (inService : served.contains parts.inner.destination = true)
    (message : parts.message = query.encode ++ body) :
    receive settings served parts.octets = .ok (receptionOf parts query) := by
  have located : locate parts.octets settings.dnsPort = .ok (parts.layout, parts.reached) := by
    rw [locate_octets, if_pos port]
  have stands := before_reached parts
  rw [message] at stands
  have read := stands.read_eq query.length_encode
  simp only [receive, located, destination_layout, inService, read, Stop.ofReading, Stop.require,
    bind, Except.bind, pure, Except.pure, Bool.not_true, Bool.false_eq_true, if_false,
    Dns.MessageHeader.ofView_encode]
  rfl

/-- What was received is a frame to the port, for a served destination, with a whole message
header. -/
theorem of_receive {data : Bytes} {reception : Reception}
    (found : receive settings served data = .ok reception) :
    ∃ (parts : Dissection) (query : Dns.MessageHeader) (body : Bytes),
      data = parts.octets ∧ parts.udp.destination = settings.dnsPort
      ∧ served.contains parts.inner.destination = true
      ∧ parts.message = query.encode ++ body ∧ reception = receptionOf parts query := by
  have received := found
  rcases bind_eq_ok_iff.mp found with ⟨⟨layout, cursor⟩, located, found⟩
  rcases exists_dissection located with ⟨parts, rfl, port, rfl, rfl⟩
  rcases bind_eq_ok_iff.mp found with ⟨destination, shown, found⟩
  rw [Stop.require_eq_ok_iff, destination_layout, Option.some.injEq] at shown
  subst shown
  cases inService : served.contains parts.inner.destination with
  | false =>
    rw [inService] at found
    cases found
  | true =>
    rw [inService] at found
    rcases bind_eq_ok_iff.mp found with ⟨⟨view, next⟩, read, -⟩
    rcases (before_reached parts).of_read (Stop.ofReading_eq_ok_iff.mp read) with
      ⟨body, split, -, -, -⟩
    rcases Dns.MessageHeader.exists_of_length view.octets view.size_eq with ⟨query, shape⟩
    have message : parts.message = query.encode ++ body := by rw [split, shape]
    refine ⟨parts, query, body, rfl, port, inService, message, ?_⟩
    rw [receive_eq port inService message] at received
    exact (Except.ok.inj received).symm

/-! ## Reasons to pass a frame on -/

/-- A stop that is a decision on the frame: what it holds is not to be answered, or its reply would
break a limit.  An access outside the octets is none, and neither is a reply that went wrong. -/
def IsDecision : Stop → Prop
  | .outside => False
  | .refused (.reply cause) => Reply.isLimit cause = true
  | .refused _ => True

/-- A frame that ends so is passed on, by decision or for the dry run. -/
def Ending.Passes : Ending → Prop
  | .replied _ _ => False
  | .dryRun => True
  | .stopped stop => IsDecision stop

theorem Ending.Passes.action_eq {run : Run} (passes : run.ending.Passes) : run.action = .pass := by
  rw [Run.action]
  cases ended : run.ending with
  | replied answer replySize =>
    rw [ended] at passes
    exact passes.elim
  | dryRun => rfl
  | stopped stop => rfl

/-- Found before a frame is received: its headers are no query's, or it is for someone else. -/
def Unreceived : Stop → Prop
  | .refused reason => reason.OfHeaders ∨ reason = .notServed
  | .outside => False

theorem Unreceived.of_headers {stop : Stop} (early : stop.OfHeaders) : Unreceived stop := by
  cases stop with
  | outside => exact early
  | refused reason => exact .inl early

theorem Unreceived.isDecision {stop : Stop} (early : Unreceived stop) : IsDecision stop := by
  cases stop with
  | outside => exact early
  | refused reason =>
    cases reason with
    | reply cause => rcases early with impossible | impossible <;> cases impossible
    | _ => exact trivial

theorem isDecision_of_message {reason : Refusal} (refused : reason.OfMessage) :
    IsDecision (.refused reason) := by
  cases reason with
  | packet cause => exact trivial
  | _ => exact refused.elim

theorem isDecision_of_lookup {reason : Refusal} (refused : reason.OfLookup) :
    IsDecision (.refused reason) := by
  cases reason with
  | reply cause => exact refused.elim
  | _ => exact trivial

theorem stopsOnlyFor_receive (settings : Settings) (served : Served) (data : Bytes) :
    StopsOnlyFor Unreceived (receive settings served data) := by
  have located : StopsOnlyFor Unreceived (locate data settings.dnsPort) :=
    (stopsOnlyFor_locate data settings.dnsPort).mono fun _ => Unreceived.of_headers
  refine located.bind fun ⟨layout, cursor⟩ found => ?_
  rcases exists_dissection found with ⟨parts, rfl, -, rfl, rfl⟩
  -- the destination of a located packet can always be read
  have present : StopsOnlyFor Unreceived
      (Stop.require (parts.layout.destination? parts.octets)) := by
    rw [destination_layout]
    exact stopsOnlyFor_ok _
  refine present.bind fun destination _ => ?_
  dsimp only
  split
  · exact stopsOnlyFor_error (.inr rfl)
  · have read : StopsOnlyFor Unreceived
        (Stop.ofReading (parts.reached.read parts.octets .dns)) :=
      stopsOnlyFor_ofReading _ fun _ => .inl rfl
    exact read.bind fun _ _ => stopsOnlyFor_ok _

theorem stopsOnlyFor_inquire (settings : Settings) (data : Bytes) (reception : Reception) :
    StopsOnlyFor Refusal.OfMessage (inquire settings data reception) := by
  rw [inquire]
  split
  · exact stopsOnlyFor_error rfl
  · split
    · exact stopsOnlyFor_error rfl
    · exact (Dns.Question.stopsOnlyFor_decode _ _ _).renamed fun _ found => found

/-! ## What a frame asks -/

/-- The response that goes out, if there is room for it. -/
def responseTo (settings : Settings) (data : Bytes) (reception : Reception)
    (question : Dns.Question) (answer : Answer) : Dns.Response :=
  let payloadSize := payloadSize? settings data reception question
  ⟨Dns.Response.headerFor reception.query settings.responseFlags payloadSize.isSome,
    Dns.Response.records answer payloadSize⟩

/-- A frame that asks something to which there is an answer, and is to be answered. -/
structure Asks (settings : Settings) (tables : Tables) (data : Bytes) (parts : Dissection)
    (query : Dns.MessageHeader) (question : Dns.Question) (answer : Answer) : Prop where
  whole : data = parts.octets
  port : parts.udp.destination = settings.dnsPort
  inService : tables.served.contains parts.inner.destination = true
  message : ∃ body, parts.message = query.encode ++ body
  standard : query.isStandardQuery = true
  questions : query.questions ≠ 0
  decoded : Dns.Question.decode data (parts.messageOffset + Header.dns.size) settings.namePolicy =
    .ok question
  resolved : tables.records.resolve question.key query.id settings.randomTtl = .ok answer
  wet : tables.options.switch .dryRun settings.dryRun = false

theorem inquire_eq_ok_iff {data : Bytes} {reception : Reception} {question : Dns.Question} :
    inquire settings data reception = .ok question ↔
      reception.query.isStandardQuery = true ∧ reception.query.questions ≠ 0
        ∧ Dns.Question.decode data reception.questionStart settings.namePolicy = .ok question := by
  rw [inquire]
  cases standard : reception.query.isStandardQuery with
  | false =>
    constructor
    · intro impossible
      cases impossible
    · rintro ⟨impossible, -⟩
      cases impossible
  | true =>
    by_cases none : reception.query.questions = 0
    · rw [if_neg (by decide), if_pos none]
      constructor
      · intro impossible
        cases impossible
      · rintro ⟨-, some, -⟩
        exact absurd none some
    · rw [if_neg (by decide), if_neg none, mapError_eq_ok_iff]
      exact ⟨fun found => ⟨rfl, none, found⟩, fun ⟨_, _, found⟩ => found⟩

/-! ## Answering -/

section Answering

variable {tables : Tables} {frame : Frame} {parts : Dissection} {query : Dns.MessageHeader}
  {question : Dns.Question} {answer : Answer}

def responseFor (settings : Settings) (data : Bytes) (parts : Dissection)
    (query : Dns.MessageHeader) (question : Dns.Question) (answer : Answer) : Dns.Response :=
  responseTo settings data (receptionOf parts query) question answer

def ReplyFits (settings : Settings) (frame : Frame) (parts : Dissection)
    (query : Dns.MessageHeader) (question : Dns.Question) (answer : Answer) : Prop :=
  Reply.Fits parts frame.tailroom question.consumed
    (responseFor settings frame.octets parts query question answer).answerSection.length settings

/-- Composing the response cannot fail, so answering a frame is writing the reply and telling its
size. -/
theorem respond_run :
    (respond settings (receptionOf parts query) question answer).run frame =
      (do
        Reply.reply parts.layout (responseFor settings frame.octets parts query question answer)
          question.consumed settings
        return (responseFor settings frame.octets parts query question answer).answerSection.length :
        Reply.Edit Nat).run frame := by
  have composed := Dns.Response.compose_eq query answer
    (payloadSize? settings frame.octets (receptionOf parts query) question) settings.responseFlags
  have read : (Reply.Edit.read fun data =>
      some (payloadSize? settings data (receptionOf parts query) question)).run frame =
        .ok (payloadSize? settings frame.octets (receptionOf parts query) question) frame := rfl
  rw [respond]
  apply (Reply.Edit.run_bind read).trans
  exact Reply.Edit.run_bind (Reply.Edit.run_attempt (Stop.ofRefusal_eq_ok_iff.mpr composed))

/-- Up to the answer, the steps of handling a frame that asks something are known. -/
theorem Asks.steps (asks : Asks settings tables frame.octets parts query question answer) :
    receive settings tables.served frame.octets = .ok (receptionOf parts query)
      ∧ inquire settings frame.octets (receptionOf parts query) = .ok question
      ∧ tables.records.resolve question.key (receptionOf parts query).query.id settings.randomTtl =
        .ok answer := by
  rcases asks.message with ⟨body, message⟩
  have received := receive_eq asks.port asks.inService message
  rw [← asks.whole] at received
  refine ⟨received, ?_, asks.resolved⟩
  exact inquire_eq_ok_iff.mpr ⟨asks.standard, asks.questions, asks.decoded⟩

theorem Asks.located (asks : Asks settings tables frame.octets parts query question answer) :
    locate frame.octets settings.dnsPort = .ok (parts.layout, parts.reached) := by
  rw [asks.whole, locate_octets, if_pos asks.port]

/-- A frame that asks something is answered when the reply fits. -/
theorem handle_of_fits (asks : Asks settings tables frame.octets parts query question answer)
    (fits : ReplyFits settings frame parts query question answer) :
    handle settings tables frame =
      ⟨some (receptionOf parts query), some question,
        .replied answer (responseFor settings frame.octets parts query question
          answer).answerSection.length,
        Reply.repliedFrame frame parts question.consumed
          (responseFor settings frame.octets parts query question answer) settings⟩ := by
  rcases asks.steps with ⟨received, inquired, resolved⟩
  have responded : (respond settings (receptionOf parts query) question answer).run frame = .ok
      (responseFor settings frame.octets parts query question answer).answerSection.length
      (Reply.repliedFrame frame parts question.consumed
        (responseFor settings frame.octets parts query question answer) settings) :=
    respond_run.trans (Reply.Edit.run_bind (Reply.reply_run_of_fits asks.whole fits))
  simp only [handle, received, inquired, resolved, asks.wet, Bool.false_eq_true, if_false,
    responded]

/-- The question of a frame that asks something is in the message, with its type and its class. -/
theorem Asks.starts (asks : Asks settings tables frame.octets parts query question answer) :
    Header.dns.size + question.consumed ≤ parts.message.length := by
  have whole := Dns.Question.whole_of_decode asks.decoded (Records.typed_of_resolve asks.resolved)
  rw [asks.whole, parts.length_octets] at whole
  omega

/-- A frame that asks something is left alone when the reply does not fit, for the limit that the
reply would break. -/
theorem handle_of_not_fits (asks : Asks settings tables frame.octets parts query question answer)
    (excess : ¬ ReplyFits settings frame parts query question answer) :
    ∃ cause, (Reply.isLimit cause = true
        ∧ Reply.Obstacle Reply.packetSize frame parts.layout
          (responseFor settings frame.octets parts query question answer).answerSection.length
          question.consumed settings cause)
      ∧ handle settings tables frame =
      ⟨some (receptionOf parts query), some question, .stopped (.refused (.reply cause)), frame⟩ := by
  rcases asks.steps with ⟨received, inquired, resolved⟩
  rcases Reply.reply_run_of_not_fits asks.whole excess with ⟨stop, refused, stopped⟩
  rcases Reply.stopsOnlyFor_obstacles asks.whole stop refused with ⟨cause, rfl, obstacle⟩
  have limit : Reply.isLimit cause = true := by
    rcases Reply.stopsOnlyFor_plan asks.whole _ refused with ⟨same, ⟨⟩, limit | ⟨-, short⟩⟩
    · exact limit
    · exact absurd asks.starts (Nat.not_le_of_lt short)
  have responded := respond_run.trans (Reply.Edit.run_bind_error stopped)
  refine ⟨cause, ⟨limit, obstacle⟩, ?_⟩
  simp only [handle, received, inquired, resolved, asks.wet, Bool.false_eq_true, if_false,
    responded]

/-! ## The courses that a frame can take -/

/-- How far a frame came and how it ended, with what was found on the way. -/
inductive Course (settings : Settings) (tables : Tables) (frame : Frame) : Run → Prop
  | unreceived {stop : Stop}
      (stopped : receive settings tables.served frame.octets = .error stop)
      (early : Unreceived stop) :
      Course settings tables frame ⟨none, none, .stopped stop, frame⟩
  | unread {reception : Reception} {reason : Refusal}
      (received : receive settings tables.served frame.octets = .ok reception)
      (inquired : inquire settings frame.octets reception = .error reason)
      (refused : reason.OfMessage) :
      Course settings tables frame ⟨some reception, none, .stopped (.refused reason), frame⟩
  | unresolved {reception : Reception} {question : Dns.Question} {reason : Refusal}
      (received : receive settings tables.served frame.octets = .ok reception)
      (inquired : inquire settings frame.octets reception = .ok question)
      (resolved : tables.records.resolve question.key reception.query.id settings.randomTtl =
        .error reason)
      (refused : reason.OfLookup) :
      Course settings tables frame
        ⟨some reception, some question, .stopped (.refused reason), frame⟩
  | dry {reception : Reception} {question : Dns.Question} {answer : Answer}
      (received : receive settings tables.served frame.octets = .ok reception)
      (inquired : inquire settings frame.octets reception = .ok question)
      (resolved : tables.records.resolve question.key reception.query.id settings.randomTtl =
        .ok answer)
      (dry : tables.options.switch .dryRun settings.dryRun = true) :
      Course settings tables frame ⟨some reception, some question, .dryRun, frame⟩
  | unfit {parts : Dissection} {query : Dns.MessageHeader} {question : Dns.Question}
      {answer : Answer} {cause : ReplyError}
      (asks : Asks settings tables frame.octets parts query question answer)
      (excess : ¬ ReplyFits settings frame parts query question answer)
      (limit : Reply.isLimit cause = true) :
      Course settings tables frame
        ⟨some (receptionOf parts query), some question, .stopped (.refused (.reply cause)), frame⟩
  | replied {parts : Dissection} {query : Dns.MessageHeader} {question : Dns.Question}
      {answer : Answer}
      (asks : Asks settings tables frame.octets parts query question answer)
      (fits : ReplyFits settings frame parts query question answer) :
      Course settings tables frame
        ⟨some (receptionOf parts query), some question,
          .replied answer (responseFor settings frame.octets parts query question
            answer).answerSection.length,
          Reply.repliedFrame frame parts question.consumed
            (responseFor settings frame.octets parts query question answer) settings⟩

/-- Every frame takes one of the courses. -/
theorem course_of_handle (settings : Settings) (tables : Tables) (frame : Frame) :
    Course settings tables frame (handle settings tables frame) := by
  cases received : receive settings tables.served frame.octets with
  | error stop =>
    have handled : handle settings tables frame = ⟨none, none, .stopped stop, frame⟩ := by
      simp only [handle, received]
    rw [handled]
    exact .unreceived received (stopsOnlyFor_receive _ _ _ stop received)
  | ok reception =>
    cases inquired : inquire settings frame.octets reception with
    | error reason =>
      have handled : handle settings tables frame =
          ⟨some reception, none, .stopped (.refused reason), frame⟩ := by
        simp only [handle, received, inquired]
      rw [handled]
      exact .unread received inquired (stopsOnlyFor_inquire _ _ _ reason inquired)
    | ok question =>
      cases resolved : tables.records.resolve question.key reception.query.id
          settings.randomTtl with
      | error reason =>
        have handled : handle settings tables frame =
            ⟨some reception, some question, .stopped (.refused reason), frame⟩ := by
          simp only [handle, received, inquired, resolved]
        rw [handled]
        exact .unresolved received inquired resolved
          (Records.stopsOnlyFor_resolve _ _ _ _ reason resolved)
      | ok answer =>
        cases dry : tables.options.switch .dryRun settings.dryRun with
        | true =>
          have handled : handle settings tables frame =
              ⟨some reception, some question, .dryRun, frame⟩ := by
            simp only [handle, received, inquired, resolved, dry, if_true]
          rw [handled]
          exact .dry received inquired resolved dry
        | false =>
          rcases of_receive received with ⟨parts, query, body, whole, port, inService, message, rfl⟩
          rcases inquire_eq_ok_iff.mp inquired with ⟨standard, questions, decoded⟩
          have asks : Asks settings tables frame.octets parts query question answer :=
            ⟨whole, port, inService, ⟨body, message⟩, standard, questions, decoded, resolved, dry⟩
          by_cases fits : ReplyFits settings frame parts query question answer
          · rw [handle_of_fits asks fits]
            exact .replied asks fits
          · rcases handle_of_not_fits asks fits with ⟨cause, ⟨limit, -⟩, handled⟩
            rw [handled]
            exact .unfit asks fits limit

/-- A frame either asks something and gets its reply, or is passed on as it came. -/
theorem handle_cases (settings : Settings) (tables : Tables) (frame : Frame) :
    (∃ parts query question answer,
        Asks settings tables frame.octets parts query question answer
        ∧ ReplyFits settings frame parts query question answer) ∨
      ((handle settings tables frame).ending.Passes
        ∧ (handle settings tables frame).frame = frame) := by
  have course := course_of_handle settings tables frame
  generalize handle settings tables frame = run at course ⊢
  cases course with
  | unreceived _ early => exact .inr ⟨early.isDecision, rfl⟩
  | unread _ _ refused => exact .inr ⟨isDecision_of_message refused, rfl⟩
  | unresolved _ _ _ refused => exact .inr ⟨isDecision_of_lookup refused, rfl⟩
  | dry => exact .inr ⟨trivial, rfl⟩
  | unfit _ _ limit => exact .inr ⟨limit, rfl⟩
  | replied asks fits => exact .inl ⟨_, _, _, _, asks, fits⟩

/-- A frame that is passed on is the frame that came. -/
theorem frame_of_pass (passed : (handle settings tables frame).action = .pass) :
    (handle settings tables frame).frame = frame := by
  rcases handle_cases settings tables frame with
    ⟨parts, query, question, answer, asks, fits⟩ | ⟨-, same⟩
  · rw [handle_of_fits asks fits] at passed
    cases passed
  · exact same

/-- A frame that is sent back asked something, and is the reply to it. -/
theorem asks_of_transmit (sent : (handle settings tables frame).action = .transmit) :
    ∃ parts query question answer, Asks settings tables frame.octets parts query question answer
      ∧ ReplyFits settings frame parts query question answer
      ∧ (handle settings tables frame).frame =
        Reply.repliedFrame frame parts question.consumed
          (responseFor settings frame.octets parts query question answer) settings := by
  rcases handle_cases settings tables frame with
    ⟨parts, query, question, answer, asks, fits⟩ | ⟨passed, -⟩
  · exact ⟨parts, query, question, answer, asks, fits,
      congrArg Run.frame (handle_of_fits asks fits)⟩
  · rw [passed.action_eq] at sent
    cases sent

end Answering

/-! ## A frame that asks

A query for the address of `a`, tagged, and wrapped in another IPv4 packet. -/

namespace Specimen

/-- The fields that both packets of the specimen share. -/
def base (protocol : UInt8) (source destination : BitVec 32) : Ipv4Fields where
  versionAndSize := 0x45
  service := 0
  packetSize := 48
  id := 1
  fragment := 0x4000
  hops := 64
  protocol := protocol
  checksum := 0
  source := source
  destination := destination
  options := []
  version_eq := by decide
  size_eq := by decide
  whole := by decide

def query : Dns.MessageHeader :=
  { id := 77, flags := Dns.Flag.recursionDesired, questions := 1 }

def parts : Dissection where
  link := ⟨[2, 0, 0, 0, 0, 1], [2, 0, 0, 0, 0, 2], [⟨ethertypeVlan, 7, .inl rfl⟩], rfl, rfl,
    by decide⟩
  outer := some (.v4 (base protocolIpv4 0x0A000001 0x0A000002))
  inner := .v4 (base protocolUdp 0xC0000201 0xC0000235)
  udp := ⟨4660, 53, 28, 0⟩
  message := query.encode ++ Dns.questionOctets [1, 97] Dns.typeA Dns.classInternet
  carries := by
    intro tunnel wrapped
    cases wrapped
    rfl
  carriesUdp := rfl

def question : Dns.Question :=
  ⟨⟨.ofOctets [1, 97], Dns.typeA, Dns.classInternet⟩, 7⟩

def answer : Answer :=
  ⟨.v4 0x01020304, 300⟩

def tables : Tables where
  records := { a := ⟨[(question.key, ⟨0x01020304, 300⟩)]⟩ }
  served := { v4 := [⟨0xC0000200, 24, by decide⟩] }

theorem asks : Asks {} tables parts.octets parts query question answer where
  whole := rfl
  port := rfl
  inService := by decide
  message := ⟨_, rfl⟩
  standard := by decide
  questions := by decide
  decoded := by
    have split : parts.octets = (parts.headers ++ query.encode) ++
        (Dns.questionOctets [1, 97] Dns.typeA Dns.classInternet ++ []) := by
      rw [parts.split_message, List.append_nil, List.append_assoc]
      rfl
    exact Dns.Question.decode_eq split rfl (fun _ => rfl)
  resolved := by
    rfl
  wet := by decide

end Specimen
end Engine
end DnsResponder
