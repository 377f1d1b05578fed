import DnsResponder.Dns.Response
import DnsResponder.Packet.Locate
import DnsResponder.Reply.Edit
import DnsResponder.RuntimeOptions
import DnsResponder.Served

namespace DnsResponder

/-!
# Deciding on one frame

A frame is located, filtered by its destination, read as a query, looked up, and answered in place.
`handle` does all of this and nothing else: it sees the settings, the tables and the frame, and no
log, counter, clock or capture queue, so none of these can influence what becomes of a frame.

A run keeps how far the frame came.  A frame counts as received once its destination is served and
its message header is complete, whatever is found in the message.
-/

/-- What decides on answers besides the settings, and may change between frames. -/
structure Tables where
  records : Records := {}
  served : Served := {}
  options : RuntimeOptions := {}

namespace Engine

/-- A frame whose destination is served and whose message header is complete. -/
structure Reception where
  layout : Packet.Layout
  destination : Address
  query : Dns.MessageHeader
  /-- Offset of the first question. -/
  questionStart : Nat
deriving DecidableEq

/-- How the handling of a frame ended. -/
inductive Ending
  /-- The reply stands in the frame; its answer section counts so many octets. -/
  | replied (answer : Answer) (replySize : Nat)
  /-- There is an answer, and the frame was to be left alone. -/
  | dryRun
  | stopped (stop : Stop)
deriving DecidableEq

/-- What became of a frame, and how far it came. -/
structure Run where
  reception : Option Reception
  question : Option Dns.Question
  ending : Ending
  frame : Frame
deriving DecidableEq

/-- Locate the headers, check the destination, and read the message header. -/
def receive (settings : Settings) (served : Served) (data : Bytes) : Except Stop Reception := do
  let (layout, cursor) ← Packet.locate data settings.dnsPort
  let destination ← Stop.require (layout.destination? data)
  if !served.contains destination then
    throw (.refused .notServed)
  let (view, cursor) ← Stop.ofReading (cursor.read data .dns)
  return ⟨layout, destination, .ofView view, cursor.position⟩

def inquire (settings : Settings) (data : Bytes) (reception : Reception) :
    Except Refusal Dns.Question :=
  if !reception.query.isStandardQuery then .error (.packet .notQuery)
  else if reception.query.questions = 0 then .error (.packet .noQuestion)
  else (Dns.Question.decode data reception.questionStart settings.namePolicy).mapError .packet

/-- The payload size to advertise: that of the settings, when the query carried an extension record
right after its question and the settings echo it. -/
def payloadSize? (settings : Settings) (data : Bytes) (reception : Reception)
    (question : Dns.Question) : Option UInt16 :=
  if settings.ednsEcho && decide (0 < reception.query.additionals)
      && Dns.optFollows data (reception.questionStart + question.consumed) then
    some settings.ednsPayloadSize
  else none

/-- Compose the response and write the reply into the frame.  The size of the answer section is the
result. -/
def respond (settings : Settings) (reception : Reception) (question : Dns.Question)
    (answer : Answer) : Reply.Edit Nat := do
  let payloadSize ← Reply.Edit.read fun data =>
    some (payloadSize? settings data reception question)
  let response ← Reply.Edit.attempt <| Stop.ofRefusal <|
    Dns.Response.compose reception.query answer payloadSize settings.responseFlags
  Reply.reply reception.layout response question.consumed settings
  return response.answerSection.length

/-- Decide on a frame and, if it is to be answered, answer it. -/
def handle (settings : Settings) (tables : Tables) (frame : Frame) : Run :=
  match receive settings tables.served frame.octets with
  | .error stop => ⟨none, none, .stopped stop, frame⟩
  | .ok reception =>
    match inquire settings frame.octets reception with
    | .error reason => ⟨some reception, none, .stopped (.refused reason), frame⟩
    | .ok question =>
      let spread := settings.randomTtl
      match tables.records.resolve question.key reception.query.id spread with
      | .error reason => ⟨some reception, some question, .stopped (.refused reason), frame⟩
      | .ok answer =>
        if tables.options.switch .dryRun settings.dryRun then
          ⟨some reception, some question, .dryRun, frame⟩
        else
          match (respond settings reception question answer).run frame with
          | .ok replySize frame =>
            ⟨some reception, some question, .replied answer replySize, frame⟩
          | .error stop frame => ⟨some reception, some question, .stopped stop, frame⟩

end Engine
end DnsResponder
