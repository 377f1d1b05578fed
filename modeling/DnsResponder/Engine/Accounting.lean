import DnsResponder.Capture
import DnsResponder.Engine.Decision
import DnsResponder.Log
import DnsResponder.Metrics

namespace DnsResponder

/-!
# Accounting for one frame

Once a frame has been decided on, it is counted, noted in the log, and handed to the capture queue
when a reply goes out.  All of this follows from the finished run: `process` first decides and then
settles, so what observers see can only report a decision.
-/

/-- What watches frames without deciding on them. -/
structure Observers where
  metrics : Metrics
  capture : Option CaptureQueue := none
  log : Log

/-- The moment at which a frame is handled: the clock in milliseconds, the time that the handling
took in nanoseconds, and the worker that did it. -/
structure Moment where
  now : Nat
  elapsed : Nat
  worker : Nat := 0

namespace Engine

/-! ## What a run says -/

def Run.action (run : Run) : Action :=
  match run.ending with
  | .replied _ _ => .transmit
  | .dryRun | .stopped _ => .pass

/-- What the frame is counted as, besides being received. -/
def Run.outcome? (run : Run) : Option Outcome :=
  match run.ending with
  | .replied _ _ | .dryRun => some .transmitted
  | .stopped (.refused reason) =>
    if reason.countsAsPassed then some .passed
    else if reason.countsAsErrored then some .errored
    else none
  | .stopped .outside => none

def topicOf : Refusal → Topic
  | .packet cause => if cause.inMessage then .dns else .walk
  | .tunnel _ => .walk
  | .notServed => .filter
  | .unsupportedType _ | .noRecord => .lookup
  | .reply _ => .reply

/-! ## Settling -/

def count (settings : Settings) (moment : Moment) (run : Run) (metrics : Metrics) : Metrics :=
  if settings.metricsEnabled && run.reception.isSome then
    let received := metrics.increment moment.worker .received
    let counted := (run.outcome?.map (received.increment moment.worker)).getD received
    counted.observe moment.worker (holdTime moment.elapsed)
  else metrics

def noteQuestion (run : Run) (log : Log) : Log :=
  match run.reception, run.question with
  | some reception, some question =>
    log.note .dns <| s!"query id={reception.query.id.toNat} " ++ question.key.text ++ " to "
      ++ reception.destination.text
  | _, _ => log

/-- Note how the handling ended.  Replies that did not fit are errors, which are limited. -/
def noteEnding (moment : Moment) (run : Run) (log : Log) : Log :=
  match run.ending, run.reception with
  | .replied answer replySize, some reception =>
    log.note .reply <| s!"answered id={reception.query.id.toNat} ttl={answer.ttl.toNat} "
      ++ s!"with {replySize} bytes, frame now {run.frame.size}"
  | .stopped (.refused reason), _ =>
    let log :=
      if reason.countsAsErrored then (log.limited moment.now .boundsViolation reason.message).2
      else log
    log.note (topicOf reason) ("pass: " ++ reason.message)
  | _, _ => log

/-- Hand a transmitted frame to the capture queue.  A queue that refuses it changes nothing else. -/
def captureReply (settings : Settings) (moment : Moment) (run : Run) (observers : Observers) :
    Observers :=
  match observers.capture with
  | none => observers
  | some queue =>
    if run.action = .transmit ∧ settings.captureEnabled then
      match queue.send ⟨.transmit, run.frame.octets⟩ with
      | .ok queue =>
        { observers with
          capture := some queue
          log := observers.log.note .capture s!"captured {run.frame.size} bytes" }
      | .error refused =>
        { observers with
          log := (observers.log.limited moment.now .captureFailed refused.message).2 }
    else observers

/-- Account for a frame that has been decided on. -/
def settle (settings : Settings) (moment : Moment) (run : Run) (observers : Observers) :
    Observers :=
  captureReply settings moment run
    { observers with
      metrics := count settings moment run observers.metrics
      log := noteEnding moment run (noteQuestion run observers.log) }

/-- Decide on a frame and account for it. -/
def process (settings : Settings) (tables : Tables) (moment : Moment) (frame : Frame)
    (observers : Observers) : Action × Frame × Observers :=
  let run := handle settings tables frame
  (run.action, run.frame, settle settings moment run observers)

end Engine
end DnsResponder
