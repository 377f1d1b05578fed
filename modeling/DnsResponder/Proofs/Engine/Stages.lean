import DnsResponder.Proofs.Engine.Filter

namespace DnsResponder
namespace Engine

/-!
# Observers that are told on the way

`process` decides first and lets the finished run tell all there is to tell.  Here is the same handling
in the order in which things happen: a frame is counted as soon as it is received, its question is
noted before anything is looked up, and its reply as soon as it stands.  Any stage may end the
handling, and what observers were told before stays told.

`narrate_eq` shows that deciding first leaves nothing out and changes no order that an observer could
see.  So what is said of `process` is said of this handling, too, in which the stages that decide and
the observers come in turn.
-/

/-! ## Observers -/

namespace Hearing

variable (settings : Settings) (moment : Moment)

def counted (outcome : Outcome) (observers : Observers) : Observers :=
  if settings.metricsEnabled then
    { observers with metrics := observers.metrics.increment moment.worker outcome }
  else observers

def timed (observers : Observers) : Observers :=
  if settings.metricsEnabled then
    { observers with
      metrics := observers.metrics.observe moment.worker (holdTime moment.elapsed) }
  else observers

def noted (topic : Topic) (message : String) (observers : Observers) : Observers :=
  { observers with log := observers.log.note topic message }

def limited (category : Category) (message : String) (observers : Observers) : Observers :=
  { observers with log := (observers.log.limited moment.now category message).2 }

def ofQuestion (reception : Reception) (asked : Dns.Question) : Observers → Observers :=
  noted .dns <| s!"query id={reception.query.id.toNat} " ++ asked.key.text ++ " to "
    ++ reception.destination.text

def ofReply (reception : Reception) (answer : Answer) (replySize frameSize : Nat) :
    Observers → Observers :=
  noted .reply <| s!"answered id={reception.query.id.toNat} ttl={answer.ttl.toNat} "
    ++ s!"with {replySize} bytes, frame now {frameSize}"

def ofRefusal (reason : Refusal) (observers : Observers) : Observers :=
  let observers :=
    if reason.countsAsPassed then counted settings moment .passed observers else observers
  let observers :=
    if reason.countsAsErrored then
      limited moment .boundsViolation reason.message
        (counted settings moment .errored observers)
    else observers
  noted (topicOf reason) ("pass: " ++ reason.message) observers

def ofCapture (frame : Frame) (observers : Observers) : Observers :=
  match settings.captureEnabled, observers.capture with
  | true, some queue =>
    match queue.send ⟨.transmit, frame.octets⟩ with
    | .ok queue =>
      noted .capture s!"captured {frame.size} bytes" { observers with capture := some queue }
    | .error refused => limited moment .captureFailed refused.message observers
  | _, _ => observers

/-- Counting does not touch the queue or the log. -/
theorem counted_eq (outcome : Outcome) (observers : Observers) :
    counted settings moment outcome observers =
      { observers with
        metrics := if settings.metricsEnabled then
            observers.metrics.increment moment.worker outcome
          else observers.metrics } := by
  rw [counted]
  split <;> rfl

theorem timed_eq (observers : Observers) :
    timed settings moment observers =
      { observers with
        metrics := if settings.metricsEnabled then
            observers.metrics.observe moment.worker (holdTime moment.elapsed)
          else observers.metrics } := by
  rw [timed]
  split <;> rfl

end Hearing

/-! ## Stages -/

/-- A frame on its way, those who watch it, and whether it was received. -/
structure Passage where
  frame : Frame
  observers : Observers
  received : Bool := false

/-- What a frame without a fault comes to. -/
inductive Verdict
  | transmit
  | dryRun
deriving DecidableEq

/-- A part of the handling that may end it. -/
abbrev Stage := EStateM Stop Passage

namespace Stage

def tell (heard : Observers → Observers) : Stage Unit :=
  modify fun passage => { passage with observers := heard passage.observers }

def attempt {α : Type} (result : Except Stop α) : Stage α := fun passage =>
  match result with
  | .ok value => .ok value passage
  | .error stop => .error stop passage

def edit {α : Type} (change : Reply.Edit α) : Stage α := fun passage =>
  match change.run passage.frame with
  | .ok value frame => .ok value { passage with frame }
  | .error stop frame => .error stop { passage with frame }

/-- A frame counts as received from here on. -/
def welcome : Stage Unit :=
  modify fun passage => { passage with received := true }

end Stage

section Narrating

open Hearing

variable (settings : Settings) (tables : Tables) (moment : Moment)

/-- Decide on a frame, answer it, and tell the observers at each stage. -/
def decideAloud : Stage Verdict := do
  let data := (← get).frame.octets
  let reception ← Stage.attempt (receive settings tables.served data)
  Stage.welcome
  Stage.tell (counted settings moment .received)
  let asked ← Stage.attempt ((inquire settings data reception).mapError .refused)
  Stage.tell (ofQuestion reception asked)
  let answer ← Stage.attempt <|
    (tables.records.resolve asked.key reception.query.id settings.randomTtl).mapError .refused
  if tables.options.switch .dryRun settings.dryRun then
    return .dryRun
  let replySize ← Stage.edit (respond settings reception asked answer)
  Stage.tell (ofReply reception answer replySize (← get).frame.size)
  return .transmit

/-- Tell the observers what came of the frame, and the time it took if it was received. -/
def conclude (observers : Observers) (received : Bool) (result : Except Stop Verdict) :
    Observers :=
  let observers :=
    match result with
    | .ok _ => counted settings moment .transmitted observers
    | .error (.refused reason) => ofRefusal settings moment reason observers
    | .error .outside => observers
  if received then timed settings moment observers else observers

/-- Handle a frame and tell the observers on the way. -/
def narrate (frame : Frame) (observers : Observers) : Action × Frame × Observers :=
  match (decideAloud settings tables moment).run { frame, observers } with
  | .ok .transmit left =>
    (.transmit, left.frame, ofCapture settings moment left.frame
      (conclude settings moment left.observers left.received (.ok .transmit)))
  | .ok .dryRun left =>
    (.pass, left.frame, conclude settings moment left.observers left.received (.ok .dryRun))
  | .error stop left =>
    (.pass, left.frame, conclude settings moment left.observers left.received (.error stop))

/-! ## The two orders -/

end Narrating

section Running

variable {α β : Type} (passage : Passage) (rest : α → Stage β)

theorem run_return (value : α) : (pure value : Stage α).run passage = .ok value passage := rfl

theorem run_look (rest : Passage → Stage β) :
    ((get : Stage Passage) >>= rest).run passage = (rest passage).run passage := rfl

theorem run_welcome (rest : Unit → Stage β) :
    (Stage.welcome >>= rest).run passage = (rest ()).run { passage with received := true } := rfl

theorem run_tell (heard : Observers → Observers) (rest : Unit → Stage β) :
    (Stage.tell heard >>= rest).run passage =
      (rest ()).run { passage with observers := heard passage.observers } := rfl

theorem run_attempt (value : α) :
    (Stage.attempt (.ok value) >>= rest).run passage = (rest value).run passage := rfl

theorem run_attempt_error (stop : Stop) :
    (Stage.attempt (.error stop) >>= rest).run passage = .error stop passage := rfl

theorem run_edit {change : Reply.Edit α} {value : α} {frame : Frame}
    (changed : change.run passage.frame = .ok value frame) :
    (Stage.edit change >>= rest).run passage = (rest value).run { passage with frame } := by
  simp only [EStateM.run, bind, EStateM.bind, Stage.edit] at changed ⊢
  rw [changed]

theorem run_edit_error {change : Reply.Edit α} {stop : Stop} {frame : Frame}
    (changed : change.run passage.frame = .error stop frame) :
    (Stage.edit change >>= rest).run passage = .error stop { passage with frame } := by
  simp only [EStateM.run, bind, EStateM.bind, Stage.edit] at changed ⊢
  rw [changed]

end Running

open Hearing

variable (settings : Settings) (tables : Tables) (moment : Moment) (frame : Frame)
  (observers : Observers)

/-- What observers have heard before the handling ends. -/
def Run.heard (run : Run) : Observers :=
  match run.reception, run.question with
  | some reception, some asked =>
    let observers := ofQuestion reception asked (counted settings moment .received observers)
    match run.ending with
    | .replied answer replySize => ofReply reception answer replySize run.frame.size observers
    | _ => observers
  | some _, none => counted settings moment .received observers
  | none, _ => observers

/-- How the stages end, told from the finished run. -/
def Run.left (run : Run) : EStateM.Result Stop Passage Verdict :=
  let passage := ⟨run.frame, run.heard settings moment observers, run.reception.isSome⟩
  match run.ending with
  | .replied _ _ => .ok .transmit passage
  | .dryRun => .ok .dryRun passage
  | .stopped stop => .error stop passage

/-- The stages decide as `handle` does, whatever the observers were told. -/
theorem run_decideAloud : (decideAloud settings tables moment).run { frame, observers } =
    (handle settings tables frame).left settings moment observers := by
  rw [decideAloud, run_look]
  dsimp only
  cases received : receive settings tables.served frame.octets with
  | error stop =>
    simp only [handle, received]
    exact run_attempt_error ..
  | ok reception =>
    rw [run_attempt, run_welcome, run_tell]
    cases inquired : inquire settings frame.octets reception with
    | error reason =>
      simp only [handle, received, inquired]
      exact run_attempt_error ..
    | ok asked =>
      simp only [Except.mapError, run_attempt, run_tell]
      cases resolved : tables.records.resolve asked.key reception.query.id settings.randomTtl with
      | error reason =>
        simp only [handle, received, inquired, resolved]
        exact run_attempt_error ..
      | ok answer =>
        simp only [run_attempt]
        cases dry : tables.options.switch .dryRun settings.dryRun with
        | true =>
          simp only [handle, received, inquired, resolved, dry, if_true]
          exact run_return ..
        | false =>
          simp only [handle, received, inquired, resolved, dry, Bool.false_eq_true, if_false]
          cases responded : (respond settings reception asked answer).run frame with
          | ok replySize left =>
            rw [run_edit _ _ responded, run_look, run_tell]
            exact run_return ..
          | error stop left => exact run_edit_error _ _ responded

def Run.verdict (run : Run) : Except Stop Verdict :=
  match run.ending with
  | .replied _ _ => .ok .transmit
  | .dryRun => .ok .dryRun
  | .stopped stop => .error stop

/-- What observers hear of a refusal: its outcome, if it has one, and its cause. -/
theorem ofRefusal_eq (run : Run) {reason : Refusal} (ended : run.ending = .stopped (.refused reason)) :
    ofRefusal settings moment reason observers =
      { observers with
        metrics := if settings.metricsEnabled then
            (run.outcome?.map (observers.metrics.increment moment.worker)).getD observers.metrics
          else observers.metrics
        log := noteEnding moment run observers.log } := by
  rw [ofRefusal, noteEnding, Run.outcome?, ended]
  cases reason with
  | noRecord | reply =>
    simp only [counted_eq, noted, limited, Refusal.countsAsPassed, Refusal.countsAsErrored]
    cases settings.metricsEnabled <;> rfl
  | _ =>
    simp only [noted, Refusal.countsAsPassed, Refusal.countsAsErrored]
    cases settings.metricsEnabled <;> rfl

theorem conclude_of_refusal (reception : Reception) (asked : Option Dns.Question)
    (reason : Refusal) :
    let run : Run := ⟨some reception, asked, .stopped (.refused reason), frame⟩
    conclude settings moment (run.heard settings moment observers) true run.verdict =
      { observers with
        metrics := count settings moment run observers.metrics
        log := noteEnding moment run (noteQuestion run observers.log) } := by
  intro run
  have refused (heard : Observers) := ofRefusal_eq settings moment heard run rfl
  cases asked <;>
    simp only [conclude, Run.verdict, Run.heard, count, run, refused, counted_eq, timed_eq,
      ofQuestion, noted] <;>
    cases settings.metricsEnabled <;> rfl

/-- What observers are told at the end completes what they heard on the way. -/
theorem conclude_heard {run : Run} (course : Course settings tables frame run) :
    conclude settings moment (run.heard settings moment observers) run.reception.isSome
        run.verdict =
      { observers with
        metrics := count settings moment run observers.metrics
        log := noteEnding moment run (noteQuestion run observers.log) } := by
  cases course with
  | @unreceived stop stopped early =>
    cases stop with
    | outside => exact early.elim
    | refused reason =>
      -- a refusal before the reception has no outcome, so it may be counted like any other
      have uncounted : (⟨none, none, .stopped (.refused reason), frame⟩ : Run).outcome? = none := by
        cases reason with
        | noRecord | reply => rcases early with impossible | impossible <;> cases impossible
        | _ => rfl
      apply (ofRefusal_eq settings moment observers ⟨none, none, _, frame⟩ rfl).trans
      rw [uncounted, count]
      cases settings.metricsEnabled <;> rfl
  | unread => exact conclude_of_refusal ..
  | unresolved => exact conclude_of_refusal ..
  | unfit => exact conclude_of_refusal ..
  | dry | replied =>
    simp only [conclude, Run.verdict, Run.heard, count, counted_eq, timed_eq, ofQuestion, ofReply,
      noted]
    cases settings.metricsEnabled <;> rfl

theorem captureReply_of_transmit {run : Run} (sent : run.action = .transmit) :
    captureReply settings moment run observers = ofCapture settings moment run.frame observers := by
  rcases observers with ⟨metrics, capture, log⟩
  cases capture with
  | none =>
    rw [ofCapture]
    cases settings.captureEnabled <;> rfl
  | some queue =>
    rw [captureReply, ofCapture]
    cases enabled : settings.captureEnabled with
    | false => exact if_neg fun captured => Bool.false_ne_true captured.2
    | true =>
      apply (if_pos ⟨sent, rfl⟩).trans
      dsimp only
      cases queue.send ⟨.transmit, run.frame.octets⟩ <;> rfl

/-- Deciding first and telling afterwards comes to the same as telling on the way. -/
theorem narrate_eq : narrate settings tables moment frame observers =
    process settings tables moment frame observers := by
  have concluded := conclude_heard settings tables moment frame observers
    (course_of_handle settings tables frame)
  rw [narrate, run_decideAloud, process]
  generalize handle settings tables frame = run at concluded ⊢
  rcases run with ⟨reception, asked, ending, left⟩
  rw [settle, ← concluded]
  cases ending with
  | replied answer size =>
    rw [captureReply_of_transmit settings moment _ rfl]
    rfl
  | dryRun | stopped =>
    rw [captureReply_of_pass rfl]
    rfl

end Engine
end DnsResponder
