import DnsResponder.Proofs.Engine.Increments
import DnsResponder.Proofs.Reply.Surroundings
import DnsResponder.Proofs.Window

namespace DnsResponder
namespace Engine

open Reply Reply.Edit

/-!
# A window leaks nothing into a frame

A host reuses its windows, and what lies in front of a frame and behind it is left over from others.
Handling the frame in another window, with as much room behind it, comes to the same: the same
decision, the same octets, the same counters, log and captured copies, and the frame has given up the
same number of octets at its head.  So no octet of a reply comes from outside the query.
-/

theorem blind_respond (settings : Settings) (reception : Reception) (question : Dns.Question)
    (answer : Answer) : (respond settings reception question answer).Blind := by
  apply (blind_read _).bind
  intro payloadSize
  apply (blind_attempt _).bind
  intro response
  apply (blind_reply _ response _ settings).bind
  intro _
  exact blind_pure _

/-- Two runs that found the same and left frames that are alike. -/
structure Run.Alike (here there : Nat) (first second : Run) : Prop where
  reception : first.reception = second.reception
  question : first.question = second.question
  ending : first.ending = second.ending
  frame : Frame.Alike here there first.frame second.frame

variable {here there : Nat}

theorem alike_handle (settings : Settings) (tables : Tables) {first second : Frame}
    (alike : Frame.Alike here there first second) :
    Run.Alike here there (handle settings tables first) (handle settings tables second) := by
  rw [handle, handle, alike.octets]
  cases received : receive settings tables.served second.octets with
  | error stop =>
    dsimp only
    exact ⟨rfl, rfl, rfl, alike⟩
  | ok reception =>
    cases inquired : inquire settings second.octets reception with
    | error reason =>
      simp only [inquired]
      exact ⟨rfl, rfl, rfl, alike⟩
    | ok question =>
      cases resolved : tables.records.resolve question.key reception.query.id
          settings.randomTtl with
      | error reason =>
        simp only [inquired, resolved]
        exact ⟨rfl, rfl, rfl, alike⟩
      | ok answer =>
        simp only [inquired, resolved]
        split
        · exact ⟨rfl, rfl, rfl, alike⟩
        · have same := blind_respond settings reception question answer here there first second alike
          generalize (respond settings reception question answer).run first = one at same ⊢
          generalize (respond settings reception question answer).run second = two at same ⊢
          cases same with
          | ok replySize kept => exact ⟨rfl, rfl, rfl, kept⟩
          | error stop kept => exact ⟨rfl, rfl, rfl, kept⟩

namespace Run.Alike

variable {first second : Run}

theorem action_eq (alike : Run.Alike here there first second) : first.action = second.action := by
  rw [Run.action, Run.action, alike.ending]

theorem outcome?_eq (alike : Run.Alike here there first second) :
    first.outcome? = second.outcome? := by
  rw [Run.outcome?, Run.outcome?, alike.ending]

theorem adds_eq (alike : Run.Alike here there first second) (gauge : Gauge) (counting : Bool) :
    gauge.adds counting first = gauge.adds counting second := by
  rw [Gauge.adds, Gauge.adds, alike.reception, alike.outcome?_eq]

/-- Observers see of a frame its octets and their number, and not where it stands. -/
theorem settle_eq (alike : Run.Alike here there first second) (settings : Settings)
    (moment : Moment) (observers : Observers) :
    settle settings moment first observers = settle settings moment second observers := by
  have counted : count settings moment first observers.metrics =
      count settings moment second observers.metrics := by
    rw [count, count, alike.reception, alike.outcome?_eq]
  have asked : noteQuestion first observers.log = noteQuestion second observers.log := by
    rw [noteQuestion, noteQuestion, alike.reception, alike.question]
  have ended (log : Log) : noteEnding moment first log = noteEnding moment second log := by
    rw [noteEnding, noteEnding, alike.ending, alike.reception, alike.frame.size]
  rw [settle, settle, counted, asked, ended, captureReply, captureReply, alike.action_eq,
    alike.frame.octets, alike.frame.size]

end Run.Alike

/-- The same octets in two windows, with as much room behind them, get the same decision, and what
comes back has the same octets and has given up as many at its head.  The counters of outcomes come to
the same at any moment; at the same moment with the same log, so does all that observers see. -/
theorem same_in_any_window (octets before front : Bytes) {after back : Bytes}
    (room : after.length = back.length) (responder : Responder) (moment later : Moment)
    (log other : Log) :
    ∃ (action : Action) (one two : Frame) (left right : Responder) (noted also : Log),
      responder.processWindow moment (before ++ octets ++ after) before.length octets.length log =
        .ok (action, one, left, noted)
      ∧ responder.processWindow later (front ++ octets ++ back) front.length octets.length other =
        .ok (action, two, right, also)
      ∧ one.octets = two.octets ∧ one.size = two.size
      ∧ (∃ distance, one.head = before.length + distance ∧ two.head = front.length + distance)
      ∧ (∀ outcome, left.metrics.snapshot.count outcome = right.metrics.snapshot.count outcome)
      ∧ (moment = later → log = other → left = right ∧ noted = also) := by
  have start : Frame.Alike before.length front.length ⟨before, octets, after⟩
      ⟨front, octets, back⟩ := ⟨rfl, room, 0, rfl, rfl⟩
  have alike := alike_handle responder.settings responder.tables start
  let one := responder.process moment ⟨before, octets, after⟩ log
  let two := responder.process later ⟨front, octets, back⟩ other
  refine ⟨one.1, one.2.1, two.2.1, one.2.2.1, two.2.2.1, one.2.2.2, two.2.2.2,
    responder.processWindow_append .., ?_, alike.frame.octets, alike.frame.size, alike.frame.heads,
    ?_, ?_⟩
  · have sameAction : one.1 = two.1 := alike.action_eq
    rw [responder.processWindow_append, sameAction]
  · intro outcome
    apply ((Gauge.count outcome).read_process ..).trans
    rw [alike.adds_eq]
    exact ((Gauge.count outcome).read_process ..).symm
  · rintro rfl rfl
    have settled := alike.settle_eq responder.settings moment (responder.observers log)
    exact ⟨congrArg responder.regain settled, congrArg Observers.log settled⟩

/-- The specimen between octets of older packets, and alone in a window that was cleared, is
answered the same. -/
theorem specimen_between_old_packets :
    ∃ one two left right noted also,
      Specimen.responder.processWindow ⟨0, 0, 0⟩ ([8, 9] ++ Specimen.parts.octets
          ++ List.replicate 20 7) 2 Specimen.parts.octets.length { processId := "1" } =
        .ok (.transmit, one, left, noted)
      ∧ Specimen.responder.processWindow ⟨5, 6, 7⟩ ([] ++ Specimen.parts.octets
          ++ List.replicate 20 0) 0 Specimen.parts.octets.length { processId := "2" } =
        .ok (.transmit, two, right, also)
      ∧ one.octets = two.octets ∧ one.head = two.head + 2 := by
  have room : (List.replicate 20 (7 : UInt8)).length = (List.replicate 20 (0 : UInt8)).length := rfl
  rcases same_in_any_window Specimen.parts.octets [8, 9] [] room Specimen.responder ⟨0, 0, 0⟩
      ⟨5, 6, 7⟩ { processId := "1" } { processId := "2" } with
    ⟨action, one, two, left, right, noted, also, first, second, octets, -, ⟨distance, heads⟩, -⟩
  have sent : (Specimen.responder.process ⟨5, 6, 7⟩
      ⟨[], Specimen.parts.octets, List.replicate 20 0⟩ { processId := "2" }).1 = .transmit := by
    decide +kernel
  have same : action = .transmit := by
    rw [Responder.processWindow_append] at second
    rw [Except.ok.inj second] at sent
    exact sent
  subst same
  refine ⟨one, two, left, right, noted, also, first, second, octets, ?_⟩
  simp only [List.length_cons, List.length_nil] at heads
  omega

end Engine
end DnsResponder
