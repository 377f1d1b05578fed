import DnsResponder.Proofs.Engine.Observers
import Mathlib.Data.List.Induction
import Mathlib.Logic.Function.Basic

namespace DnsResponder

/-!
# What the receiver of captures gets

Threads share a responder.  At the other end of its queue somebody reads, and may go away.  A
`Scene` is the state of all this.  A call takes three events: the frame is decided on, it is
accounted for, and a copy is offered to the queue as the call returns.  Anything else can happen in
between, in other threads or at the other end, so a history is any way in which all of them can get
on.

The record of a scene is what was seen from outside: what calls returned, in the order in which they
offered their copies, and what was read.  A `Ledger` makes out from the record alone which frames
were captured, and never looks into the queue.  It describes the queue after an event if it did
before, and so after every history.
-/

namespace CaptureQueue

variable {queue : CaptureQueue}

/-- Whether the receiver is there and there is room for another copy. -/
def admits (queue : CaptureQueue) : Bool :=
  queue.connected && decide (queue.waiting.length < queue.capacity)

theorem send_of_admits (admitted : queue.admits = true) (copy : CapturedFrame) :
    queue.send copy = .ok { queue with waiting := queue.waiting ++ [copy] } := by
  rw [admits, Bool.and_eq_true, decide_eq_true_iff] at admitted
  rw [send, admitted.1, Bool.not_true, if_neg Bool.false_ne_true,
    if_neg (Nat.not_le.mpr admitted.2)]

theorem send_of_not_admits (refused : queue.admits = false) (copy : CapturedFrame) :
    ∃ cause, queue.send copy = .error cause := by
  rw [send]
  cases connected : queue.connected with
  | false => exact ⟨.disconnected, rfl⟩
  | true =>
    rw [admits, connected, Bool.true_and, decide_eq_false_iff_not, Nat.not_lt] at refused
    exact ⟨.full, if_pos refused⟩

theorem capacity_receive (queue : CaptureQueue) : queue.receive.2.capacity = queue.capacity := by
  rw [receive]
  cases queue.waiting <;> rfl

end CaptureQueue

namespace Engine

variable (settings : Settings) (moment : Moment) (run : Run) {observers : Observers}

/-- What observers are told of a frame before it is offered to the queue. -/
def account (observers : Observers) : Observers :=
  { observers with
    metrics := count settings moment run observers.metrics
    log := noteEnding moment run (noteQuestion run observers.log) }

/-- The queue after a frame was offered to it. -/
def offer (queue : CaptureQueue) : CaptureQueue :=
  if run.action = .transmit ∧ settings.captureEnabled ∧ queue.admits then
    { queue with waiting := queue.waiting ++ [⟨.transmit, run.frame.octets⟩] }
  else queue

theorem capacity_offer (queue : CaptureQueue) :
    (offer settings run queue).capacity = queue.capacity := by
  rw [offer]
  split <;> rfl

theorem capture_captureReply {queue : CaptureQueue} (held : observers.capture = some queue) :
    (captureReply settings moment run observers).capture = some (offer settings run queue) := by
  rw [captureReply, held]
  dsimp only
  by_cases wanted : run.action = .transmit ∧ settings.captureEnabled = true
  · rw [if_pos wanted, offer]
    cases admitted : queue.admits with
    | true =>
      rw [CaptureQueue.send_of_admits admitted, if_pos ⟨wanted.1, wanted.2, rfl⟩]
    | false =>
      rcases CaptureQueue.send_of_not_admits admitted ⟨.transmit, run.frame.octets⟩ with
        ⟨cause, refused⟩
      rw [refused, if_neg fun sent => Bool.false_ne_true sent.2.2]
  · rw [if_neg wanted, offer, if_neg fun sent => wanted ⟨sent.1, sent.2.1⟩, held]

end Engine

namespace Capturing

open Engine

/-! ## The scene -/

/-- How far a thread is with a call. -/
inductive Station
  | idle
  | decided (moment : Moment) (run : Run)
  | accounted (moment : Moment) (run : Run)

/-- What somebody sees at one end of the queue or the other. -/
inductive Sighting
  | returned (thread : Nat) (action : Action) (frame : Frame)
  | read (copy : Option CapturedFrame)
  | readAll (copies : List CapturedFrame)
  | dropped

/-- A responder in the hands of threads, and what was seen. -/
structure Scene where
  responder : Responder
  log : Log
  stations : Nat → Station := fun _ => .idle
  record : List Sighting := []

/-- What can happen next.  A thread that is elsewhere in its call does nothing. -/
inductive Event
  | decide (thread : Nat) (moment : Moment) (frame : Frame)
  | account (thread : Nat)
  | finish (thread : Nat)
  | arrange (tables : Tables)
  | read
  | readAll
  | drop

namespace Scene

/-- Lend the observers to somebody, and take them back. -/
def lend (scene : Scene) (use : Observers → Observers) : Scene :=
  let used := use (scene.responder.observers scene.log)
  { scene with responder := scene.responder.regain used, log := used.log }

def place (scene : Scene) (thread : Nat) (station : Station) : Scene :=
  { scene with stations := Function.update scene.stations thread station }

def see (scene : Scene) (sighting : Sighting) : Scene :=
  { scene with record := scene.record ++ [sighting] }

/-- Do something at the receiving end, if there is a queue. -/
def atReceiver (scene : Scene) (use : CaptureQueue → Sighting × CaptureQueue) : Scene :=
  match scene.responder.capture with
  | none => scene
  | some queue => see { scene with responder.capture := some (use queue).2 } (use queue).1

end Scene

namespace Event

def run (event : Event) (scene : Scene) : Scene :=
  match event with
  | .decide thread moment frame =>
    match scene.stations thread with
    | .idle =>
      scene.place thread
        (.decided moment (handle scene.responder.settings scene.responder.tables frame))
    | _ => scene
  | .account thread =>
    match scene.stations thread with
    | .decided moment run =>
      (scene.lend (Engine.account scene.responder.settings moment run)).place thread
        (.accounted moment run)
    | _ => scene
  | .finish thread =>
    match scene.stations thread with
    | .accounted moment run =>
      ((scene.lend (captureReply scene.responder.settings moment run)).place thread .idle).see
        (.returned thread run.action run.frame)
    | _ => scene
  | .arrange tables => { scene with responder.tables := tables }
  | .read => scene.atReceiver fun queue => (.read queue.receive.1, queue.receive.2)
  | .readAll => scene.atReceiver fun queue => (.readAll queue.receiveAll.1, queue.receiveAll.2)
  | .drop => scene.atReceiver fun queue => (.dropped, queue.disconnect)

/-- Whether an event is one of the threads and of those who arrange the tables, and not one at the
receiving end. -/
def isWork : Event → Bool
  | .read | .readAll | .drop => false
  | _ => true

/-- The thread that an event is a part of a call of. -/
def thread? : Event → Option Nat
  | .decide thread _ _ | .account thread | .finish thread => some thread
  | _ => none

end Event

/-- The scene after a history. -/
def after (scene : Scene) (history : List Event) : Scene :=
  history.foldl (fun scene event => event.run scene) scene

theorem after_append (scene : Scene) (history later : List Event) :
    after scene (history ++ later) = after (after scene history) later :=
  List.foldl_append

/-! ## The ledger -/

def Sighting.copies : Sighting → List CapturedFrame
  | .read copy => copy.toList
  | .readAll copies => copies
  | _ => []

def Sighting.returned? : Sighting → Option (Nat × Action × Frame)
  | .returned thread action frame => some (thread, action, frame)
  | _ => none

/-- The copies that were read, the first first. -/
def copiesRead (record : List Sighting) : List CapturedFrame :=
  record.flatMap Sighting.copies

/-- What the calls returned, in which thread. -/
def returned (record : List Sighting) : List (Nat × Action × Frame) :=
  record.filterMap Sighting.returned?

/-- What a record says of the copies. -/
structure Ledger where
  captured : List CapturedFrame := []
  waiting : Nat := 0
  lost : Nat := 0
  alive : Bool := true
deriving DecidableEq

/-- A frame is captured if it was sent back out, captures are enabled, the receiver is there, and
fewer copies are waiting than there is room for. -/
def Ledger.enter (enabled : Bool) (capacity : Nat) (ledger : Ledger) : Sighting → Ledger
  | .returned _ action frame =>
    if action = .transmit ∧ enabled ∧ ledger.alive ∧ ledger.waiting < capacity then
      { ledger with
        captured := ledger.captured ++ [⟨.transmit, frame.octets⟩]
        waiting := ledger.waiting + 1 }
    else ledger
  | .read _ => { ledger with waiting := ledger.waiting - 1 }
  | .readAll _ => { ledger with waiting := 0 }
  | .dropped => { ledger with waiting := 0, lost := ledger.lost + ledger.waiting, alive := false }

/-- The copy of a frame that a call sent back out. -/
def sentCopy? : Nat × Action × Frame → Option CapturedFrame
  | (_, .transmit, frame) => some ⟨.transmit, frame.octets⟩
  | (_, .pass, _) => none

def ledgerOf (enabled : Bool) (capacity : Nat) (record : List Sighting) : Ledger :=
  record.foldl (Ledger.enter enabled capacity) {}

/-- What was read, what was lost, and what is waiting are what was captured, in this order.  Nothing
is lost while the receiver is there, and nothing is waiting when it has gone. -/
structure Ledger.Describes (ledger : Ledger) (copies : List CapturedFrame) (queue : CaptureQueue) :
    Prop where
  connected : queue.connected = ledger.alive
  waiting : queue.waiting.length = ledger.waiting
  whole : ∃ lost, copies ++ lost ++ queue.waiting = ledger.captured ∧ lost.length = ledger.lost
  kept : ledger.alive = true → ledger.lost = 0
  gone : ledger.alive = false → queue.waiting = []

section Ledger

variable {ledger : Ledger} {copies : List CapturedFrame} {queue : CaptureQueue} (enabled : Bool)
  (capacity : Nat)

theorem ledgerOf_append (record : List Sighting) (sighting : Sighting) :
    ledgerOf enabled capacity (record ++ [sighting]) =
      (ledgerOf enabled capacity record).enter enabled capacity sighting := by
  rw [ledgerOf, List.foldl_append]
  rfl

theorem copiesRead_append (record : List Sighting) (sighting : Sighting) :
    copiesRead (record ++ [sighting]) = copiesRead record ++ sighting.copies := by
  rw [copiesRead, List.flatMap_append, List.flatMap_singleton]
  rfl

theorem returned_append (record : List Sighting) (sighting : Sighting) :
    returned (record ++ [sighting]) = returned record ++ sighting.returned?.toList := by
  rw [returned, List.filterMap_append]
  rcases sighting with _ | _ | _ | _ <;> rfl

/-- The copies in a ledger are of frames that calls sent back out, in the order of the calls and of
each call once. -/
theorem captured_sublist (record : List Sighting) :
    (ledgerOf enabled capacity record).captured.Sublist
      ((returned record).filterMap sentCopy?) := by
  induction record using List.reverseRecOn with
  | nil => exact List.Sublist.slnil
  | append_singleton record sighting ih =>
    rw [ledgerOf_append, returned_append, List.filterMap_append]
    cases sighting with
    | returned thread action frame =>
      rw [Ledger.enter]
      split
      case isTrue captured =>
        rw [captured.1]
        exact ih.append (List.Sublist.refl _)
      case isFalse => exact ih.trans (List.sublist_append_left ..)
    | read | readAll | dropped => exact ih.trans (List.sublist_append_left ..)

namespace Ledger.Describes

theorem offer (describes : ledger.Describes copies queue) (settings : Settings) (run : Run)
    (thread : Nat) :
    (ledger.enter settings.captureEnabled queue.capacity
      (.returned thread run.action run.frame)).Describes (copies ++ [])
        (offer settings run queue) := by
  rw [List.append_nil]
  have admits : queue.admits = true ↔ ledger.alive = true ∧ ledger.waiting < queue.capacity := by
    rw [CaptureQueue.admits, Bool.and_eq_true, decide_eq_true_iff, describes.connected,
      describes.waiting]
  rw [Ledger.enter, Engine.offer]
  by_cases captured : run.action = .transmit ∧ settings.captureEnabled = true
      ∧ ledger.alive = true ∧ ledger.waiting < queue.capacity
  · rw [if_pos captured, if_pos ⟨captured.1, captured.2.1, admits.mpr captured.2.2⟩]
    rcases describes.whole with ⟨lost, whole, lostCount⟩
    refine ⟨describes.connected, ?_, ⟨lost, ?_, lostCount⟩, describes.kept, ?_⟩
    · rw [List.length_append, describes.waiting, List.length_singleton]
    · rw [← List.append_assoc, whole]
    · intro gone
      cases captured.2.2.1.symm.trans gone
  · rw [if_neg captured, if_neg fun sent => captured ⟨sent.1, sent.2.1, admits.mp sent.2.2⟩]
    exact describes

/-- Whatever is taken from the front of the queue is read. -/
theorem take {taken rest : List CapturedFrame} (describes : ledger.Describes copies queue)
    (split : queue.waiting = taken ++ rest) {left : Nat} (count : rest.length = left) :
    Ledger.Describes { ledger with waiting := left } (copies ++ taken)
      { queue with waiting := rest } := by
  rcases describes.whole with ⟨lost, whole, lostCount⟩
  -- Nothing stands between what was read and what is waiting.
  have adjacent : lost = [] ∨ queue.waiting = [] := by
    cases alive : ledger.alive with
    | false => exact .inr (describes.gone alive)
    | true => exact .inl (List.length_eq_zero_iff.mp (lostCount.trans (describes.kept alive)))
  refine ⟨describes.connected, count, ⟨lost, ?_, lostCount⟩, describes.kept, ?_⟩
  · rw [← whole, split]
    rcases adjacent with rfl | nothing
    · simp only [List.append_nil, List.append_assoc]
    · rw [split, List.append_eq_nil_iff] at nothing
      simp only [nothing.1, nothing.2, List.append_nil]
  · intro gone
    have nothing := describes.gone gone
    rw [split, List.append_eq_nil_iff] at nothing
    exact nothing.2

theorem read (describes : ledger.Describes copies queue) :
    (ledger.enter enabled capacity (.read queue.receive.1)).Describes
      (copies ++ queue.receive.1.toList) queue.receive.2 := by
  rw [Ledger.enter, ← describes.waiting]
  rcases queue with ⟨room, waiting, connected⟩
  cases waiting with
  | nil => exact describes.take (List.nil_append []).symm rfl
  | cons copy rest => exact describes.take (List.singleton_append (l := rest)).symm rfl

theorem readAll (describes : ledger.Describes copies queue) :
    (ledger.enter enabled capacity (.readAll queue.receiveAll.1)).Describes
      (copies ++ queue.receiveAll.1) queue.receiveAll.2 :=
  describes.take (List.append_nil _).symm rfl

theorem disconnect (describes : ledger.Describes copies queue) :
    (ledger.enter enabled capacity .dropped).Describes (copies ++ []) queue.disconnect := by
  rw [List.append_nil]
  rcases describes.whole with ⟨lost, whole, lostCount⟩
  refine ⟨rfl, rfl, ⟨lost ++ queue.waiting, ?_, ?_⟩, fun alive => ?_, fun _ => rfl⟩
  · rw [← List.append_assoc, whole]
    exact List.append_nil _
  · rw [List.length_append, lostCount, describes.waiting]
    rfl
  · cases alive

end Ledger.Describes
end Ledger

/-! ## One event -/

section Event

variable (event : Event) (scene : Scene) {capacity : Nat}

/-- The record of a scene tells the state of its queue. -/
def Scene.Recorded (capacity : Nat) (scene : Scene) : Prop :=
  ∃ queue, scene.responder.capture = some queue ∧ queue.capacity = capacity ∧
    (ledgerOf scene.responder.settings.captureEnabled capacity scene.record).Describes
      (copiesRead scene.record) queue

theorem settings_run : (event.run scene).responder.settings = scene.responder.settings := by
  cases event with
  | decide thread | account thread | finish thread =>
    rw [Event.run]
    cases scene.stations thread <;> rfl
  | arrange tables => rfl
  | read | readAll | drop =>
    rw [Event.run, Scene.atReceiver]
    cases scene.responder.capture <;> rfl

/-- A sighting is entered, and the queue is what the ledger then says. -/
theorem Scene.recorded_see {scene : Scene} {queue : CaptureQueue} (sighting : Sighting)
    (held : scene.responder.capture = some queue) (room : queue.capacity = capacity)
    (describes : ((ledgerOf scene.responder.settings.captureEnabled capacity scene.record).enter
      scene.responder.settings.captureEnabled capacity sighting).Describes
        (copiesRead scene.record ++ sighting.copies) queue) :
    (scene.see sighting).Recorded capacity := by
  refine ⟨queue, held, room, ?_⟩
  rw [← copiesRead_append, ← ledgerOf_append] at describes
  exact describes

theorem Scene.Recorded.run {scene : Scene} (recorded : scene.Recorded capacity) :
    (event.run scene).Recorded capacity := by
  rcases recorded with ⟨queue, held, rfl, describes⟩
  have unchanged : scene.Recorded queue.capacity := ⟨queue, held, rfl, describes⟩
  cases event with
  | decide thread moment frame =>
    rw [Event.run]
    cases scene.stations thread <;> exact unchanged
  | account thread =>
    rw [Event.run]
    cases scene.stations thread <;> exact unchanged
  | arrange tables => exact unchanged
  | finish thread =>
    rw [Event.run]
    cases scene.stations thread with
    | idle | decided => exact unchanged
    | accounted moment run =>
      exact recorded_see _ (capture_captureReply _ moment run held) (capacity_offer ..)
        (describes.offer _ run thread)
  | read =>
    rw [Event.run, Scene.atReceiver, held]
    exact recorded_see _ rfl queue.capacity_receive (describes.read ..)
  | readAll =>
    rw [Event.run, Scene.atReceiver, held]
    exact recorded_see _ rfl rfl (describes.readAll ..)
  | drop =>
    rw [Event.run, Scene.atReceiver, held]
    exact recorded_see _ rfl rfl (describes.disconnect ..)

/-- A thread stays where it is while others get on. -/
theorem stations_run {thread : Nat} (other : event.thread? ≠ some thread) :
    (event.run scene).stations thread = scene.stations thread := by
  have beside {mover : Nat} (moved : event.thread? = some mover) (station : Station) :
      Function.update scene.stations mover station thread = scene.stations thread :=
    Function.update_of_ne (fun same => other (moved.trans (congrArg some same.symm))) ..
  cases event with
  | decide mover moment frame =>
    rw [Event.run]
    cases scene.stations mover with
    | idle => exact beside rfl _
    | decided | accounted => rfl
  | account mover =>
    rw [Event.run]
    cases scene.stations mover with
    | decided => exact beside rfl _
    | idle | accounted => rfl
  | finish mover =>
    rw [Event.run]
    cases scene.stations mover with
    | accounted => exact beside rfl _
    | idle | decided => rfl
  | arrange tables => rfl
  | read | readAll | drop =>
    rw [Event.run, Scene.atReceiver]
    cases scene.responder.capture <;> rfl

end Event

/-! ## Whole histories -/

section History

variable (scene : Scene)

theorem settings_after (history : List Event) :
    (after scene history).responder.settings = scene.responder.settings := by
  induction history using List.reverseRecOn with
  | nil => rfl
  | append_singleton history event ih =>
    rw [after_append]
    exact (settings_run event _).trans ih

theorem stations_after {thread : Nat} {history : List Event}
    (others : ∀ event ∈ history, event.thread? ≠ some thread) :
    (after scene history).stations thread = scene.stations thread := by
  induction history using List.reverseRecOn with
  | nil => rfl
  | append_singleton history event ih =>
    rw [after_append]
    apply (stations_run event _ (others event ?_)).trans
    · exact ih fun event member => others event (List.mem_append_left _ member)
    · exact List.mem_append_right _ (List.mem_singleton_self event)

theorem Scene.Recorded.after {capacity : Nat} {scene : Scene} (recorded : scene.Recorded capacity)
    (history : List Event) : (after scene history).Recorded capacity := by
  induction history using List.reverseRecOn with
  | nil => exact recorded
  | append_singleton history event ih =>
    rw [after_append]
    exact ih.run event

end History

/-! ## Those who work -/

section Work

variable (event : Event) (scene : Scene)

/-- Scenes that differ in what concerns the queue at most, and in the log. -/
structure Scene.WorksAs (first second : Scene) : Prop where
  settings : first.responder.settings = second.responder.settings
  tables : first.responder.tables = second.responder.tables
  metrics : first.responder.metrics = second.responder.metrics
  stations : first.stations = second.stations
  returned : returned first.record = returned second.record

namespace Scene.WorksAs

variable {first second third : Scene}

theorem symm (same : first.WorksAs second) : second.WorksAs first :=
  ⟨same.settings.symm, same.tables.symm, same.metrics.symm, same.stations.symm,
    same.returned.symm⟩

theorem trans (same : first.WorksAs second) (again : second.WorksAs third) :
    first.WorksAs third :=
  ⟨same.settings.trans again.settings, same.tables.trans again.tables,
    same.metrics.trans again.metrics, same.stations.trans again.stations,
    same.returned.trans again.returned⟩

theorem place (same : first.WorksAs second) (thread : Nat) (station : Station) :
    (first.place thread station).WorksAs (second.place thread station) :=
  { same with
    stations := by
      rw [Scene.place, Scene.place, same.stations] }

theorem see (same : first.WorksAs second) (sighting : Sighting) :
    (first.see sighting).WorksAs (second.see sighting) :=
  { same with
    returned := by
      rw [Scene.see, Scene.see, returned_append, returned_append, same.returned] }

/-- What observers do makes no difference as long as they count alike. -/
theorem lend (same : first.WorksAs second) {use other : Observers → Observers}
    (metrics : (use (first.responder.observers first.log)).metrics =
      (other (second.responder.observers second.log)).metrics) :
    (first.lend use).WorksAs (second.lend other) :=
  { same with metrics }

/-- What happens at the receiving end is nothing to those who work. -/
theorem of_not_work (idle : event.isWork = false) : scene.WorksAs (event.run scene) := by
  have atReceiver {use : CaptureQueue → Sighting × CaptureQueue}
      (silent : ∀ queue, (use queue).1.returned? = none) :
      scene.WorksAs (scene.atReceiver use) := by
    rw [Scene.atReceiver]
    cases scene.responder.capture with
    | none => exact ⟨rfl, rfl, rfl, rfl, rfl⟩
    | some queue =>
      refine ⟨rfl, rfl, rfl, rfl, ?_⟩
      apply Eq.trans _ (returned_append ..).symm
      rw [silent]
      exact (List.append_nil _).symm
  cases event with
  | read | readAll | drop => exact atReceiver fun _ => rfl
  | decide | account | finish | arrange => cases idle

/-- The same event of work does the same in both. -/
theorem run (same : first.WorksAs second) (busy : event.isWork = true) :
    (event.run first).WorksAs (event.run second) := by
  cases event with
  | decide thread moment frame =>
    rw [Event.run, Event.run, same.stations]
    cases second.stations thread with
    | idle =>
      rw [same.settings, same.tables]
      exact same.place ..
    | decided | accounted => exact same
  | account thread =>
    rw [Event.run, Event.run, same.stations]
    cases second.stations thread with
    | decided moment run =>
      refine (same.lend ?_).place ..
      exact congrArg₂ (count · moment run) same.settings same.metrics
    | idle | accounted => exact same
  | finish thread =>
    rw [Event.run, Event.run, same.stations]
    cases second.stations thread with
    | accounted moment run =>
      refine ((same.lend ?_).place ..).see _
      rw [Responder.metrics_captureReply, Responder.metrics_captureReply]
      exact same.metrics
    | idle | decided => exact same
  | arrange tables => exact { same with tables := rfl }
  | read | readAll | drop => cases busy

/-- A history and its work alone come to the same for those who work. -/
theorem after_filter (history : List Event) :
    (after scene history).WorksAs (after scene (history.filter Event.isWork)) := by
  induction history using List.reverseRecOn with
  | nil => exact ⟨rfl, rfl, rfl, rfl, rfl⟩
  | append_singleton history event ih =>
    rw [after_append, List.filter_append, after_append]
    cases work : event.isWork with
    | true =>
      rw [List.filter_cons_of_pos work]
      exact ih.run event work
    | false =>
      rw [List.filter_cons_of_neg (Bool.eq_false_iff.mp work)]
      exact (of_not_work event _ work).symm.trans ih

theorem after (same : first.WorksAs second) (work : List Event)
    (busy : ∀ event ∈ work, event.isWork = true) :
    (after first work).WorksAs (after second work) := by
  induction work using List.reverseRecOn with
  | nil => exact same
  | append_singleton work event ih =>
    rw [after_append, after_append]
    exact (ih fun event member => busy event (List.mem_append_left _ member)).run event
      (busy event (List.mem_append_right _ (List.mem_singleton_self event)))

/-- Those who work alike notice nothing of what happens at the receiving end. -/
theorem of_same_work (same : first.WorksAs second) {history other : List Event}
    (work : history.filter Event.isWork = other.filter Event.isWork) :
    (Capturing.after first history).WorksAs (Capturing.after second other) := by
  have alike := same.after (history.filter Event.isWork) fun _ => List.of_mem_filter
  have bare := (after_filter second other).symm
  rw [← work] at bare
  exact (after_filter first history).trans (alike.trans bare)

end Scene.WorksAs

end Work

/-! ## Calls -/

section Call

variable {scene : Scene} {thread : Nat}

theorem run_decide (idle : scene.stations thread = .idle) (moment : Moment) (frame : Frame) :
    (Event.decide thread moment frame).run scene = scene.place thread
      (.decided moment (handle scene.responder.settings scene.responder.tables frame)) := by
  rw [Event.run, idle]

theorem run_account {moment : Moment} {run : Run}
    (decided : scene.stations thread = .decided moment run) :
    (Event.account thread).run scene =
      (scene.lend (account scene.responder.settings moment run)).place thread
        (.accounted moment run) := by
  rw [Event.run, decided]

theorem run_finish {moment : Moment} {run : Run}
    (accounted : scene.stations thread = .accounted moment run) :
    (Event.finish thread).run scene =
      ((scene.lend (captureReply scene.responder.settings moment run)).place thread .idle).see
        (.returned thread run.action run.frame) := by
  rw [Event.run, accounted]

theorem stations_place (scene : Scene) (thread : Nat) (station : Station) :
    (scene.place thread station).stations thread = station :=
  Function.update_self ..

/-- A call returns what it decided on when it began, whatever happens while it goes on. -/
theorem record_call (idle : scene.stations thread = .idle) (moment : Moment) (frame : Frame)
    {between later : List Event}
    (others : ∀ event ∈ between ++ later, event.thread? ≠ some thread) :
    let handled := scene.responder.process moment frame scene.log
    let under := after scene
      ([.decide thread moment frame] ++ between ++ [.account thread] ++ later)
    (after under [.finish thread]).record =
      under.record ++ [.returned thread handled.1 handled.2.1] := by
  intro handled under
  rw [List.forall_mem_append] at others
  have decided : (after scene ([.decide thread moment frame] ++ between)).stations thread =
      .decided moment (handle scene.responder.settings scene.responder.tables frame) := by
    rw [after_append, stations_after _ others.1]
    exact (congrArg (·.stations thread) (run_decide idle moment frame)).trans (stations_place ..)
  have accounted : under.stations thread =
      .accounted moment (handle scene.responder.settings scene.responder.tables frame) := by
    apply (congrArg (·.stations thread) (after_append ..)).trans
    rw [stations_after _ others.2, after_append]
    exact (congrArg (·.stations thread) (run_account decided)).trans (stations_place ..)
  exact congrArg Scene.record (run_finish accounted)

/-- A call that nothing comes between is the handling of a frame. -/
theorem after_call (idle : scene.stations thread = .idle) (moment : Moment) (frame : Frame) :
    let handled := scene.responder.process moment frame scene.log
    let ended := after scene [.decide thread moment frame, .account thread, .finish thread]
    ended.responder = handled.2.2.1 ∧ ended.log = handled.2.2.2 := by
  intro handled ended
  have course : ended = (Event.finish thread).run ((Event.account thread).run
    ((Event.decide thread moment frame).run scene)) := rfl
  rw [run_decide idle, run_account (stations_place ..), run_finish (stations_place ..)] at course
  exact ⟨congrArg Scene.responder course, congrArg Scene.log course⟩

end Call

/-- A queue of any capacity hands out what was sent.  The ledger of the record describes the queue:
what was read, what was lost with the receiver, and what is waiting are, in this order, the copies of
the frames that calls sent back out while the receiver was there and had fewer copies waiting than
there is room for; each call counts once, and in the order of the calls.

A queue that refuses makes no difference to calls: with any other queue or none, with any log, and
whatever happens at the receiving end in between, the same work returns the same and counts the same.
And a call is what `process` is: it returns what `process` would when it begins, whatever comes
between, and leaves what `process` does if nothing comes between. -/
theorem hands_out_what_was_sent (responder : Responder) (capacity : Nat) (log : Log)
    (history : List Event) :
    let scene := after { responder := { responder with capture := some { capacity } }, log } history
    let ledger := ledgerOf responder.settings.captureEnabled capacity scene.record
    (∃ queue, scene.responder.capture = some queue
      ∧ ledger.Describes (copiesRead scene.record) queue
      ∧ ledger.captured.Sublist ((returned scene.record).filterMap sentCopy?))
    ∧ (∀ queue elsewhere work, work.filter Event.isWork = history.filter Event.isWork →
      let beside := after
        { responder := { responder with capture := queue }, log := elsewhere } work
      returned beside.record = returned scene.record
        ∧ beside.responder.metrics = scene.responder.metrics)
    ∧ ∀ thread moment frame, scene.stations thread = .idle →
      let handled := scene.responder.process moment frame scene.log
      (∀ between later, (∀ event ∈ between ++ later, event.thread? ≠ some thread) →
        let under := after scene
          ([.decide thread moment frame] ++ between ++ [.account thread] ++ later)
        (after under [.finish thread]).record =
          under.record ++ [.returned thread handled.1 handled.2.1])
      ∧ let ended := after scene [.decide thread moment frame, .account thread, .finish thread]
        ended.responder = handled.2.2.1 ∧ ended.log = handled.2.2.2 := by
  intro scene ledger
  refine ⟨?_, ?_, ?_⟩
  · have start : Scene.Recorded capacity
        { responder := { responder with capture := some { capacity } }, log } :=
      ⟨{ capacity }, rfl, rfl, rfl, rfl, ⟨[], rfl, rfl⟩, fun _ => rfl, fun _ => rfl⟩
    rcases start.after history with ⟨queue, held, -, describes⟩
    rw [settings_after] at describes
    exact ⟨queue, held, describes, captured_sublist ..⟩
  · intro queue elsewhere work same
    have start : Scene.WorksAs
        { responder := { responder with capture := queue }, log := elsewhere }
        { responder := { responder with capture := some { capacity } }, log } :=
      ⟨rfl, rfl, rfl, rfl, rfl⟩
    have alike := start.of_same_work same
    exact ⟨alike.returned, alike.metrics⟩
  · intro thread moment frame idle
    exact ⟨fun between later others => record_call idle moment frame others,
      after_call idle moment frame⟩

end Capturing

namespace Engine.Specimen

open Capturing

/-- The specimen, with room to grow. -/
def arriving : Frame := ⟨[8, 9], parts.octets, List.replicate 16 7⟩

/-- The specimen in two threads at once, and somebody who reads when both are done. -/
def twoCalls : List Event :=
  [.decide 0 ⟨0, 0, 0⟩ arriving, .decide 1 ⟨0, 0, 1⟩ arriving, .account 1, .account 0, .finish 1,
    .finish 0, .read, .read]

/-- What is seen of the calls with a queue of this capacity. -/
def seenWith (capacity : Nat) : List Sighting :=
  (after
    { responder := { responder with capture := some { capacity } }, log := { processId := "1" } }
    twoCalls).record

/-- Both calls send the same back out.  There is room for the copy of one of them, which is read, and
with more room the calls return nothing else. -/
theorem specimen_is_handed_out_once :
    ∃ copy, copiesRead (seenWith 1) = [copy]
      ∧ (returned (seenWith 1)).filterMap sentCopy? = [copy, copy]
      ∧ returned (seenWith 9) = returned (seenWith 1) := by
  let sent := handle responder.settings responder.tables arriving
  rcases Capturing.hands_out_what_was_sent responder 1 { processId := "1" } twoCalls with
    ⟨⟨queue, -, describes, -⟩, alike, -⟩
  have entered : ledgerOf true 1 (seenWith 1) =
      { captured := [⟨.transmit, sent.frame.octets⟩] } := by
    decide +kernel
  rcases describes.whole with ⟨lost, whole, lostCount⟩
  obtain rfl : lost = [] :=
    List.length_eq_zero_iff.mp (lostCount.trans (congrArg Ledger.lost entered))
  have waiting : queue.waiting = [] :=
    List.length_eq_zero_iff.mp (describes.waiting.trans (congrArg Ledger.waiting entered))
  rw [waiting, List.append_nil, List.append_nil] at whole
  refine ⟨_, whole.trans (congrArg Ledger.captured entered), by decide +kernel, ?_⟩
  exact (alike (some { capacity := 9 }) { processId := "1" } twoCalls rfl).1

end Engine.Specimen
end DnsResponder
