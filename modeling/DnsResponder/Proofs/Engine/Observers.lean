import DnsResponder.Proofs.Engine.Increments
import DnsResponder.Proofs.Engine.Stages
import DnsResponder.Proofs.Window

namespace DnsResponder

/-!
# Nobody who watches has a say

Two responders that hold the same records, serve the same networks and have the same options come to
the same decision on a frame and leave the same octets, whoever watches them.  A log may listen to
everything or to nothing, and may just have let an error through or not; a queue may be missing, full
or without a receiver; the counters may show anything, and the clock as well.

This is proved of the handling in which observers are told on the way, since that is where they could
have a say.
-/

/-- Settings without the switches that concern observers alone. -/
def Settings.unwatched (settings : Settings) : Settings :=
  { settings with metricsEnabled := false, captureEnabled := false }

/-- Tables in which whoever looks something up finds the same. -/
structure Tables.Agree (first second : Tables) : Prop where
  a : ∀ key, first.records.a.find? key = second.records.a.find? key
  aaaa : ∀ key, first.records.aaaa.find? key = second.records.aaaa.find? key
  served : ∀ address, first.served.contains address = second.served.contains address
  options : ∀ name, first.options.get? name = second.options.get? name

/-- Responders that differ in their observers at most. -/
structure Responder.DecidesAs (first second : Responder) : Prop where
  settings : first.settings.unwatched = second.settings.unwatched
  tables : first.tables.Agree second.tables

namespace Engine

variable {settings other : Settings} {first second : Tables}

/-! ## What a decision is made from -/

theorem handle_unwatched (settings : Settings) (tables : Tables) (frame : Frame) :
    handle settings.unwatched tables frame = handle settings tables frame := rfl

theorem resolve_of_agree (agree : first.Agree second) (key : Dns.Key) (queryId : UInt16)
    (spread : Bool) :
    first.records.resolve key queryId spread = second.records.resolve key queryId spread := by
  rw [Records.resolve, Records.resolve, agree.a, agree.aaaa]

theorem receive_of_agree (agree : first.Agree second) (settings : Settings) (data : Bytes) :
    receive settings first.served data = receive settings second.served data := by
  simp only [receive, agree.served]

theorem switch_of_agree (agree : first.Agree second) (name : OptionName) (default : Bool) :
    first.options.switch name default = second.options.switch name default := by
  rw [RuntimeOptions.switch, RuntimeOptions.switch, agree.options]

/-- A decision is made from the settings of the handling, and from what the tables are asked. -/
theorem handle_of_agree (same : settings.unwatched = other.unwatched) (agree : first.Agree second)
    (frame : Frame) : handle settings first frame = handle other second frame := by
  rw [← handle_unwatched settings, ← handle_unwatched other, same, handle, handle,
    receive_of_agree agree, switch_of_agree agree]
  simp only [resolve_of_agree agree]

/-- The action on a frame, and the frame that is left. -/
def decision {α : Type} (handled : Action × Frame × α) : Action × Frame :=
  (handled.1, handled.2.1)

end Engine

namespace Responder

open Engine

variable {first second : Responder}

/-- What a responder makes of a frame while it tells its observers on the way. -/
def narrate (responder : Responder) (moment : Moment) (frame : Frame) (log : Log) :
    Action × Frame × Responder × Log :=
  let (action, left, observers) :=
    Engine.narrate responder.settings responder.tables moment frame (responder.observers log)
  (action, left, responder.regain observers, observers.log)

theorem narrate_eq (responder : Responder) (moment : Moment) (frame : Frame) (log : Log) :
    responder.narrate moment frame log = responder.process moment frame log := by
  rw [narrate, Engine.narrate_eq]
  rfl

namespace DecidesAs

theorem handle_eq (same : first.DecidesAs second) (frame : Frame) :
    handle first.settings first.tables frame = handle second.settings second.tables frame :=
  handle_of_agree same.settings same.tables frame

theorem decision_eq (same : first.DecidesAs second) (moment later : Moment) (frame : Frame)
    (log other : Log) :
    decision (first.process moment frame log) = decision (second.process later frame other) :=
  congrArg (fun run : Run => (run.action, run.frame)) (same.handle_eq frame)

theorem window_eq (same : first.DecidesAs second) (moment later : Moment) (window : Bytes)
    (head size : Nat) (log other : Log) :
    (first.processWindow moment window head size log).map decision =
      (second.processWindow later window head size other).map decision := by
  rw [processWindow_eq, processWindow_eq]
  cases Frame.ofWindow window head size with
  | error cause => simp only [Except.map]
  | ok frame => simp only [Except.map, same.decision_eq moment later frame log other]

/-- By how much a counter has grown, also when it went around. -/
theorem growth_eq (start added : UInt64) : start + added - start = added := by
  rw [UInt64.add_comm, UInt64.add_sub_cancel]

/-- Responders that both count frames, or both do not, count them alike. -/
theorem growth_process_eq (same : first.DecidesAs second)
    (counting : first.settings.metricsEnabled = second.settings.metricsEnabled) (gauge : Gauge)
    (moment later : Moment) (frame : Frame) (log other : Log) :
    gauge.read (first.process moment frame log).2.2.1.metrics.snapshot
        - gauge.read first.metrics.snapshot =
      gauge.read (second.process later frame other).2.2.1.metrics.snapshot
        - gauge.read second.metrics.snapshot := by
  rw [gauge.read_process, gauge.read_process, growth_eq, growth_eq, same.handle_eq, counting]

end DecidesAs

/-- Responders that differ in their observers at most, at any two moments and with any two logs, come
to the same decision on a frame and leave it the same: in the handling in which observers are told on
the way, which is the handling, and on any window.  If both count frames, or both do not, then every
counter of outcomes and the number of times change by the same amount. -/
theorem decides_whoever_watches (same : first.DecidesAs second) (moment later : Moment)
    (log other : Log) :
    (∀ frame, decision (first.narrate moment frame log) = decision (second.narrate later frame other)
      ∧ first.narrate moment frame log = first.process moment frame log
      ∧ second.narrate later frame other = second.process later frame other)
    ∧ (∀ window head size,
      (first.processWindow moment window head size log).map decision =
        (second.processWindow later window head size other).map decision)
    ∧ (first.settings.metricsEnabled = second.settings.metricsEnabled →
      ∀ frame,
        let one := (first.process moment frame log).2.2.1.metrics.snapshot
        let two := (second.process later frame other).2.2.1.metrics.snapshot
        (∀ outcome, one.count outcome - first.metrics.snapshot.count outcome =
          two.count outcome - second.metrics.snapshot.count outcome)
        ∧ one.timeCount - first.metrics.snapshot.timeCount =
          two.timeCount - second.metrics.snapshot.timeCount) := by
  refine ⟨?_, ?_, ?_⟩
  · intro frame
    rw [narrate_eq, narrate_eq]
    exact ⟨same.decision_eq moment later frame log other, rfl, rfl⟩
  · intro window head size
    exact same.window_eq moment later window head size log other
  · intro counting frame
    exact ⟨fun outcome => same.growth_process_eq counting (.count outcome) ..,
      same.growth_process_eq counting .times ..⟩

end Responder

namespace Engine.Specimen

/-- A responder that would answer the specimen, too, and whose observers are others: it does not
count, and its queue is full. -/
def uncounted : Responder :=
  { responder with
    settings := { metricsEnabled := false }
    metrics := .withShards 2
    capture := some { capacity := 0 } }

theorem decidesAs_uncounted : responder.DecidesAs uncounted where
  settings := rfl
  tables := ⟨fun _ => rfl, fun _ => rfl, fun _ => rfl, fun _ => rfl⟩

/-- The specimen in a window, handled at a moment with a log that listens to everything or has no
sink. -/
def handledBy (watched : Responder) (moment : Moment) (sink : Option Sink) : Action × Frame :=
  decision <| watched.process moment ⟨[8, 9], parts.octets, List.replicate 16 7⟩
    { processId := "1", sink, active := (sink.map (·.topics)).getD 0 }

/-- Both answer the specimen with the same octets, the one with a log without a sink, the other with
one that listens to everything. -/
theorem specimen_whoever_watches :
    ∃ reply, handledBy responder ⟨0, 0, 0⟩ none = (.transmit, reply)
      ∧ handledBy uncounted ⟨1700, 60, 5⟩ (some ⟨0xFF, .debug⟩) = (.transmit, reply) := by
  have sent : (handledBy responder ⟨0, 0, 0⟩ none).1 = .transmit := by
    decide +kernel
  rcases Responder.decides_whoever_watches decidesAs_uncounted ⟨0, 0, 0⟩ ⟨1700, 60, 5⟩
    { processId := "1" } { processId := "1", sink := some ⟨0xFF, .debug⟩, active := 0xFF } with
    ⟨same, -, -⟩
  rcases same ⟨[8, 9], parts.octets, List.replicate 16 7⟩ with ⟨decided, first, second⟩
  rw [first, second] at decided
  have both : handledBy responder ⟨0, 0, 0⟩ none =
      handledBy uncounted ⟨1700, 60, 5⟩ (some ⟨0xFF, .debug⟩) := decided
  refine ⟨(handledBy responder ⟨0, 0, 0⟩ none).2, Prod.ext sent rfl, ?_⟩
  rw [← both]
  exact Prod.ext sent rfl

end Engine.Specimen
end DnsResponder
