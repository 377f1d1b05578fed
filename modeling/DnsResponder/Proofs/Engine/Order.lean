import DnsResponder.Proofs.Engine.Observers
import DnsResponder.Proofs.Transcript

namespace DnsResponder
namespace Responder

/-!
# Frames do not see each other

A responder that has handled frames has other counters, another queue and another log than before,
and the same settings and tables.  So each of many frames gets what it would have got alone.  What
they add to the counters is a sum, and a sum does not see the order of its terms.
-/

open Engine

/-- A frame whose turn it is, and the moment of its handling. -/
structure Turn where
  moment : Moment
  frame : Frame

/-- Handle a frame, and hand on the responder and the log. -/
def take (turn : Turn) (state : Responder × Log) : (Action × Frame) × (Responder × Log) :=
  let handled := state.1.process turn.moment turn.frame state.2
  (decision handled, handled.2.2)

variable (responder : Responder) (log : Log)

/-- What becomes of a frame that is handled alone. -/
def alone (frame : Frame) : Run :=
  handle responder.settings responder.tables frame

/-- No frame leaves anything behind that the next one could see. -/
theorem decisions_transcript (turns : List Turn) :
    (transcript take turns (responder, log)).1 =
      turns.map fun turn =>
        ((responder.alone turn.frame).action, (responder.alone turn.frame).frame) := by
  induction turns generalizing responder log with
  | nil => rfl
  | cons turn rest ih =>
    rw [transcript, List.map_cons]
    exact congrArg (List.cons _) (ih ..)

/-- What frames add to a gauge together. -/
def addsAll (gauge : Gauge) (frames : List Frame) : Nat :=
  (frames.map fun frame =>
    gauge.adds responder.settings.metricsEnabled (responder.alone frame)).sum

theorem read_transcript (gauge : Gauge) (turns : List Turn) :
    gauge.read (transcript take turns (responder, log)).2.1.metrics.snapshot =
      gauge.read responder.metrics.snapshot
        + UInt64.ofNat (responder.addsAll gauge (turns.map Turn.frame)) := by
  induction turns generalizing responder log with
  | nil => exact (UInt64.add_zero _).symm
  | cons turn rest ih =>
    rw [transcript, List.map_cons, addsAll, List.map_cons, List.sum_cons, UInt64.ofNat_add,
      ← UInt64.add_assoc]
    apply (ih ..).trans
    exact congrArg (· + _) (gauge.read_process ..)

/-- A sum does not see the order of its terms. -/
theorem addsAll_of_perm (gauge : Gauge) {frames others : List Frame} (same : frames.Perm others) :
    responder.addsAll gauge frames = responder.addsAll gauge others :=
  (same.map _).sum_eq

end Responder
end DnsResponder
