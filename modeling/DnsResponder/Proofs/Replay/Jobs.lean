import DnsResponder.Proofs.Engine.Order
import DnsResponder.Replay.Session

namespace DnsResponder
namespace Replay

/-!
# Jobs of a replay

What comes of a job is told by its frame and by the settings and tables of the responder, and so it is
known before any job is done.  Doing a job changes the counters of the responder by one increment after
another, and the log, and what else there is stays.

The results are printed in the order of the file, whatever order they come in, since no two of them
have the same place.
-/

/-- The frame of a job as it is handed to the responder. -/
def Job.entering (job : Job) : Frame :=
  ⟨[], job.frame, List.replicate spareOctets 0⟩

/-- What comes of a job. -/
def Job.result (responder : Responder) (job : Job) : Result where
  position := job.position
  status := .decided (responder.alone job.entering).action
  octets := (responder.alone job.entering).frame.octets

/-! ## One job -/

namespace Session

variable (session : Session) (moment : Moment) (job : Job)

/-- The increments by which the frame of a job is counted. -/
def increments : List Increment :=
  match session.host.responder with
  | none => []
  | some responder =>
    Engine.increments responder.settings moment (responder.alone job.entering)

/-- The session after the frame of a job was decided on and before it is counted. -/
def decide : Session :=
  match session.host.responder with
  | none => session
  | some responder =>
    let (_, _, left, log) := responder.process moment job.entering session.host.log
    { session with host := { responder := some { left with metrics := responder.metrics }, log } }

def count (increment : Increment) : Session :=
  { session with
    host.responder := session.host.responder.map fun responder =>
      { responder with metrics := responder.metrics.apply increment } }

/-- The responder of the session has the settings and the tables of another. -/
structure Holds (held responder : Responder) : Prop where
  present : session.host.responder = some held
  settings : held.settings = responder.settings
  tables : held.tables = responder.tables

variable {session} {held responder : Responder}

theorem Holds.refl (present : session.host.responder = some responder) :
    session.Holds responder responder :=
  ⟨present, rfl, rfl⟩

namespace Holds

theorem alone_eq (holds : session.Holds held responder) (frame : Frame) :
    held.alone frame = responder.alone frame := by
  rw [Responder.alone, Responder.alone, holds.settings, holds.tables]

theorem result_eq (holds : session.Holds held responder) :
    job.result held = job.result responder := by
  rw [Job.result, Job.result, holds.alone_eq]

theorem increments_eq (holds : session.Holds held responder) :
    session.increments moment job =
      Engine.increments responder.settings moment (responder.alone job.entering) := by
  rw [Session.increments, holds.present, ← holds.settings, ← holds.alone_eq]

/-! ### Deciding and counting -/

theorem decide (holds : session.Holds held responder) :
    (session.decide moment job).Holds
      { (held.process moment job.entering session.host.log).2.2.1 with metrics := held.metrics }
      responder := by
  refine ⟨?_, holds.settings, holds.tables⟩
  rw [Session.decide, holds.present]

theorem count (holds : session.Holds held responder) (increment : Increment) :
    (session.count increment).Holds { held with metrics := held.metrics.apply increment }
      responder := by
  refine ⟨?_, holds.settings, holds.tables⟩
  rw [Session.count, holds.present]
  rfl

theorem foldl_count (holds : session.Holds held responder) (increments : List Increment) :
    increments.foldl Session.count session =
      { session with
        host.responder :=
          some { held with metrics := increments.foldl Metrics.apply held.metrics } } := by
  induction increments generalizing session held with
  | nil =>
    rcases session with ⟨⟨present, log⟩, lines⟩
    rcases holds.present with rfl
    rfl
  | cons increment rest ih =>
    rw [List.foldl_cons, ih (holds.count increment)]
    rfl

/-! ### Both at once -/

/-- The frame of a job is decided on in a window of its own. -/
theorem verdict_eq (holds : session.Holds held responder) :
    session.host.verdict job.call = .handled held [] (held.alone job.entering) := by
  let entered := job.frame ++ List.replicate spareOctets 0
  have made : Frame.ofWindow entered 0 job.frame.length = .ok job.entering :=
    Frame.ofWindow_append [] job.frame _
  have decided : held.decideWindow entered 0 job.frame.length = .ok (held.alone job.entering) := by
    rw [Responder.decideWindow, made]
    rfl
  have room : entered.length ≠ 0 := by
    rw [List.length_append, List.length_replicate]
    exact Nat.succ_ne_zero _
  simp only [Host.verdict, holds.present, Job.call, room, if_false, List.take_length,
    List.drop_length, decided, entered]

theorem perform (holds : session.Holds held responder) :
    let handled := held.process moment job.entering session.host.log
    session.perform moment job = (job.result responder,
      { session with host := { responder := some handled.2.2.1, log := handled.2.2.2 } }) := by
  intro handled
  have octets := (held.alone job.entering).frame.take_window []
  rw [Session.perform, holds.verdict_eq, ← holds.result_eq]
  simp only [Session.account, Host.account, Responder.account, Option.getD_some, octets]
  rfl

theorem snd_perform (holds : session.Holds held responder) :
    (session.perform moment job).2.Holds
      (held.process moment job.entering session.host.log).2.2.1 responder := by
  refine ⟨?_, holds.settings, holds.tables⟩
  rw [holds.perform]

/-- A job is done by deciding on its frame and counting it, one increment after another. -/
theorem perform_eq (holds : session.Holds held responder) :
    session.perform moment job = (job.result responder,
      (session.increments moment job).foldl Session.count (session.decide moment job)) := by
  have counted : (session.increments moment job).foldl Metrics.apply held.metrics =
      (held.process moment job.entering session.host.log).2.2.1.metrics := by
    rw [held.metrics_process, Engine.count_eq_foldl, Session.increments, holds.present]
    rfl
  rw [(holds.decide moment job).foldl_count, counted, holds.perform, Session.decide, holds.present]

end Holds
end Session

/-! ## The order of the results -/

/-- Results that come in any order are printed in the order of their places. -/
theorem inFileOrder_of_perm {results inOrder : List Result}
    (ordered : inOrder.Pairwise (·.position < ·.position)) (same : results.Perm inOrder) :
    inFileOrder results = inOrder := by
  have places : (inOrder.map Result.position).Nodup :=
    (List.pairwise_map.mpr ordered).imp Nat.ne_of_lt
  have sorted : (inFileOrder results).Pairwise (fun first second =>
      first.position ≤ second.position) := by
    apply (List.pairwise_mergeSort ?_ ?_ results).imp of_decide_eq_true
    · intro first second third before after
      exact decide_eq_true (Nat.le_trans (of_decide_eq_true before) (of_decide_eq_true after))
    · intro first second
      rw [Bool.or_eq_true, decide_eq_true_eq, decide_eq_true_eq]
      exact Nat.le_total ..
  have perm : (inFileOrder results).Perm inOrder := (List.mergeSort_perm ..).trans same
  refine perm.eq_of_pairwise ?_ sorted (ordered.imp Nat.le_of_lt)
  intro first second here there before after
  exact List.inj_on_of_nodup_map places (perm.mem_iff.mp here) there (Nat.le_antisymm before after)

theorem ordered_result {jobs : List Job} (ordered : jobs.Pairwise (·.position < ·.position))
    (responder : Responder) :
    (jobs.map (·.result responder)).Pairwise (·.position < ·.position) :=
  List.pairwise_map.mpr ordered

end Replay
end DnsResponder
