import DnsResponder.Proofs.Engine.Outcome
import DnsResponder.Proofs.Engine.Safety
import DnsResponder.Proofs.Metrics.Histogram
import DnsResponder.Proofs.Transcript

namespace DnsResponder

/-!
# The counters are in balance

Frames are counted in three places: when they are received, when their outcome is known, and when
their time is observed.  A frame can leave the handling at many points between these, so that the
counters agree with each other, and with what became of the frames, rests on every course that a
frame can take.  `Visit` is one frame with everything that its handling may see besides the shared
counters, so a sequence of visits mixes settings, tables, workers and times at will.
-/

/-! ## Visits -/

/-- A frame that is handled by a responder whose counters may be shared with others. -/
structure Visit where
  responder : Responder
  moment : Moment
  frame : Frame
  log : Log

namespace Visit

open Metrics (sum_histogram)

def run (visit : Visit) : Engine.Run :=
  Engine.handle visit.responder.settings visit.responder.tables visit.frame

/-- Whether the responder counts frames. -/
def counting (visit : Visit) : Bool :=
  visit.responder.settings.metricsEnabled

/-- Whether the frame leads to a served destination and has a whole message header. -/
def arrives (visit : Visit) : Bool :=
  Engine.arrives visit.responder.settings visit.responder.tables.served visit.frame.octets

/-- The action on the frame, and the shared counters that its handling leaves. -/
def step (visit : Visit) (shared : Metrics) : Action × Metrics :=
  let (action, _, left, _) :=
    { visit.responder with metrics := shared }.process visit.moment visit.frame visit.log
  (action, left.metrics)

theorem step_eq (visit : Visit) (shared : Metrics) : visit.step shared =
    (visit.run.action,
      Engine.count visit.responder.settings visit.moment visit.run shared) := by
  have counted := Responder.metrics_process { visit.responder with metrics := shared } visit.log
    visit.moment visit.frame
  exact congrArg (Prod.mk visit.run.action) counted

/-- What the handling of the frame adds to a number. -/
def amount (perOutcome : Outcome → Nat) (perTime : UInt64 → Nat) (visit : Visit) : Nat :=
  if visit.counting && visit.arrives then
    perOutcome .received + (visit.run.outcome?.map perOutcome).getD 0
      + perTime (holdTime visit.moment.elapsed)
  else 0

variable {read : Shard → UInt64} {perOutcome : Outcome → Nat} {perTime : UInt64 → Nat}
  {shared : Metrics}

theorem complete_step (complete : shared.Complete) (visit : Visit) :
    (visit.step shared).2.Complete := by
  rw [step_eq]
  exact (Engine.count_eq complete ..).2

theorem merged_step (tally : Tally read perOutcome perTime) (complete : shared.Complete)
    (visit : Visit) : read (visit.step shared).2.merged =
      read shared.merged + UInt64.ofNat (visit.amount perOutcome perTime) := by
  have received : visit.run.reception.isSome = visit.arrives := Engine.isSome_reception
  rw [step_eq, Engine.count, received, amount, counting]
  split
  · have atReception := complete.increment visit.moment.worker .received
    cases visit.run.outcome? with
    | none =>
      simp only [Option.map_none, Option.getD_none]
      rw [tally.observes atReception, tally.increments complete, Nat.add_zero, UInt64.ofNat_add,
        UInt64.add_assoc]
    | some outcome =>
      simp only [Option.map_some, Option.getD_some]
      rw [tally.observes (atReception.increment _ _), tally.increments atReception,
        tally.increments complete, UInt64.ofNat_add, UInt64.ofNat_add, UInt64.add_assoc,
        UInt64.add_assoc, UInt64.add_assoc]
  · exact (UInt64.add_zero _).symm

/-- After any visits, a number has grown by what each of them adds. -/
theorem merged_transcript (tally : Tally read perOutcome perTime) (complete : shared.Complete)
    (visits : List Visit) : read (transcript step visits shared).2.merged =
      read shared.merged + UInt64.ofNat ((visits.map (amount perOutcome perTime)).sum) := by
  induction visits generalizing shared with
  | nil => exact (UInt64.add_zero _).symm
  | cons visit rest ih =>
    rw [transcript, ih (complete_step complete visit), merged_step tally complete visit,
      List.map_cons, List.sum_cons, UInt64.ofNat_add, UInt64.add_assoc]

/-! ## Counting visits -/

/-- A number that grows by one or not at all counts the visits at which it grows. -/
theorem sum_amount {kind : Visit → Bool}
    (each : ∀ visit : Visit,
      visit.amount perOutcome perTime = if visit.counting && kind visit then 1 else 0)
    (visits : List Visit) :
    (visits.map (amount perOutcome perTime)).sum = (visits.filter counting).countP kind := by
  rw [List.countP_filter, countP_eq_sum_map]
  congr 2
  funext visit
  rw [each, Bool.and_comm]

/-- What such a number comes to after fewer visits than it can count. -/
theorem toNat_merged (tally : Tally read perOutcome perTime) {kind : Visit → Bool}
    (each : ∀ visit : Visit,
      visit.amount perOutcome perTime = if visit.counting && kind visit then 1 else 0)
    {visits : List Visit} (few : visits.length < 2 ^ 64) {start : Metrics}
    (anew : start.IsFresh) :
    (read (transcript step visits start).2.merged).toNat =
      (visits.filter counting).countP kind := by
  rw [merged_transcript tally anew.complete, tally.fresh anew, UInt64.zero_add, sum_amount each]
  apply UInt64.toNat_ofNat_of_lt'
  calc
    (visits.filter counting).countP kind ≤ (visits.filter counting).length := List.countP_le_length
    _ ≤ visits.length := List.length_filter_le ..
    _ < 2 ^ 64 := few

theorem isSome_outcome? (visit : Visit) :
    visit.run.outcome?.isSome = (visit.arrives && !visit.run.unanswerable) :=
  Engine.isSome_outcome?

/-- Every frame that arrives is counted as received, and no other. -/
theorem amount_received (visit : Visit) :
    visit.amount (fun outcome => if outcome = .received then 1 else 0) (fun _ => 0) =
      if visit.counting && visit.arrives then 1 else 0 := by
  have other := (Engine.outcome?_iff visit.run).2.2.2
  unfold amount
  split
  · cases counted : visit.run.outcome? with
    | none => rfl
    | some outcome =>
      have different : outcome ≠ .received := by
        rintro rfl
        exact other counted
      simp only [Option.map_some, Option.getD_some, if_neg different, if_true]
  · rfl

/-- A frame with another outcome is counted as that. -/
theorem amount_outcome {outcome : Outcome} (different : outcome ≠ .received) (visit : Visit) :
    visit.amount (fun other => if other = outcome then 1 else 0) (fun _ => 0) =
      if visit.counting && decide (visit.run.outcome? = some outcome) then 1 else 0 := by
  have arrived := visit.isSome_outcome?
  unfold amount
  simp only [if_neg (Ne.symm different)]
  cases counted : visit.run.outcome? with
  | none =>
    simp only [Option.map_none, Option.getD_none, reduceCtorEq, decide_false, Bool.and_false,
      Bool.false_eq_true, if_false, ite_self]
  | some held =>
    rw [counted, Option.isSome_some] at arrived
    rw [(Bool.and_eq_true_iff.mp arrived.symm).1, Bool.and_true]
    by_cases same : held = outcome
    · simp only [same, Option.map_some, Option.getD_some, if_true, decide_true, Bool.and_true,
        Nat.zero_add, Nat.add_zero]
    · simp only [same, Option.map_some, Option.getD_some, if_false, Option.some.injEq,
        decide_false, Bool.and_false, Bool.false_eq_true, ite_self, Nat.zero_add]

theorem amount_time (visit : Visit) :
    visit.amount (fun _ => 0) (fun _ => 1) = if visit.counting && visit.arrives then 1 else 0 := by
  unfold amount
  cases visit.run.outcome? <;> rfl

theorem amount_bucket (place : Nat) (visit : Visit) :
    visit.amount (fun _ => 0) (fun time => if log2Bucket time = place then 1 else 0) =
      if visit.counting && (visit.arrives
        && decide (log2Bucket (holdTime visit.moment.elapsed) = place)) then 1 else 0 := by
  unfold amount
  rw [← Bool.and_assoc]
  cases visit.counting && visit.arrives with
  | false => rfl
  | true =>
    have none : (visit.run.outcome?.map fun _ => 0).getD 0 = 0 := by
      cases visit.run.outcome? <;> rfl
    rw [none]
    by_cases same : log2Bucket (holdTime visit.moment.elapsed) = place
    · simp [same]
    · simp [same]

/-! ## The balance -/

/-- A frame that arrives is counted as one other outcome, unless there is nothing to answer. -/
theorem balance (visit : Visit) :
    (if visit.arrives then 1 else 0) =
      (if visit.run.outcome? = some .transmitted then 1 else 0)
        + (if visit.run.outcome? = some .passed then 1 else 0)
        + (if visit.run.outcome? = some .errored then 1 else 0)
        + if visit.arrives && visit.run.unanswerable then 1 else 0 := by
  have counted := visit.isSome_outcome?
  have other := (Engine.outcome?_iff visit.run).2.2.2
  cases arrived : visit.arrives with
  | false =>
    rw [arrived, Bool.false_and, Option.isSome_eq_false_iff, Option.isNone_iff_eq_none] at counted
    simp [counted]
  | true =>
    rw [arrived, Bool.true_and] at counted
    cases nothing : visit.run.unanswerable with
    | true =>
      rw [nothing, Bool.not_true, Option.isSome_eq_false_iff, Option.isNone_iff_eq_none] at counted
      simp [counted]
    | false =>
      rw [nothing, Bool.not_false, Option.isSome_iff_exists] at counted
      rcases counted with ⟨outcome, found⟩
      cases outcome with
      | received => exact absurd found other
      | transmitted | passed | errored => simp [found]

theorem balance_of_visits (visits : List Visit) : visits.countP arrives =
    visits.countP (fun visit => visit.run.outcome? = some .transmitted)
      + visits.countP (fun visit => visit.run.outcome? = some .passed)
      + visits.countP (fun visit => visit.run.outcome? = some .errored)
      + visits.countP (fun visit => visit.arrives && visit.run.unanswerable) := by
  simp only [countP_eq_sum_map, ← List.sum_map_add]
  congr 2
  funext visit
  simpa only [decide_eq_true_eq] using visit.balance

/-- What is counted as transmitted went out, or would have without the dry run. -/
theorem transmitted_of_visits (visits : List Visit) :
    visits.countP (fun visit => visit.run.outcome? = some .transmitted) =
      visits.countP (fun visit => visit.run.action = .transmit)
        + visits.countP (fun visit => visit.run.ending = .dryRun) := by
  simp only [countP_eq_sum_map, ← List.sum_map_add]
  congr 2
  funext visit
  have counted := (Engine.outcome?_iff visit.run).1
  have apart : visit.run.ending = .dryRun → visit.run.action ≠ .transmit := by
    intro dry sent
    rw [Engine.Run.action, dry] at sent
    cases sent
  by_cases dry : visit.run.ending = .dryRun
  · simp [counted, dry, apart dry]
  · simp [counted, dry]

/-- What a single frame adds to the counters. -/
theorem adds_at_most_one (visit : Visit) (complete : shared.Complete) :
    ∃ added : Outcome → Nat, added .received ≤ 1
      ∧ added .transmitted + added .passed + added .errored ≤ added .received
      ∧ ∀ outcome, (visit.step shared).2.snapshot.count outcome =
          shared.snapshot.count outcome + UInt64.ofNat (added outcome) := by
  have balanced := visit.balance
  refine ⟨fun outcome =>
    visit.amount (fun other => if other = outcome then 1 else 0) (fun _ => 0), ?_, ?_, ?_⟩
  · simp only [amount_received]
    split <;> decide
  · simp only [amount_received]
    rw [amount_outcome (by decide), amount_outcome (by decide), amount_outcome (by decide)]
    cases visit.counting with
    | false => exact Nat.le_refl 0
    | true =>
      simp only [Bool.true_and, decide_eq_true_eq]
      omega
  · intro outcome
    rw [Metrics.count_snapshot, Metrics.count_snapshot]
    exact merged_step (.count outcome) complete visit

theorem actions_transcript (visits : List Visit) (start : Metrics) :
    (transcript step visits start).1 = visits.map (·.run.action) := by
  induction visits generalizing start with
  | nil => rfl
  | cons visit rest ih =>
    rw [transcript, ih, List.map_cons, step_eq]

theorem complete_transcript (complete : shared.Complete) (visits : List Visit) :
    (transcript step visits shared).2.Complete :=
  keeps_transcript Metrics.Complete (fun visit _ kept => complete_step kept visit) visits complete

/-- From fresh counters on, whatever responders share them and whatever frames they handle on which
workers: the frames that arrive are received; those that were sent back, or would have been without
the dry run, are transmitted; those without a record are passed, and those whose reply would break a
limit errored.  With those that hold nothing to answer they make up the received ones, each of which
was timed once.  A single frame is counted as at most one of the three, and only if it was received.
Responders that do not count change nothing. -/
theorem counters_balance {visits : List Visit} (few : visits.length < 2 ^ 64) {start : Metrics}
    (anew : start.IsFresh) :
    let counted := visits.filter counting
    let shown := (transcript step visits start).2.snapshot
    shown.received.toNat = counted.countP arrives
    ∧ shown.transmitted.toNat = counted.countP (fun visit => visit.run.action = .transmit)
      + counted.countP (fun visit => visit.run.ending = .dryRun)
    ∧ shown.passed.toNat = counted.countP (fun visit => visit.run.refusal? = some .noRecord)
    ∧ shown.errored.toNat = counted.countP (fun visit => visit.run.overLimit)
    ∧ shown.received.toNat = shown.transmitted.toNat + shown.passed.toNat + shown.errored.toNat
      + counted.countP (fun visit => visit.arrives && visit.run.unanswerable)
    ∧ shown.timeCount = shown.received
    ∧ (shown.histogram.map UInt64.toNat).sum = shown.received.toNat
    ∧ (transcript step visits start).1 = visits.map (·.run.action)
    ∧ (∀ (visit : Visit) (shared : Metrics), shared.Complete →
      ∃ added : Outcome → Nat, added .received ≤ 1
        ∧ added .transmitted + added .passed + added .errored ≤ added .received
        ∧ ∀ outcome, (visit.step shared).2.snapshot.count outcome =
            shared.snapshot.count outcome + UInt64.ofNat (added outcome))
    ∧ ∀ (visit : Visit) (shared : Metrics), visit.counting = false →
      (visit.step shared).2 = shared := by
  intro counted shown
  have received : shown.received.toNat = counted.countP arrives :=
    toNat_merged (.count .received) amount_received few anew
  have other (outcome : Outcome) (different : outcome ≠ .received) :
      ((transcript step visits start).2.merged.count outcome).toNat =
        counted.countP fun visit => visit.run.outcome? = some outcome :=
    toNat_merged (.count outcome) (amount_outcome different) few anew
  have transmitted : shown.transmitted.toNat = _ := other .transmitted (by decide)
  have passed : shown.passed.toNat = _ := other .passed (by decide)
  have errored : shown.errored.toNat = _ := other .errored (by decide)
  have timed : shown.timeCount.toNat = counted.countP arrives :=
    toNat_merged .timeCount amount_time few anew
  refine ⟨received, ?_, ?_, ?_, ?_, ?_, ?_, actions_transcript visits start, ?_, ?_⟩
  · rw [transmitted, transmitted_of_visits]
  · simp only [passed, (Engine.outcome?_iff _).2.1]
  · simp only [errored, (Engine.outcome?_iff _).2.2.1, Bool.decide_eq_true]
  · rw [received, transmitted, passed, errored, balance_of_visits]
  · exact UInt64.toNat_inj.mp (timed.trans received.symm)
  · have inBucket (place : Nat) (member : place ∈ Finset.range histogramBuckets) :=
      toNat_merged (.bucket (Finset.mem_range.mp member)) (amount_bucket place) few anew
    rw [sum_histogram (complete_transcript anew.complete visits), Finset.sum_congr rfl inBucket,
      received]
    exact sum_countP (fun _ => log2Bucket_lt _) arrives counted
  · exact fun visit shared complete => visit.adds_at_most_one complete
  · intro visit shared silent
    rw [step_eq, Engine.count]
    have off : visit.responder.settings.metricsEnabled = false := silent
    simp only [off, Bool.false_and, Bool.false_eq_true, if_false]

open Engine in
/-- The specimen in a room, as a visit to a worker. -/
def specimenVisit (settings : Settings) (worker : Nat) (octets room : Bytes) : Visit where
  responder := { settings, tables := Specimen.tables }
  moment := ⟨0, 1500, worker⟩
  frame := ⟨[], octets, room⟩
  log := ⟨"1", none, 0, {}, []⟩

open Engine in
/-- The specimen without room, with room, under a dry run and without counting, and a frame that is
too short for anything. -/
def specimenVisits : List Visit :=
  [specimenVisit {} 0 Specimen.parts.octets [],
    specimenVisit {} 5 Specimen.parts.octets (List.replicate 16 0),
    specimenVisit { dryRun := true } 2 Specimen.parts.octets [],
    specimenVisit { metricsEnabled := false } 1 Specimen.parts.octets [],
    specimenVisit {} 3 [1, 2] []]

/-- On two shards, three of these are received, two transmitted and one errored. -/
theorem specimens_are_counted :
    specimenVisits.length < 2 ^ 64 ∧ (Metrics.withShards 2).IsFresh ∧
    let shown := (transcript step specimenVisits (.withShards 2)).2.snapshot
    shown.received.toNat = 3 ∧ shown.transmitted.toNat = 2 ∧ shown.errored.toNat = 1
      ∧ shown.timeCount = shown.received := by
  have few : specimenVisits.length < 2 ^ 64 := by decide
  rcases counters_balance few (.made 2) with ⟨received, transmitted, -, errored, -, timed, -⟩
  refine ⟨few, .made 2, ?_, ?_, ?_, timed⟩
  · exact received.trans (by decide +kernel)
  · exact transmitted.trans (by decide +kernel)
  · exact errored.trans (by decide +kernel)

end Visit
end DnsResponder
