import DnsResponder.Proofs.Engine.Filter
import DnsResponder.Proofs.Engine.Increments
import DnsResponder.Proofs.Window

namespace DnsResponder

/-!
# What a dry run shows

A dry run is a rehearsal: a frame is received, read and looked up as ever, and left alone where it
would have been answered.  The counters then say what a responder would have done, with one
difference.  Whether a reply fits is only found out by writing it, so a reply that would have been
refused counts as transmitted in a dry run, and nothing counts as errored.

The two runs are compared by the course of the live one.  Up to the answer they are the same run, and
`Rehearses` tells what is left of the rest.
-/

/-! ## When it is in effect -/

/-- The word in the slot of the dry run. -/
def RuntimeOptions.dryRunWord (options : RuntimeOptions) : UInt32 :=
  options.slots[OptionName.dryRun.slot]

/-- A dry run is in effect when the slot holds a word that says so, or none and the settings say so.
The all-ones word stands for none. -/
def Responder.RunsDry (responder : Responder) : Prop :=
  (responder.tables.options.dryRunWord ≠ 0
      ∧ responder.tables.options.dryRunWord ≠ 0xFFFFFFFF)
    ∨ (responder.tables.options.dryRunWord = 0xFFFFFFFF ∧ responder.settings.dryRun = true)

theorem Responder.switch_dryRun (responder : Responder) :
    responder.tables.options.switch .dryRun responder.settings.dryRun = true ↔
      responder.RunsDry := by
  have slot : responder.tables.options.get? .dryRun =
      if responder.tables.options.dryRunWord = 0xFFFFFFFF then none
      else some responder.tables.options.dryRunWord := rfl
  rw [RunsDry, RuntimeOptions.switch, slot]
  by_cases empty : responder.tables.options.dryRunWord = 0xFFFFFFFF
  · simp only [empty, if_true, ne_eq, not_true, and_false, false_or, true_and]
  · simp only [empty, if_false, bne_iff_ne, ne_eq, not_false_eq_true, and_true, false_and, or_false]

namespace Responder

/-! ### Histories of the slot -/

/-- What an event leaves in the slot. -/
def Event.dryRunWord (held : UInt32) : Event → UInt32
  | .setOption slot value => if slot = 0 then value else held
  | _ => held

theorem dryRunWord_setSlot {options changed : RuntimeOptions} {slot value : UInt32}
    (stored : options.setSlot slot value = .ok changed) :
    changed.dryRunWord = if slot = 0 then value else options.dryRunWord := by
  rw [RuntimeOptions.setSlot] at stored
  split at stored
  · next inside =>
    cases stored
    have first : slot.toNat = 0 ↔ slot = 0 := UInt32.toNat_inj (b := 0)
    exact (Vector.getElem_set inside _).trans (if_congr first rfl rfl)
  · cases stored

theorem dryRunWord_run (event : Event) (responder : Responder) (log : Log) :
    (event.run responder log).1.tables.options.dryRunWord =
      event.dryRunWord responder.tables.options.dryRunWord := by
  cases event with
  | insertA name record =>
    rw [Event.run, insertA]
    cases Dns.Key.ofText name .a <;> rfl
  | insertAaaa name record =>
    rw [Event.run, insertAaaa]
    cases Dns.Key.ofText name .aaaa <;> rfl
  | remove name type =>
    rw [Event.run, remove]
    cases Dns.Key.ofText name type <;> rfl
  | serve network =>
    rw [Event.run, serve]
    cases responder.tables.served.insertText network <;> rfl
  | serveBlock block =>
    rw [Event.run]
    cases responder.tables.served.insert block <;> rfl
  | setOption slot value =>
    rw [Event.run, setOption]
    cases stored : responder.tables.options.setSlot slot value with
    | ok changed => exact dryRunWord_setSlot stored
    | error unknown =>
      have beyond : slot ≠ 0 := by
        rintro rfl
        cases stored
      exact (if_neg beyond).symm
  | _ => rfl

/-- After a history, the word that was stored last decides, and the settings if it stands for none or
if there was none. -/
theorem runsDry_after (settings : Settings) (queue : Option CaptureQueue) (log : Log)
    (history : List Event) :
    (after settings queue log history).1.RunsDry ↔
      let word := history.foldl Event.dryRunWord 0xFFFFFFFF
      (word ≠ 0 ∧ word ≠ 0xFFFFFFFF) ∨ (word = 0xFFFFFFFF ∧ settings.dryRun = true) := by
  have word : (after settings queue log history).1.tables.options.dryRunWord =
      history.foldl Event.dryRunWord 0xFFFFFFFF := by
    induction history using List.reverseRecOn with
    | nil => rfl
    | append_singleton history event ih =>
      rw [after_append, dryRunWord_run, ih, List.foldl_append]
      rfl
  rw [RunsDry, word, settings_after]

end Responder

/-! ## The two runs -/

def Settings.withDryRun (settings : Settings) (dryRun : Bool) : Settings :=
  { settings with dryRun }

/-- Responders that differ in nothing but their options and what the settings say on the dry run. -/
structure Responder.SameButDryRun (first second : Responder) : Prop where
  settings : first.settings = second.settings.withDryRun first.settings.dryRun
  records : first.tables.records = second.tables.records
  served : first.tables.served = second.tables.served
  metrics : first.metrics = second.metrics
  capture : first.capture = second.capture

namespace Engine

/-- The run rehearses another: it is the same up to the answer, and where the other answers the frame
or finds that the reply does not fit, it leaves the frame alone. -/
inductive Rehearses (frame : Frame) : Run → Run → Prop
  | same {run : Run} (passed : run.action = .pass) (fits : run.overLimit = false)
      (wet : run.ending ≠ .dryRun) : Rehearses frame run run
  | instead {reception : Reception} {question : Dns.Question} {live : Run}
      (received : live.reception = some reception)
      (answered : live.action = .transmit ∨ live.overLimit = true) :
      Rehearses frame ⟨some reception, some question, .dryRun, frame⟩ live

variable {settings : Settings} {tables : Tables} {dryRun : Bool} {options : RuntimeOptions}

/-- Only what stops a reply can be a limit. -/
theorem overLimit_stopped {stop : Stop} (early : ∀ cause, stop ≠ .refused (.reply cause))
    (reception : Option Reception) (question : Option Dns.Question) (frame : Frame) :
    Run.overLimit ⟨reception, question, .stopped stop, frame⟩ = false := by
  cases stop with
  | outside => rfl
  | refused reason =>
    cases reason with
    | reply cause => exact absurd rfl (early cause)
    | _ => rfl

theorem stopped_ne_dryRun (stop : Stop) : Ending.stopped stop ≠ .dryRun := by
  intro impossible
  cases impossible

theorem receive_withDryRun : receive (settings.withDryRun dryRun) = receive settings := rfl

theorem inquire_withDryRun : inquire (settings.withDryRun dryRun) = inquire settings := rfl

theorem randomTtl_withDryRun : (settings.withDryRun dryRun).randomTtl = settings.randomTtl := rfl

theorem rehearses (dry : options.switch .dryRun (settings.withDryRun dryRun).dryRun = true)
    (wet : tables.options.switch .dryRun settings.dryRun ≠ true) (frame : Frame) :
    Rehearses frame (handle (settings.withDryRun dryRun) { tables with options } frame)
      (handle settings tables frame) := by
  have course := course_of_handle settings tables frame
  generalize handle settings tables frame = live at course ⊢
  -- the stages up to the answer are those of the live run
  simp only [handle, receive_withDryRun, inquire_withDryRun, randomTtl_withDryRun]
  cases course with
  | unreceived stopped early =>
    simp only [stopped]
    refine .same rfl (overLimit_stopped ?_ ..) (stopped_ne_dryRun _)
    rintro cause rfl
    rcases early with impossible | impossible <;> cases impossible
  | unread received inquired refused =>
    simp only [received, inquired]
    refine .same rfl (overLimit_stopped ?_ ..) (stopped_ne_dryRun _)
    rintro cause ⟨⟩
    exact refused
  | unresolved received inquired resolved refused =>
    simp only [received, inquired, resolved]
    refine .same rfl (overLimit_stopped ?_ ..) (stopped_ne_dryRun _)
    rintro cause ⟨⟩
    exact refused
  | dry received inquired resolved on => exact absurd on wet
  | unfit asks excess limit =>
    rcases asks.steps with ⟨received, inquired, resolved⟩
    simp only [received, inquired, resolved, dry, if_true]
    exact .instead rfl (.inr rfl)
  | replied asks fits =>
    rcases asks.steps with ⟨received, inquired, resolved⟩
    simp only [received, inquired, resolved, dry, if_true]
    exact .instead rfl (.inl rfl)

/-- What a received frame with an outcome adds to a gauge. -/
theorem adds_of_outcome (gauge : Gauge) {run : Run} {reception : Reception} {outcome : Outcome}
    (received : run.reception = some reception) (ended : run.outcome? = some outcome) :
    gauge.adds true run =
      gauge.perOutcome .received + gauge.perOutcome outcome + gauge.perTime := by
  simp only [Gauge.adds, received, ended, Option.isSome_some, Bool.and_self, if_true,
    Option.map_some, Option.getD_some]

/-- A run adds nothing to the counter of another outcome. -/
theorem adds_of_other {run : Run} {counted : Outcome} (ended : run.outcome? ≠ some counted)
    (second : .received ≠ counted) : (Gauge.count counted).adds true run = 0 := by
  rw [Gauge.adds]
  split
  · cases found : run.outcome? with
    | none => exact if_neg second
    | some outcome =>
      have different : outcome ≠ counted := by
        rintro rfl
        exact ended found
      simp only [Gauge.count, Option.map_some, Option.getD_some, if_neg second, if_neg different]
  · rfl

namespace Rehearses

variable {frame : Frame} {rehearsal live : Run}

theorem action_eq (rehearses : Rehearses frame rehearsal live) : rehearsal.action = .pass := by
  cases rehearses with
  | same passed => exact passed
  | instead => rfl

/-- A live run that gets to its reply is counted as transmitted or as errored. -/
theorem outcome?_of_answered (answered : live.action = .transmit ∨ live.overLimit = true) :
    live.outcome? = some .transmitted ∨ live.outcome? = some .errored := by
  rcases outcome?_iff live with ⟨transmitted, -, errored, -⟩
  rcases answered with sent | excess
  · exact .inl (transmitted.mpr (.inl sent))
  · exact .inr (errored.mpr excess)

/-- A gauge that does not tell transmitted frames from errored ones does not tell the rehearsal from
the live run. -/
theorem adds_eq (rehearses : Rehearses frame rehearsal live) {gauge : Gauge}
    (level : gauge.perOutcome .transmitted = gauge.perOutcome .errored) :
    gauge.adds true rehearsal = gauge.adds true live := by
  cases rehearses with
  | same => rfl
  | instead received answered =>
    rw [adds_of_outcome gauge rfl rfl]
    rcases outcome?_of_answered answered with ended | ended
    · rw [adds_of_outcome gauge received ended]
    · rw [adds_of_outcome gauge received ended, level]

theorem sum_adds_eq (rehearses : Rehearses frame rehearsal live) :
    (Gauge.count .transmitted).adds true rehearsal + (Gauge.count .errored).adds true rehearsal =
      (Gauge.count .transmitted).adds true live + (Gauge.count .errored).adds true live := by
  cases rehearses with
  | same => rfl
  | instead received answered =>
    rw [adds_of_outcome _ rfl rfl, adds_of_outcome _ rfl rfl]
    rcases outcome?_of_answered answered with ended | ended
    · rw [adds_of_outcome _ received ended, adds_of_outcome _ received ended]
    · rw [adds_of_outcome _ received ended, adds_of_outcome _ received ended]
      rfl

theorem adds_errored (rehearses : Rehearses frame rehearsal live) :
    (Gauge.count .errored).adds true rehearsal = 0 := by
  cases rehearses with
  | same passed fits wet =>
    have uncounted : rehearsal.outcome? ≠ some .errored := by
      rw [ne_eq, (outcome?_iff rehearsal).2.2.1, fits]
      exact Bool.false_ne_true
    exact adds_of_other uncounted nofun
  | instead => rfl

/-- The rehearsal counts as transmitted what the live run sends or cannot fit. -/
theorem adds_transmitted (rehearses : Rehearses frame rehearsal live) :
    (Gauge.count .transmitted).adds true rehearsal =
      if live.action = .transmit ∨ live.overLimit = true then 1 else 0 := by
  cases rehearses with
  | same passed fits wet =>
    have unanswered : ¬ (rehearsal.action = .transmit ∨ rehearsal.overLimit = true) := by
      rw [passed, fits]
      rintro (impossible | impossible) <;> cases impossible
    have uncounted : rehearsal.outcome? ≠ some .transmitted := by
      rw [ne_eq, (outcome?_iff rehearsal).1, passed]
      rintro (impossible | dry)
      · cases impossible
      · exact wet dry
    rw [if_neg unanswered]
    exact adds_of_other uncounted nofun
  | instead received answered => exact (if_pos answered).symm

end Rehearses
end Engine

namespace Responder

open Engine

variable {dry live : Responder}

theorem SameButDryRun.rehearses (same : dry.SameButDryRun live) (effective : dry.RunsDry)
    (ineffective : ¬ live.RunsDry) (frame : Frame) :
    Rehearses frame (handle dry.settings dry.tables frame)
      (handle live.settings live.tables frame) := by
  have on := dry.switch_dryRun.mpr effective
  have off := mt live.switch_dryRun.mp ineffective
  have tables : dry.tables = { live.tables with options := dry.tables.options } := by
    simp only [← same.records, ← same.served]
  rw [same.settings] at on
  rw [same.settings, tables]
  exact Engine.rehearses on off frame

/-- A frame that is passed on concerns no queue. -/
theorem process_of_pass {responder : Responder} {frame : Frame}
    (passed : (handle responder.settings responder.tables frame).action = .pass)
    (moment : Moment) (log : Log) :
    ∃ metrics noted, ∀ queue, { responder with capture := queue }.process moment frame log =
      (.pass, frame, { responder with metrics, capture := queue }, noted) := by
  let run := handle responder.settings responder.tables frame
  refine ⟨count responder.settings moment run responder.metrics,
    noteEnding moment run (noteQuestion run log), fun queue => ?_⟩
  let observers := { responder with capture := queue }.observers log
  have settled : settle responder.settings moment run observers =
      { observers with
        metrics := count responder.settings moment run responder.metrics
        log := noteEnding moment run (noteQuestion run log) } :=
    captureReply_of_pass passed moment _
  calc
    { responder with capture := queue }.process moment frame log =
        (run.action, run.frame,
          responder.regain (settle responder.settings moment run observers),
          (settle responder.settings moment run observers).log) := rfl
    _ = _ := by
      rw [settled, passed, frame_of_pass passed]
      rfl

theorem SameButDryRun.counting (same : dry.SameButDryRun live)
    (counting : live.settings.metricsEnabled = true) : dry.settings.metricsEnabled = true := by
  rw [same.settings]
  exact counting

/-- A gauge after a dry run and after a live one. -/
theorem SameButDryRun.read_eq (same : dry.SameButDryRun live)
    (counting : live.settings.metricsEnabled = true) (moment later : Moment) (frame : Frame)
    (log other : Log) (gauge : Gauge) :
    let rehearsal := handle dry.settings dry.tables frame
    let run := handle live.settings live.tables frame
    gauge.read (dry.process moment frame log).2.2.1.metrics.snapshot =
        gauge.read live.metrics.snapshot + UInt64.ofNat (gauge.adds true rehearsal)
      ∧ gauge.read (live.process later frame other).2.2.1.metrics.snapshot =
        gauge.read live.metrics.snapshot + UInt64.ofNat (gauge.adds true run) := by
  intro rehearsal run
  rw [gauge.read_process, gauge.read_process, same.counting counting, counting, same.metrics]
  exact ⟨rfl, rfl⟩

/-- A frame is handled by two responders that differ in nothing but the dry run, which is in effect in
one of them.  That one passes the frame on as it came and sends nothing to any queue: whatever queue it
has stays as it is and changes nothing else.  It receives, passes and times frames as the other one
does, and transmits and errs as often taken together.  What the other one sends or cannot fit counts as
transmitted, and nothing as errored. -/
theorem dry_run_mirrors (same : dry.SameButDryRun live)
    (counting : live.settings.metricsEnabled = true) (effective : dry.RunsDry)
    (ineffective : ¬ live.RunsDry) (moment later : Moment) (log other : Log) :
    (∀ frame,
      let before := live.metrics.snapshot
      let one := (dry.process moment frame log).2.2.1.metrics.snapshot
      let two := (live.process later frame other).2.2.1.metrics.snapshot
      (∃ metrics noted, ∀ queue, { dry with capture := queue }.process moment frame log =
        (.pass, frame, { dry with metrics, capture := queue }, noted))
      ∧ one.received = two.received ∧ one.passed = two.passed ∧ one.timeCount = two.timeCount
      ∧ one.transmitted + one.errored = two.transmitted + two.errored
      ∧ one.transmitted = before.transmitted +
        (if (live.process later frame other).1 = .transmit
          ∨ (handle live.settings live.tables frame).overLimit = true then 1 else 0)
      ∧ one.errored = before.errored)
    ∧ ∀ window head size action frame after left,
      dry.processWindow moment window head size log = .ok (action, frame, after, left) →
        action = .pass ∧ frame.window = window ∧ frame.head = head ∧ frame.size = size := by
  constructor
  · intro frame before one two
    have rehearses := same.rehearses effective ineffective frame
    have reads (gauge : Gauge) := same.read_eq counting moment later frame log other gauge
    have shared (gauge : Gauge) (level : gauge.perOutcome .transmitted = gauge.perOutcome .errored) :
        gauge.read one = gauge.read two := by
      rw [(reads gauge).1, (reads gauge).2, rehearses.adds_eq level]
    refine ⟨process_of_pass rehearses.action_eq moment log, shared (.count .received) rfl,
      shared (.count .passed) rfl, shared .times rfl, ?_, ?_, ?_⟩
    · have sums (first second : Nat) : before.transmitted + UInt64.ofNat first
          + (before.errored + UInt64.ofNat second) =
            before.transmitted + before.errored + UInt64.ofNat (first + second) := by
        rw [UInt64.ofNat_add]
        ac_rfl
      have transmitted := reads (.count .transmitted)
      have errored := reads (.count .errored)
      calc
        one.transmitted + one.errored = _ := congrArg₂ (· + ·) transmitted.1 errored.1
        _ = _ := sums ..
        _ = _ := by rw [rehearses.sum_adds_eq]
        _ = _ := (sums ..).symm
        _ = two.transmitted + two.errored := (congrArg₂ (· + ·) transmitted.2 errored.2).symm
    · apply (reads (.count .transmitted)).1.trans
      rw [rehearses.adds_transmitted]
      have action : (live.process later frame other).1 =
          (handle live.settings live.tables frame).action := rfl
      rw [action]
      split <;> rfl
    · apply (reads (.count .errored)).1.trans
      rw [rehearses.adds_errored]
      exact UInt64.add_zero _
  · intro window head size action frame after left handled
    have passed : action = .pass := by
      rw [processWindow_eq] at handled
      rcases map_eq_ok_iff.mp handled with ⟨entering, made, result⟩
      have decided : (handle dry.settings dry.tables entering).action = action :=
        congrArg Prod.fst result
      rw [← decided]
      exact (same.rehearses effective ineffective entering).action_eq
    subst passed
    exact ⟨rfl, window_of_pass handled⟩

end Responder

namespace Engine.Specimen

open Responder

/-- A responder that has the record of the specimen and serves its network, after words were stored
in the slot of the dry run. -/
def afterWords (words : List UInt32) : Responder :=
  (after {} none { processId := "1" } <|
    [.insertA "a" ⟨0x01020304, 300⟩, .serve "192.0.2.0/24"] ++ words.map (.setOption 0)).1

/-- The specimen without room for its reply. -/
def cramped : Frame := ⟨[8, 9], parts.octets, []⟩

/-- After a word of two the specimen is rehearsed, and counted as transmitted.  When the slot was
cleared afterwards, its reply turns out not to fit. -/
theorem specimen_is_rehearsed :
    let rehearsed := (afterWords [2]).process ⟨0, 0, 0⟩ cramped { processId := "1" }
    let lived := (afterWords [2, 0xFFFFFFFF]).process ⟨5, 6, 7⟩ cramped { processId := "2" }
    (afterWords [2]).RunsDry ∧ ¬ (afterWords [2, 0xFFFFFFFF]).RunsDry
    ∧ rehearsed.1 = .pass ∧ rehearsed.2.1 = cramped
    ∧ rehearsed.2.2.1.metrics.snapshot.transmitted = 1
    ∧ lived.2.2.1.metrics.snapshot.transmitted + lived.2.2.1.metrics.snapshot.errored = 1 := by
  have same : (afterWords [2]).SameButDryRun (afterWords [2, 0xFFFFFFFF]) :=
    ⟨rfl, rfl, rfl, rfl, rfl⟩
  have effective : (afterWords [2]).RunsDry := (runsDry_after ..).mpr (by decide)
  have ineffective : ¬ (afterWords [2, 0xFFFFFFFF]).RunsDry := mt (runsDry_after ..).mp (by decide)
  have excess : (handle (afterWords [2, 0xFFFFFFFF]).settings (afterWords [2, 0xFFFFFFFF]).tables
      cramped).overLimit = true := by
    decide +kernel
  rcases (dry_run_mirrors same rfl effective ineffective ⟨0, 0, 0⟩ ⟨5, 6, 7⟩ { processId := "1" }
    { processId := "2" }).1 cramped with
    ⟨⟨metrics, noted, handled⟩, -, -, -, sums, transmitted, errored⟩
  intro rehearsed lived
  have result : rehearsed = _ := handled none
  have one : rehearsed.2.2.1.metrics.snapshot.transmitted = 1 := by
    apply transmitted.trans
    rw [if_pos (.inr excess)]
    rfl
  refine ⟨effective, ineffective, congrArg Prod.fst result,
    congrArg (fun handled => handled.2.1) result, one, ?_⟩
  apply sums.symm.trans
  apply (congrArg₂ (· + ·) one errored).trans
  rfl

end Engine.Specimen
end DnsResponder
