import DnsResponder.Proofs.Replay.Workers

namespace DnsResponder
namespace Replay

/-!
# Frames in any order

Frames do not see each other, whichever way they are handled: one after another in some order, or by
workers that share them.  Here the two are put together, and followed up to the lines that a replay
prints.  Only the times in the last line depend on how the workers got on.

A replay gets to its frames when there is room for its queue and each of its workers is started.  The
room is a number of the machine, of 64 bits, and four times what the command line says may not be one;
nothing is said of a replay that asks for so many workers.  One that is refused a worker hands out no
frame and prints no line.
-/

/-- A session that comes to its end prints the results in the order of the file, and the counters. -/
theorem conclude_of_perm {session : Session} {held responder : Responder}
    (holds : session.Holds held responder) {results inOrder : List Result}
    (ordered : inOrder.Pairwise (·.position < ·.position)) (same : results.Perm inOrder) :
    (session.conclude (.ok results)).code = 0
      ∧ (session.conclude (.ok results)).output =
        inOrder.map Result.line ++ [metricsLine held.metrics.snapshot] := by
  refine ⟨rfl, ?_⟩
  change (inFileOrder results).map Result.line ++ (session.host.metrics?.map metricsLine).toList = _
  rw [inFileOrder_of_perm ordered same, Host.metrics?, holds.present]
  rfl

/-- The results of the jobs of a file, each of which was done alone. -/
def linesOf (session : Session) (lone : Moment) (frames : List Bytes) : List String :=
  (jobsOf frames).map fun job => (session.perform lone job).1.line

theorem linesOf_eq {session : Session} {held responder : Responder}
    (holds : session.Holds held responder) (lone : Moment) (frames : List Bytes) :
    linesOf session lone frames = ((jobsOf frames).map (·.result responder)).map Result.line := by
  rw [linesOf, List.map_map]
  apply List.map_congr_left
  intro job _
  rw [holds.perform]
  rfl

/-- Snapshots that count the same frames. -/
def CountAlike (first second : Snapshot) : Prop :=
  (∀ outcome, first.count outcome = second.count outcome) ∧ first.timeCount = second.timeCount

theorem countAlike_of_reads {first second : Snapshot}
    (same : ∀ gauge : Gauge, gauge.read first = gauge.read second) : CountAlike first second :=
  ⟨fun outcome => same (.count outcome), same .times⟩

/-- The workers have got on with the jobs in some way, and the floor is what they have come to. -/
def Reached (workers : Nat) (jobs : List Job) (session : Session) (floor : Floor) : Prop :=
  Relation.ReflTransGen (Floor.Step (roomFor workers)) (.start workers jobs session) floor

/-- What is printed when everything on a floor is done that so many jobs came to. -/
def Floor.report (floor : Floor) (total : Nat) : Report :=
  floor.session.conclude (complete total floor.delivered)

section Reaching

variable {script : Script} {workers : Nat} {jobs : List Job} {session : Session}
  {responder : Responder}

/-- The jobs can be done one after another, as a replay does them. -/
theorem reached_performAll (crew : 0 < workers)
    (present : session.host.responder = some responder) (script : Script) :
    ∃ floor : Floor, Reached workers jobs session floor ∧ floor.Finished
      ∧ (session.performAll script.machine workers #[] jobs).run =
        (floor.delivered, floor.session) := by
  rcases Nat.exists_eq_succ_of_ne_zero (Nat.ne_of_gt crew) with ⟨others, rfl⟩
  have room : 0 < roomFor (others + 1) := Nat.mul_pos (by decide) crew
  have steps : Reached (others + 1) jobs session _ :=
    Floor.steps_performAll room (.refl present) script (others + 1) #[] jobs
  refine ⟨_, steps, ⟨rfl, rfl, ?_⟩, rfl⟩
  intro station member
  exact List.eq_of_mem_replicate (List.replicate_succ ▸ member)

/-- What is printed when all the frames of a file are done. -/
theorem report_of_finished {frames : List Bytes} {floor : Floor}
    (present : session.host.responder = some responder)
    (sound : floor.Sound workers (jobsOf frames) responder) (finished : floor.Finished) :
    ∃ shown : Snapshot,
      (∀ gauge : Gauge, gauge.read shown = gauge.read responder.metrics.snapshot
        + UInt64.ofNat (responder.addsAll gauge ((jobsOf frames).map Job.entering)))
      ∧ floor.delivered.length = frames.length ∧ (floor.report (jobsOf frames).length).code = 0
      ∧ ∀ lone, (floor.report (jobsOf frames).length).output =
        linesOf session lone frames ++ [metricsLine shown] := by
  rcases sound.of_finished finished with ⟨delivered, held, holds, shows⟩
  have number : floor.delivered.length = frames.length := by
    rw [delivered.length_eq, List.length_map, length_jobsOf]
  have whole : floor.report (jobsOf frames).length =
      floor.session.conclude (.ok floor.delivered) := by
    rw [Floor.report, complete, length_jobsOf, if_pos number]
  rcases conclude_of_perm holds (ordered_result (ordered_jobsOf frames) responder)
    delivered with ⟨code, output⟩
  refine ⟨held.metrics.snapshot, shows, number, whole ▸ code, fun lone => ?_⟩
  rw [whole, output, linesOf_eq (.refl present) lone]

/-! ## Starting the workers -/

theorem startWorkers_eq_ok {worker count : Nat}
    (started : ∀ other, other < worker + count → script.started other = .ok ()) :
    (startWorkers script.machine worker count).run = .ok () := by
  induction count generalizing worker with
  | zero => rfl
  | succ count ih =>
    have first : script.machine.startWorker worker = Except.ok () := started worker (by omega)
    rw [startWorkers, first]
    exact ih fun other within => started other (by omega)

/-- The first worker that is refused ends the starting. -/
theorem startWorkers_eq_error {worker refused count : Nat} {text : String}
    (after : worker ≤ refused) (within : refused < worker + count)
    (earlier : ∀ other, other < refused → script.started other = .ok ())
    (refusal : script.started refused = .error text) :
    (startWorkers script.machine worker count).run = .error (.noWorker text) := by
  induction count generalizing worker with
  | zero => omega
  | succ count ih =>
    rcases Nat.eq_or_lt_of_le after with rfl | before
    · have first : script.machine.startWorker worker = Except.error text := refusal
      rw [startWorkers, first]
      rfl
    · have first : script.machine.startWorker worker = Except.ok () := earlier worker before
      rw [startWorkers, first]
      exact ih before (by omega)

/-- A replay that has room for its queue works as far as its workers are started. -/
theorem work_eq (fits : roomFor workers < UInt64.size)
    (memory : script.hasRoom (roomFor workers) = true) :
    (session.work script.machine workers jobs).run =
      match (startWorkers script.machine 0 workers).run with
      | .error failure => some (session.conclude (.error failure))
      | .ok () =>
        let (results, last) := (session.performAll script.machine workers #[] jobs).run
        some (last.conclude (complete jobs.length results)) := by
  have made : script.machine.makeQueue (roomFor workers) = true := memory
  rw [Session.work, if_neg (Nat.not_le_of_lt fits), made]
  rfl

theorem run_eq_work {words : List String} {arguments : Arguments}
    (parsed : Arguments.parse words = .ok arguments)
    (found : ready arguments script.processId script.files script.now = .ok (jobs, session)) :
    (run script.machine words).run =
      (session.work script.machine arguments.workers jobs).run := by
  rw [run, parsed]
  simp only [Script.machine, Id.run, bind, found]

end Reaching

/-! ## Any order -/

open Responder (Turn)

/-- A responder that handles frames one after another does with each of them what it does with the
frame alone, at any moment and with any log, and frames that come in another order are counted alike.

A replay whose queue has room, and whose workers are all started, comes to one of the floors to which
its workers can get.  However they get on, they can go on until all is done, and will be done some time.
What is printed then is one line for each frame, in the order of the file, with what comes of the frame
alone, and a last line with counters that count the same frames for every way to get there.  If the
machine refuses a worker, the replay prints no line and ends with what the machine says. -/
theorem each_frame_alone_in_any_order :
    (∀ (responder : Responder) (turns : List Turn) (log : Log),
      (∀ (moment : Moment) (lone : Log),
        (transcript Responder.take turns (responder, log)).1 =
          turns.map fun turn => Engine.decision (responder.process moment turn.frame lone))
      ∧ ∀ (others : List Turn) (other : Log), (turns.map Turn.frame).Perm (others.map Turn.frame) →
        CountAlike (transcript Responder.take turns (responder, log)).2.1.metrics.snapshot
          (transcript Responder.take others (responder, other)).2.1.metrics.snapshot)
    ∧ ∀ (script : Script) (words : List String) (arguments : Arguments) (jobs : List Job)
        (session : Session),
      Arguments.parse words = .ok arguments →
      ready arguments script.processId script.files script.now = .ok (jobs, session) →
      roomFor arguments.workers < UInt64.size →
      script.hasRoom (roomFor arguments.workers) = true →
        ((∀ worker < arguments.workers, script.started worker = .ok ()) →
          (∃ floor, Reached arguments.workers jobs session floor ∧ floor.Finished
            ∧ (run script.machine words).run = some (floor.report jobs.length))
          ∧ ∃ (frames : List Bytes) (counted : Snapshot),
            HoldsFrames script.files arguments.frames frames
            ∧ ∀ floor, Reached arguments.workers jobs session floor →
              (floor.Finished ∨ ∃ next, Floor.Step (roomFor arguments.workers) floor next)
              ∧ (∀ next, Floor.Step (roomFor arguments.workers) floor next → next.work < floor.work)
              ∧ (floor.Finished → ∃ shown, CountAlike shown counted
                ∧ floor.delivered.length = frames.length ∧ (floor.report jobs.length).code = 0
                ∧ ∀ lone, (floor.report jobs.length).output =
                  linesOf session lone frames ++ [metricsLine shown]))
        ∧ ∀ worker text, worker < arguments.workers → script.started worker = .error text →
          (∀ earlier < worker, script.started earlier = .ok ()) →
            ∃ lines, (run script.machine words).run =
              some ⟨1, [], lines ++ ["Error: " ++ text]⟩ := by
  constructor
  · intro responder turns log
    constructor
    · intro moment lone
      exact responder.decisions_transcript log turns
    · intro others other same
      apply countAlike_of_reads
      intro gauge
      rw [Responder.read_transcript, Responder.read_transcript, responder.addsAll_of_perm gauge same]
  · intro script words arguments jobs session parsed found fits memory
    rw [run_eq_work parsed found, work_eq fits memory]
    constructor
    · intro started
      rcases ready_yields found with ⟨⟨frames, given, rfl⟩, serving⟩
      rcases Option.isSome_iff_exists.mp serving with ⟨responder, present⟩
      have crew := workers_of_parse parsed
      have start : (Floor.start arguments.workers (jobsOf frames) session).Sound arguments.workers
          (jobsOf frames) responder := Floor.sound_start present
      rcases reached_performAll crew present script with ⟨last, reached, finished, performed⟩
      rcases report_of_finished present (start.steps reached) finished with ⟨all, counts, -⟩
      refine ⟨⟨last, reached, finished, ?_⟩, frames, all, given, ?_⟩
      · rw [startWorkers_eq_ok fun other within => started other (by omega)]
        dsimp only
        rw [performed]
        rfl
      · intro floor steps
        have sound := start.steps steps
        refine ⟨sound.finished_or_step crew (Nat.mul_pos (by decide) crew),
          fun next step => step.work_lt, fun finished => ?_⟩
        rcases report_of_finished present sound finished with ⟨shown, shows, printed⟩
        have alike : CountAlike shown all :=
          countAlike_of_reads fun gauge => (shows gauge).trans (counts gauge).symm
        exact ⟨shown, alike, printed⟩
    · intro worker text within refusal earlier
      rw [startWorkers_eq_error (Nat.zero_le worker) (by omega) earlier refusal]
      exact ⟨_, rfl⟩

namespace Specimen

/-- Two files: one record, and two frames that are too short for anything. -/
def files (path : String) : Except ReadError Bytes :=
  .ok <| Text.Utf8.encode <|
    if path = "records" then "a 300 IN A 1.2.3.4".toList else "0001\n02".toList

/-- A machine with these files that starts these workers. -/
def script (started : Nat → Except String Unit) : Script where
  processId := "1"
  now := 0
  files := files
  started := started
  times _ := (0, 0)

/-- The system has threads for one worker. -/
def scarce : Nat → Except String Unit
  | 0 => .ok ()
  | _ => .error "Resource temporarily unavailable (os error 11)"

def words (workers : String) : List String :=
  ["--records", "records", "--frames", "frames", "--serve", "192.0.2.0/24", "--workers", workers]

def arguments : Arguments :=
  ⟨"records", "frames", ["192.0.2.0/24"], 2, false, false, false, false, false⟩

theorem holdsFrames_files : HoldsFrames files "frames" [[0, 1], [2]] :=
  ⟨_, "0001\n02", rfl, by decide +kernel, by decide +kernel⟩

theorem frames_eq {frames : List Bytes} (holds : HoldsFrames files "frames" frames) :
    frames = [[0, 1], [2]] := by
  rcases holds with ⟨octets, text, given, decoded, parsed⟩
  rcases holdsFrames_files with ⟨others, other, same, alike, frames⟩
  cases given.symm.trans same
  cases decoded.symm.trans alike
  exact Except.ok.inj (parsed.symm.trans frames)

/-- Not every number of workers has a line printed for each frame: none at all is refused as such, and
of two the machine may start one only. -/
theorem no_line_without_workers :
    HoldsFrames files "frames" [[0, 1], [2]]
    ∧ (run (script fun _ => .ok ()).machine (words "0")).run =
      some ⟨1, [], ["Error: --workers must be at least 1"]⟩
    ∧ (run (script scarce).machine (words "2")).run.map Report.output = some [] := by
  refine ⟨holdsFrames_files, by decide +kernel, by decide +kernel⟩

open Engine.Specimen in
/-- A request that is answered, at one moment. -/
def request : Turn :=
  ⟨⟨0, 0, 0⟩, ⟨[], parts.octets, List.replicate 16 0⟩⟩

/-- Octets that are no request, at another moment. -/
def short : Turn :=
  ⟨⟨5, 6, 7⟩, ⟨[], [1, 2], []⟩⟩

open Engine.Specimen in
/-- What a responder has counted that has handled these frames. -/
def countedBy (turns : List Turn) (log : Log) : Snapshot :=
  (transcript Responder.take turns (responder, log)).2.1.metrics.snapshot

/-- Two workers bring a replay of these files to an end, and then both frames are reported in their
order.  If the second one is not started, that is all there is to report.  And the request and the short
frame are counted the same in either order. -/
theorem specimens_in_any_order :
    (∃ jobs session floor shown, ready arguments "1" files 0 = .ok (jobs, session)
      ∧ Reached 2 jobs session floor ∧ floor.Finished
      ∧ (floor.report jobs.length).output = ["0 pass 2 0001", "1 pass 1 02", metricsLine shown])
    ∧ (∃ lines, (run (script scarce).machine (words "2")).run =
      some ⟨1, [], lines ++ ["Error: Resource temporarily unavailable (os error 11)"]⟩)
    ∧ ([request, short].map Turn.frame).Perm ([short, request].map Turn.frame)
    ∧ CountAlike (countedBy [request, short] { processId := "1" })
        (countedBy [short, request] { processId := "2" }) := by
  rcases each_frame_alone_in_any_order with ⟨turns, replays⟩
  have parsed : Arguments.parse (words "2") = .ok arguments := by
    decide +kernel
  have lines : ((ready arguments "1" files 0).toOption.map fun found =>
      linesOf found.2 ⟨0, 0, 0⟩ [[0, 1], [2]]) = some ["0 pass 2 0001", "1 pass 1 02"] := by
    decide +kernel
  rcases found : ready arguments "1" files 0 with report | ⟨jobs, session⟩
  · rw [found] at lines
    cases lines
  · rw [found] at lines
    refine ⟨?_, ?_, ?_⟩
    · rcases Option.isSome_iff_exists.mp (ready_yields found).2 with ⟨responder, present⟩
      have sound : (Floor.start 2 jobs session).Sound 2 jobs responder := Floor.sound_start present
      have room : 0 < roomFor 2 := by decide
      rcases sound.exists_finished Nat.two_pos room with ⟨floor, steps, finished⟩
      rcases (replays (script fun _ => .ok ()) (words "2") arguments jobs session parsed found
        (by decide) rfl).1 (fun _ _ => rfl) with ⟨-, frames, _, holds, floors⟩
      rcases (floors floor steps).2.2 finished with ⟨shown, -, -, -, output⟩
      refine ⟨jobs, session, floor, shown, rfl, steps, finished, ?_⟩
      have both : linesOf session ⟨0, 0, 0⟩ [[0, 1], [2]] = ["0 pass 2 0001", "1 pass 1 02"] :=
        Option.some.inj lines
      rw [output ⟨0, 0, 0⟩, frames_eq holds, both]
      rfl
    · refine (replays (script scarce) (words "2") arguments jobs session parsed found
        (by decide) rfl).2 1 _ (by decide) rfl ?_
      intro earlier before
      obtain rfl : earlier = 0 := Nat.lt_one_iff.mp before
      rfl
    · have swapped : ([request, short].map Turn.frame).Perm ([short, request].map Turn.frame) :=
        List.Perm.swap ..
      exact ⟨swapped, (turns _ _ _).2 _ _ swapped⟩

end Specimen

end Replay
end DnsResponder
