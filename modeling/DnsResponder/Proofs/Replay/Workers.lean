import DnsResponder.Proofs.Replay.Jobs
import DnsResponder.Proofs.Replay.Preparation

namespace DnsResponder
namespace Replay

/-!
# Workers that share the frames

The jobs of a replay go through a bounded queue to workers, and the results come back in whatever
order they are ready.  A `Floor` is the state of all this, and a `Step` is what one of its parts does
next: a job is sent or taken, a frame is decided on, a shared counter is changed, a result is
delivered.  Which part is next is left open, and so is the moment of every decision, so runs of the
floor are all ways in which the workers can get on.  Counters are changed one at a time, between the
changes of others.

What is left of a run is the same in all of them.  The results on the floor and those of the jobs that
are still to be done are always the results of all jobs; and what a gauge shows, together with what is
still due to it, always comes to the same sum.  Every step leaves less to do, and as long as there is
something to do there is a step, so every run ends.
-/

/-! ## The floor -/

/-- What a worker is at. -/
inductive Station
  | idle
  | busy (job : Job)
  /-- There is a result, and some increments are still to be made. -/
  | counting (result : Result) (pending : List Increment)

namespace Station

def jobs : Station → List Job
  | .busy job => [job]
  | _ => []

def results : Station → List Result
  | .counting result _ => [result]
  | _ => []

def pending : Station → List Increment
  | .counting _ pending => pending
  | _ => []

/-- How many steps a station can still take. -/
def work : Station → Nat
  | .idle => 0
  | .busy _ => 5
  | .counting _ pending => pending.length + 1

end Station

/-- A replay under way. -/
structure Floor where
  unsent : List Job
  queue : List Job := []
  stations : List Station
  delivered : List Result := []
  session : Session

namespace Floor

open scoped List

def start (workers : Nat) (jobs : List Job) (session : Session) : Floor :=
  { unsent := jobs, stations := List.replicate workers .idle, session }

/-- Jobs that no frame was decided on for. -/
def outstanding (floor : Floor) : List Job :=
  floor.unsent ++ floor.queue ++ floor.stations.flatMap Station.jobs

/-- Results that there are, delivered or not. -/
def results (floor : Floor) : List Result :=
  floor.delivered ++ floor.stations.flatMap Station.results

/-- Increments that are still to be made for frames that were decided on. -/
def pending (floor : Floor) : List Increment :=
  floor.stations.flatMap Station.pending

def work (floor : Floor) : Nat :=
  7 * floor.unsent.length + 6 * floor.queue.length + (floor.stations.map Station.work).sum

/-- Every job has been sent, and every worker is done. -/
structure Finished (floor : Floor) : Prop where
  unsent : floor.unsent = []
  queue : floor.queue = []
  stations : ∀ station ∈ floor.stations, station = .idle

/-- What happens next on the floor, where the queue has room for so many jobs. -/
inductive Step (room : Nat) (floor : Floor) : Floor → Prop
  | send {job : Job} {rest : List Job} (next : floor.unsent = job :: rest)
      (fits : floor.queue.length < room) :
      Step room floor { floor with unsent := rest, queue := floor.queue ++ [job] }
  | take {job : Job} {rest : List Job} {front back : List Station}
      (next : floor.queue = job :: rest) (free : floor.stations = front ++ .idle :: back) :
      Step room floor
        { floor with queue := rest, stations := front ++ .busy job :: back }
  | decide (moment : Moment) {job : Job} {front back : List Station}
      (held : floor.stations = front ++ .busy job :: back) :
      Step room floor
        { floor with
          stations := front ++ .counting (floor.session.perform moment job).1
            (floor.session.increments moment job) :: back
          session := floor.session.decide moment job }
  | count {result : Result} {increment : Increment} {rest : List Increment}
      {front back : List Station}
      (held : floor.stations = front ++ .counting result (increment :: rest) :: back) :
      Step room floor
        { floor with
          stations := front ++ .counting result rest :: back
          session := floor.session.count increment }
  | deliver {result : Result} {front back : List Station}
      (held : floor.stations = front ++ .counting result [] :: back) :
      Step room floor
        { floor with
          stations := front ++ .idle :: back
          delivered := floor.delivered ++ [result] }

/-! ## What stays the same -/

variable {workers room : Nat} {jobs : List Job} {responder : Responder} {floor next : Floor}

/-- What is still to be added to a gauge. -/
def due (responder : Responder) (gauge : Gauge) (floor : Floor) : Nat :=
  (floor.pending.map gauge.weight).sum
    + responder.addsAll gauge (floor.outstanding.map Job.entering)

/-- The floor of a replay of these jobs.  No result is lost or made twice, and what is shown and what
is due come to what all jobs add. -/
structure Sound (workers : Nat) (jobs : List Job) (responder : Responder) (floor : Floor) :
    Prop where
  crew : floor.stations.length = workers
  settled : (floor.results ++ floor.outstanding.map (·.result responder)).Perm
    (jobs.map (·.result responder))
  counted : ∃ held, floor.session.Holds held responder ∧ ∀ gauge : Gauge,
    gauge.read held.metrics.snapshot + UInt64.ofNat (floor.due responder gauge) =
      gauge.read responder.metrics.snapshot
        + UInt64.ofNat (responder.addsAll gauge (jobs.map Job.entering))

/-- Idle workers have nothing. -/
theorem flatMap_idle {α : Type} {stations : List Station} {read : Station → List α}
    (idle : ∀ station ∈ stations, station = .idle) (nothing : read .idle = []) :
    stations.flatMap read = [] := by
  rw [List.flatMap_eq_nil_iff]
  intro station member
  rw [idle station member, nothing]

theorem sound_start {session : Session} (present : session.host.responder = some responder) :
    (start workers jobs session).Sound workers jobs responder := by
  have idle : ∀ station ∈ List.replicate workers Station.idle, station = .idle :=
    fun _ => List.eq_of_mem_replicate
  have outstanding : (start workers jobs session).outstanding = jobs := by
    rw [Floor.outstanding, start, flatMap_idle idle rfl, List.append_nil, List.append_nil]
  have results : (start workers jobs session).results = [] := by
    rw [Floor.results, start, flatMap_idle idle rfl, List.append_nil]
  have pending : (start workers jobs session).pending = [] := flatMap_idle idle rfl
  refine ⟨List.length_replicate, ?_, responder, .refl present, fun gauge => ?_⟩
  · rw [outstanding, results, List.nil_append]
  · rw [due, outstanding, pending, List.map_nil, List.sum_nil, Nat.zero_add]

/-- Moving jobs and results about changes nothing. -/
theorem Sound.rearrange (sound : floor.Sound workers jobs responder)
    (crew : next.stations.length = floor.stations.length)
    (results : next.results.Perm floor.results)
    (outstanding : next.outstanding.Perm floor.outstanding)
    (pending : next.pending = floor.pending) (session : next.session = floor.session) :
    next.Sound workers jobs responder where
  crew := crew.trans sound.crew
  settled := (results.append (outstanding.map _)).trans sound.settled
  counted := by
    have due (gauge : Gauge) : next.due responder gauge = floor.due responder gauge := by
      rw [Floor.due, Floor.due, pending, responder.addsAll_of_perm gauge (outstanding.map _)]
    rw [session]
    simp only [due]
    exact sound.counted

/-- A job that is decided on becomes a result, and what it adds becomes increments. -/
theorem Sound.decide (sound : floor.Sound workers jobs responder) {moment : Moment} {job : Job}
    (crew : next.stations.length = floor.stations.length)
    (results : next.results.Perm ((floor.session.perform moment job).1 :: floor.results))
    (outstanding : floor.outstanding.Perm (job :: next.outstanding))
    (pending : next.pending.Perm (floor.session.increments moment job ++ floor.pending))
    (session : next.session = floor.session.decide moment job) :
    next.Sound workers jobs responder := by
  rcases sound.counted with ⟨shown, holds, counted⟩
  refine ⟨crew.trans sound.crew, ?_, _, session ▸ holds.decide moment job, fun gauge => ?_⟩
  · rw [holds.perform] at results
    calc
      next.results ++ next.outstanding.map (·.result responder)
      _ ~ job.result responder :: floor.results ++ next.outstanding.map (·.result responder) :=
        results.append_right _
      _ ~ floor.results ++ (job :: next.outstanding).map (·.result responder) :=
        List.perm_middle.symm
      _ ~ floor.results ++ floor.outstanding.map (·.result responder) :=
        (outstanding.symm.map _).append_left _
      _ ~ jobs.map (·.result responder) := sound.settled
  · have adds := gauge.sum_weight responder.settings moment (responder.alone job.entering)
    rw [← holds.increments_eq] at adds
    have due : next.due responder gauge = floor.due responder gauge := by
      rw [Floor.due, Floor.due, (pending.map _).sum_eq, List.map_append, List.sum_append, adds,
        responder.addsAll_of_perm gauge (outstanding.map _), List.map_cons, Responder.addsAll,
        Responder.addsAll, List.map_cons, List.sum_cons]
      omega
    rw [due]
    exact counted gauge

/-- An increment that is made is shown and no longer due. -/
theorem Sound.count (sound : floor.Sound workers jobs responder) {increment : Increment}
    (crew : next.stations.length = floor.stations.length)
    (results : next.results = floor.results) (outstanding : next.outstanding = floor.outstanding)
    (pending : floor.pending.Perm (increment :: next.pending))
    (session : next.session = floor.session.count increment) :
    next.Sound workers jobs responder := by
  rcases sound.counted with ⟨shown, holds, counted⟩
  refine ⟨crew.trans sound.crew, ?_, _, session ▸ holds.count increment, fun gauge => ?_⟩
  · rw [results, outstanding]
    exact sound.settled
  · rw [← counted gauge, gauge.read_apply, Floor.due, Floor.due, (pending.map _).sum_eq,
      List.map_cons, List.sum_cons, outstanding, UInt64.add_assoc, ← UInt64.ofNat_add,
      Nat.add_assoc]

theorem flatMap_stations {α : Type} (read : Station → List α) (front back : List Station)
    (station : Station) : (front ++ station :: back).flatMap read =
      front.flatMap read ++ (read station ++ back.flatMap read) := by
  rw [List.flatMap_append, List.flatMap_cons]

/-- One value more in the middle. -/
theorem perm_among {α : Type} (value : α) (first front back : List α) :
    (first ++ (front ++ ([value] ++ back))).Perm (value :: (first ++ (front ++ back))) := by
  rw [← List.append_assoc, ← List.append_assoc first]
  exact List.perm_middle

theorem length_stations (front back : List Station) (before after : Station) :
    (front ++ after :: back).length = (front ++ before :: back).length := by
  rw [List.length_append, List.length_append, List.length_cons, List.length_cons]

/-- Every step keeps the floor sound. -/
theorem Sound.step (sound : floor.Sound workers jobs responder) (step : Step room floor next) :
    next.Sound workers jobs responder := by
  cases step with
  | @send job rest first fits =>
    refine sound.rearrange rfl .rfl ?_ rfl rfl
    rw [outstanding, outstanding, first, ← List.append_assoc]
    exact (List.perm_append_singleton ..).append_right _
  | @take job rest front back first free =>
    refine sound.rearrange ?_ ?_ ?_ ?_ rfl
    · rw [free, length_stations]
    · rw [results, results, free, flatMap_stations, flatMap_stations]
      exact .rfl
    · rw [outstanding, outstanding, first, free, flatMap_stations, flatMap_stations]
      exact (perm_among ..).trans (List.perm_middle.append_right _).symm
    · rw [pending, pending, free, flatMap_stations, flatMap_stations]
      rfl
  | @decide moment job front back held =>
    refine sound.decide ?_ ?_ ?_ ?_ rfl
    · rw [held, length_stations]
    · rw [results, results, held, flatMap_stations, flatMap_stations]
      exact perm_among ..
    · rw [outstanding, outstanding, held, flatMap_stations, flatMap_stations]
      exact perm_among ..
    · rw [pending, pending, held, flatMap_stations, flatMap_stations]
      exact List.perm_append_comm_assoc ..
  | @count result increment rest front back held =>
    refine sound.count ?_ ?_ ?_ ?_ rfl
    · rw [held, length_stations]
    · rw [results, results, held, flatMap_stations, flatMap_stations]
      rfl
    · rw [outstanding, outstanding, held, flatMap_stations, flatMap_stations]
      rfl
    · rw [pending, pending, held, flatMap_stations, flatMap_stations]
      exact List.perm_middle
  | @deliver result front back held =>
    refine sound.rearrange ?_ ?_ ?_ ?_ rfl
    · rw [held, length_stations]
    · rw [results, results, held, flatMap_stations, flatMap_stations]
      exact ((List.perm_append_singleton ..).append_right _).trans (perm_among ..).symm
    · rw [outstanding, outstanding, held, flatMap_stations, flatMap_stations]
      exact .rfl
    · rw [pending, pending, held, flatMap_stations, flatMap_stations]
      rfl

theorem Sound.steps (sound : floor.Sound workers jobs responder)
    (steps : Relation.ReflTransGen (Step room) floor next) : next.Sound workers jobs responder := by
  induction steps with
  | refl => exact sound
  | tail _ last ih => exact ih.step last

/-- When everything is done, all results are delivered, and the counters show what all jobs add. -/
theorem Sound.of_finished (sound : floor.Sound workers jobs responder) (finished : floor.Finished) :
    floor.delivered.Perm (jobs.map (·.result responder))
      ∧ ∃ held, floor.session.Holds held responder ∧ ∀ gauge : Gauge,
        gauge.read held.metrics.snapshot = gauge.read responder.metrics.snapshot
          + UInt64.ofNat (responder.addsAll gauge (jobs.map Job.entering)) := by
  have outstanding : floor.outstanding = [] := by
    rw [Floor.outstanding, finished.unsent, finished.queue, flatMap_idle finished.stations rfl]
    rfl
  have pending : floor.pending = [] := flatMap_idle finished.stations rfl
  have results : floor.results = floor.delivered := by
    rw [Floor.results, flatMap_idle finished.stations rfl, List.append_nil]
  rcases sound with ⟨-, settled, held, holds, counted⟩
  rw [outstanding, results, List.map_nil, List.append_nil] at settled
  refine ⟨settled, held, holds, fun gauge => ?_⟩
  have nothing : floor.due responder gauge = 0 := by
    rw [due, outstanding, pending]
    rfl
  rw [← counted gauge, nothing]
  exact (UInt64.add_zero _).symm

/-! ## Every run ends -/

theorem length_increments_le (session : Session) (moment : Moment) (job : Job) :
    (session.increments moment job).length ≤ 3 := by
  rw [Session.increments]
  split
  · exact Nat.zero_le 3
  · exact Engine.length_increments_le ..

theorem sum_work (front back : List Station) (station : Station) :
    ((front ++ station :: back).map Station.work).sum =
      (front.map Station.work).sum + (station.work + (back.map Station.work).sum) := by
  rw [List.map_append, List.sum_append, List.map_cons, List.sum_cons]

/-- Every step leaves less to do. -/
theorem Step.work_lt (step : Step room floor next) : next.work < floor.work := by
  cases step with
  | send first fits =>
    simp only [work, first, List.length_append, List.length_cons, List.length_nil]
    omega
  | take first free =>
    simp only [work, first, free, sum_work, Station.work, List.length_cons]
    omega
  | @decide moment job front back held =>
    have few := length_increments_le floor.session moment job
    simp only [work, held, sum_work, Station.work]
    omega
  | count held =>
    simp only [work, held, sum_work, Station.work, List.length_cons]
    omega
  | deliver held =>
    simp only [work, held, sum_work, Station.work, List.length_nil]
    omega

/-- While there is something to do, there is a step. -/
theorem Sound.finished_or_step (sound : floor.Sound workers jobs responder) (crew : 0 < workers)
    (some : 0 < room) : floor.Finished ∨ ∃ next, Step room floor next := by
  by_cases idle : ∀ station ∈ floor.stations, station = .idle
  · cases queue : floor.queue with
    | cons job rest =>
      have staffed : 0 < floor.stations.length := sound.crew ▸ crew
      cases stations : floor.stations with
      | nil =>
        rw [stations] at staffed
        cases staffed
      | cons station others =>
        rcases idle station (stations ▸ List.mem_cons_self) with rfl
        have free : floor.stations = [] ++ .idle :: others := stations
        exact .inr ⟨_, .take queue free⟩
    | nil =>
      cases unsent : floor.unsent with
      | nil => exact .inl ⟨unsent, queue, idle⟩
      | cons job rest =>
        have fits : floor.queue.length < room := by
          rw [queue]
          exact some
        exact .inr ⟨_, .send unsent fits⟩
  · rcases not_forall.mp idle with ⟨station, other⟩
    rcases Classical.not_imp.mp other with ⟨member, active⟩
    rcases List.append_of_mem member with ⟨front, back, held⟩
    cases station with
    | idle => exact absurd rfl active
    | busy job => exact .inr ⟨_, .decide ⟨0, 0, 0⟩ held⟩
    | counting result pending =>
      cases pending with
      | nil => exact .inr ⟨_, .deliver held⟩
      | cons increment rest => exact .inr ⟨_, .count held⟩

/-- Every run can be brought to an end. -/
theorem Sound.exists_finished (sound : floor.Sound workers jobs responder) (crew : 0 < workers)
    (some : 0 < room) : ∃ last, Relation.ReflTransGen (Step room) floor last ∧ last.Finished := by
  induction measure : floor.work using Nat.strong_induction_on generalizing floor with
  | _ amount ih =>
    rcases sound.finished_or_step crew some with finished | ⟨next, step⟩
    · exact ⟨floor, .refl, finished⟩
    · rcases ih next.work (measure ▸ step.work_lt) (sound.step step) rfl with
        ⟨last, steps, finished⟩
      exact ⟨last, .head step steps, finished⟩

/-! ## One worker does everything -/

variable {rest : List Job} {back : List Station} {delivered : List Result} {session : Session}
  {held : Responder}

theorem steps_counting (result : Result) (pending : List Increment) (session : Session) :
    Relation.ReflTransGen (Step room)
      ⟨rest, [], .counting result pending :: back, delivered, session⟩
      ⟨rest, [], .counting result [] :: back, delivered, pending.foldl Session.count session⟩ := by
  induction pending generalizing session with
  | nil => exact .refl
  | cons increment others ih =>
    exact .head (@Step.count room _ result increment others [] back rfl) (ih _)

/-- A job that one worker takes and sees to the end comes to what doing it at once comes to. -/
theorem steps_perform (some : 0 < room) (holds : session.Holds held responder) (moment : Moment)
    (job : Job) :
    Relation.ReflTransGen (Step room)
      ⟨job :: rest, [], .idle :: back, delivered, session⟩
      ⟨rest, [], .idle :: back, delivered ++ [(session.perform moment job).1],
        (session.perform moment job).2⟩ := by
  have done : (session.perform moment job).2 =
      (session.increments moment job).foldl Session.count (session.decide moment job) := by
    rw [holds.perform_eq]
  rw [done]
  apply Relation.ReflTransGen.head (Step.send rfl some)
  apply Relation.ReflTransGen.head (@Step.take room _ job [] [] back rfl rfl)
  apply Relation.ReflTransGen.head (@Step.decide room _ moment job [] back rfl)
  apply Relation.ReflTransGen.tail (steps_counting _ _ _)
  exact @Step.deliver room _ (session.perform moment job).1 [] back rfl

/-- Doing all jobs one after another is one way for the workers to get on. -/
theorem steps_performAll (some : 0 < room) (holds : session.Holds held responder)
    (script : Script) (workers : Nat) (done : Array Result) (jobs : List Job) :
    Relation.ReflTransGen (Step room)
      ⟨jobs, [], .idle :: back, done.toList, session⟩
      ⟨[], [], .idle :: back, (session.performAll script.machine workers done jobs).run.1,
        (session.performAll script.machine workers done jobs).run.2⟩ := by
  induction jobs generalizing session held done with
  | nil => exact .refl
  | cons job rest ih =>
    let turn := script.moment workers job
    have next := ih (holds.snd_perform turn job) (done.push (session.perform turn job).1)
    rw [Array.toList_push] at next
    exact (steps_perform some holds turn job).trans next

end Floor
end Replay
end DnsResponder
