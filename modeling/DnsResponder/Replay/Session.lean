import DnsResponder.Host
import DnsResponder.Replay.RecordFile

namespace DnsResponder
namespace Replay

/-!
# Replaying a file of frames

A replay serves networks, loads records from a file, and hands every frame of a second file to a
responder, each in a window with room for an answer behind it.  Frames are shared out to workers,
which may finish in any order; results are printed in the order of the file.

A session is the responder's host with the lines written to standard error so far.  A step that fails
keeps what was written before it.
-/

/-- Room behind each frame for the answer. -/
def spareOctets : Nat := 256

/-- A host, and the lines it has written to standard error. -/
structure Session where
  host : Host
  errorLines : List String := []

/-- A part of a replay that may fail. -/
abbrev Step := EStateM Failure Session

/-- One frame with its place in the file. -/
structure Job where
  position : Nat
  frame : Bytes
deriving DecidableEq

/-- What became of one frame. -/
structure Result where
  position : Nat
  status : Host.FrameStatus
  octets : Bytes
deriving DecidableEq

/-- What a finished program leaves: its exit code and its two outputs. -/
structure Report where
  code : Nat
  output : List String
  errors : List String
deriving DecidableEq

/-! ## Lines -/

def entryLine (entry : Entry) : String :=
  "[fastpath][" ++ entry.level.name ++ "] " ++ entry.message

def Result.line (result : Result) : String :=
  let word :=
    match result.status with
    | .decided .pass => "pass"
    | .decided .transmit => "transmit"
    | _ => "invalid"
  s!"{result.position} " ++ word ++ s!" {result.octets.length} " ++ Text.Hex.encode result.octets

def metricsLine (snapshot : Snapshot) : String :=
  s!"metrics received={snapshot.received.toNat} transmitted={snapshot.transmitted.toNat} "
    ++ s!"passed={snapshot.passed.toNat} errored={snapshot.errored.toNat} "
    ++ s!"min_ns={snapshot.timeMin.toNat} max_ns={snapshot.timeMax.toNat} "
    ++ s!"mean_ns={(snapshot.mean?.getD 0).toNat}"

/-! ## Life of a session -/

def settingsOf (arguments : Arguments) : FlatSettings :=
  { FlatSettings.default with
    responseFlags := if arguments.authoritative then 1 else 0
    randomTtl := arguments.randomTtl
    dryRun := arguments.dryRun
    ednsEcho := arguments.edns }

def Session.start (arguments : Arguments) (processId : String) : Session :=
  let topics : UInt32 := if arguments.verbose then 0xFFFFFFFF else 0
  let level := if arguments.verbose then "debug" else "warn"
  let (_, host) := Host.setSink { log := { processId } } (some ⟨true, topics⟩)
    (some (Text.Utf8.encode level.toList))
  { host := (host.setTopics topics).create (some (settingsOf arguments)) }

def Session.flush (session : Session) : Session :=
  let (entries, log) := session.host.log.drain
  { host := { session.host with log }
    errorLines := session.errorLines ++ entries.map entryLine }

/-- Print a line to standard error, after what the log has received. -/
def Session.announce (session : Session) (line : String) : Session :=
  let session := session.flush
  { session with errorLines := session.errorLines ++ [line] }

/-! ## Preparing -/

def attempt {α : Type} (result : Except Failure α) : Step α := fun session =>
  match result with
  | .ok value => .ok value session
  | .error failure => .error failure session

def call (make : Host → Bool × Host) (failure : Failure) : Step Unit := fun session =>
  let (succeeded, host) := make session.host
  let session := { session with host }
  if succeeded then .ok () session else .error failure session

def serve (now : Nat) (network : String) : Step Unit := do
  attempt (requireNoZero network.toList)
  call (·.serve now (some (Text.Utf8.encode network.toList))) (.badNetwork network)

def store (now number : Nat) (record : RecordLine) : Step Unit :=
  let name := some (Text.Utf8.encode record.name.toList)
  let failure := Failure.badLine number (.rejected record.name)
  match record.address with
  | .v4 value => call (·.insertA now name (some value) record.ttl) failure
  | .v6 value => call (·.insertAaaa now name (some value) record.ttl) failure

def loadRecords (now : Nat) (text : List Char) : Step Nat :=
  (numberedLines text).foldlM
    (fun loaded (number, line) => do
      match ← attempt (parseRecord? number line) with
      | none => return loaded
      | some record =>
        store now number record
        return loaded + 1)
    0

def readText (files : String → Except ReadError Bytes) (path : String) : Step (List Char) :=
  attempt <|
    match files path with
    | .error cause => .error (.unreadable path cause)
    | .ok octets =>
      match Text.Utf8.decode? octets with
      | some text => .ok text.toList
      | none => .error (.unreadable path .notText)

/-- Serve the networks, load the records, and read the frames. -/
def prepare (arguments : Arguments) (files : String → Except ReadError Bytes) (now : Nat) :
    Step (List Job) := do
  arguments.serve.forM (serve now)
  let loaded ← loadRecords now (← readText files arguments.records)
  modify (·.announce
    s!"[standalone] loaded {loaded} records, serving {arguments.serve.length} prefixes")
  let frames ← attempt (parseFrames (← readText files arguments.frames))
  return frames.zipIdx.map fun (frame, position) => ⟨position, frame⟩

/-! ## Frames -/

/-- The call that hands over the frame of a job, in a window with room for an answer. -/
def Job.call (job : Job) : Host.FrameCall :=
  let window := job.frame ++ List.replicate spareOctets 0
  { window := some window, capacity := window.length, head := some 0, size := some job.frame.length }

/-- Account for a job whose frame was decided on. -/
def Session.account (session : Session) (moment : Moment) (job : Job) (verdict : Host.Verdict) :
    Result × Session :=
  let (status, call, host) := session.host.account moment job.call verdict
  let octets := ((call.window.getD []).drop (call.head.getD 0)).take (call.size.getD 0)
  (⟨job.position, status, octets⟩, { session with host })

def Session.perform (session : Session) (moment : Moment) (job : Job) : Result × Session :=
  session.account moment job (session.host.verdict job.call)

def inFileOrder (results : List Result) : List Result :=
  results.mergeSort fun first second => first.position ≤ second.position

/-- The results, if there is one for each of the frames. -/
def complete (total : Nat) (results : List Result) : Except Failure (List Result) :=
  if results.length = total then .ok results else .error (.incomplete results.length total)

/-- The report of a session that came to its end or failed. -/
def Session.conclude (session : Session) (outcome : Except Failure (List Result)) : Report :=
  let metrics := (session.host.metrics?.map metricsLine).toList
  let session := { session with host := session.host.free }.flush
  match outcome with
  | .ok results => ⟨0, (inFileOrder results).map Result.line ++ metrics, session.errorLines⟩
  | .error failure => ⟨1, [], session.errorLines ++ failure.report⟩

/-! ## Workers -/

/-- What a replay asks of the machine that it runs on. -/
structure Machine (m : Type → Type) where
  /-- The number of this process. -/
  processId : m String
  /-- The clock in milliseconds. -/
  now : m Nat
  /-- The files that the arguments name. -/
  load : Arguments → m (String → Except ReadError Bytes)
  /-- Make the queue of jobs, if there is memory for so many. -/
  makeQueue : (room : Nat) → m Bool
  /-- Start the worker of this number, or say why not. -/
  startWorker : (worker : Nat) → m (Except String Unit)
  /-- Decide on the frame at this place of the file, and tell when that was, in milliseconds, and how
  long it took, in nanoseconds. -/
  measure : (position : Nat) → (Unit → Host.Verdict) → m (Host.Verdict × Nat × Nat)

section Working

variable {m : Type → Type} [Monad m] (machine : Machine m)

/-- Room for jobs in the queue to so many workers. -/
def roomFor (workers : Nat) : Nat :=
  4 * workers

/-- Start so many workers from this number on.  The first one that is refused ends this. -/
@[specialize]
def startWorkers (worker : Nat) : (count : Nat) → m (Except Failure Unit)
  | 0 => return .ok ()
  | count + 1 => do
    match ← machine.startWorker worker with
    | .ok () => startWorkers (worker + 1) count
    | .error text => return .error (.noWorker text)

/-- Hand all frames to the responder, one after another in the order of the jobs, which the workers
share. -/
@[specialize]
def Session.performAll (workers : Nat) (session : Session) (done : Array Result) :
    List Job → m (List Result × Session)
  | [] => return (done.toList, session)
  | job :: rest => do
    let (verdict, now, elapsed) ←
      machine.measure job.position fun _ => session.host.verdict job.call
    let (result, session) :=
      session.account { now, elapsed, worker := job.position % workers } job verdict
    session.performAll workers (done.push result) rest

/-- Make the queue, start the workers, and do the jobs.  The room in the queue has to be a machine
word, and there has to be memory for it; otherwise the replay is broken off, without a report. -/
def Session.work (session : Session) (workers : Nat) (jobs : List Job) : m (Option Report) := do
  if UInt64.size ≤ roomFor workers then
    return none
  else if ← machine.makeQueue (roomFor workers) then
    match ← startWorkers machine 0 workers with
    | .error failure => return some (session.conclude (.error failure))
    | .ok () =>
      let (results, session) ← session.performAll machine workers #[] jobs
      return some (session.conclude (complete jobs.length results))
  else
    return none

end Working

/-! ## Whole replays -/

def Report.ofUsage (wrong : UsageError) : Report :=
  ⟨1, [], (Failure.usage wrong).report⟩

/-- Start a session and prepare it.  A failure ends the session, which leaves its report. -/
def ready (arguments : Arguments) (processId : String)
    (files : String → Except ReadError Bytes) (now : Nat) : Except Report (List Job × Session) :=
  match (prepare arguments files now).run (Session.start arguments processId) with
  | .error failure session => .error (session.conclude (.error failure))
  | .ok jobs session => .ok (jobs, session)

/-- Run a replay on a machine, by the arguments of a command line. -/
def run {m : Type → Type} [Monad m] (machine : Machine m) (words : List String) :
    m (Option Report) := do
  match Arguments.parse words with
  | .error wrong => return some (.ofUsage wrong)
  | .ok arguments =>
    let files ← machine.load arguments
    match ready arguments (← machine.processId) files (← machine.now) with
    | .error report => return some report
    | .ok (jobs, session) => session.work machine arguments.workers jobs

/-- The answers of a machine, given beforehand. -/
structure Script where
  processId : String
  now : Nat
  files : String → Except ReadError Bytes
  hasRoom : (room : Nat) → Bool := fun _ => true
  started : (worker : Nat) → Except String Unit := fun _ => .ok ()
  times : (position : Nat) → Nat × Nat

namespace Script

/-- When the worker of a job does it. -/
def moment (script : Script) (workers : Nat) (job : Job) : Moment where
  now := (script.times job.position).1
  elapsed := (script.times job.position).2
  worker := job.position % workers

def machine (script : Script) : Machine Id where
  processId := script.processId
  now := script.now
  load _ := script.files
  makeQueue := script.hasRoom
  startWorker := script.started
  measure position decide := (decide (), script.times position)

end Script

end Replay
end DnsResponder
