import DnsResponder.Responder

namespace DnsResponder

/-!
# The boundary to a host program

A host program drives a responder through plain calls: octets without a type, numbers for decisions,
and a switch or a negative number where something was wrong.  A missing argument is `none`.  What a
call could not do is told by its result alone or, where a cause is known, by a limited error in the
log.

A call on a host without a responder is refused and changes nothing.
-/

/-- The state behind the calls: the responder, once made, and the log of the process. -/
structure Host where
  responder : Option Responder := none
  log : Log

namespace Host

/-! ## Life of the responder -/

/-- Make the responder; without settings it takes the default ones. -/
def create (host : Host) (settings : Option FlatSettings) : Host :=
  let log :=
    match settings with
    | some _ => host.log
    | none =>
      host.log.breadcrumb Topic.host.bit "FastpathNew without config, using defaults"
  let (responder, log) :=
    Responder.create (settings.getD FlatSettings.default).settings none log
  { responder := some responder, log }

def free (host : Host) : Host :=
  match host.responder with
  | some _ =>
    { responder := none, log := host.log.breadcrumb Topic.host.bit "FastpathFree" }
  | none => host

/-! ## Administration -/

/-- The text of an argument that is there and is UTF-8. -/
def textArgument (argument : Option Bytes) : Option String :=
  argument.bind Text.Utf8.decode?

def reject (host : Host) (now : Nat) (subject cause : String) : Host :=
  { host with log := (host.log.limited now .invalidRecord (subject ++ ": " ++ cause)).2 }

/-- Take over the result of storing a record. -/
def store (host : Host) (now : Nat) (name : String) (stored : Except Dns.NameError Responder) :
    Bool × Host :=
  match stored with
  | .ok responder => (true, { host with responder := some responder })
  | .error cause => (false, host.reject now name cause.message)

def insertA (host : Host) (now : Nat) (name : Option Bytes) (address : Option (BitVec 32))
    (ttl : UInt32) : Bool × Host :=
  match host.responder, textArgument name, address with
  | some responder, some name, some address =>
    host.store now name (responder.insertA name ⟨address, ttl⟩)
  | _, _, _ => (false, host)

def insertAaaa (host : Host) (now : Nat) (name : Option Bytes) (address : Option (BitVec 128))
    (ttl : UInt32) : Bool × Host :=
  match host.responder, textArgument name, address with
  | some responder, some name, some address =>
    host.store now name (responder.insertAaaa name ⟨address, ttl⟩)
  | _, _, _ => (false, host)

/-- Remove a record, and whether there was one.  A name that cannot be packed has none. -/
def remove (host : Host) (name : Option Bytes) (code : UInt16) : Bool × Host :=
  match host.responder, textArgument name, Dns.RecordType.ofCode code with
  | some _, some _, .other _ => (false, host)
  | some responder, some name, type =>
    match responder.remove name type with
    | .ok (removed, responder) => (removed, { host with responder := some responder })
    | .error _ => (false, host)
  | _, _, _ => (false, host)

/-- Take a network into service; one that is in service already is fine. -/
def serve (host : Host) (now : Nat) (network : Option Bytes) : Bool × Host :=
  match host.responder, textArgument network with
  | some responder, some network =>
    match responder.serve network with
    | .ok (_, responder) => (true, { host with responder := some responder })
    | .error cause => (false, host.reject now network cause.message)
  | _, _ => (false, host)

/-- Store a runtime option by the number of its slot. -/
def setOption (host : Host) (slot value : UInt32) : Bool × Host :=
  match host.responder with
  | none => (false, host)
  | some responder =>
    match responder.setOption slot value with
    | .ok responder => (true, { host with responder := some responder })
    | .error _ => (false, host)

def metrics? (host : Host) : Option Snapshot :=
  host.responder.map (·.metrics.snapshot)

def resetMetrics (host : Host) : Host :=
  match host.responder with
  | some responder =>
    let (responder, log) := responder.resetMetrics host.log
    { responder := some responder, log }
  | none => host

/-! ## Logging -/

/-- Install a sink, or remove the installed one when none is given.  A level that is not UTF-8 counts
as missing. -/
def setSink (host : Host) (sink : Option SinkOffer) (level : Option Bytes) : Bool × Host :=
  match sink with
  | none => (true, { host with log := host.log.uninstall })
  | some offer =>
    match host.log.install offer (textArgument level) with
    | .ok log => (true, { host with log })
    | .error _ => (false, host)

def setTopics (host : Host) (topics : UInt32) : Host :=
  { host with log := host.log.setTopics topics }

/-! ## Frames -/

/-- A window with a frame in it, as a host hands it over: the first `capacity` octets may be used. -/
structure FrameCall where
  window : Option Bytes
  capacity : Nat
  head : Option Nat
  size : Option Nat

/-- The result of a frame call: a decision, or what was wrong with the arguments. -/
inductive FrameStatus
  | decided (action : Action)
  | noResponder
  | noWindow
  | noPosition
  | badWindow
deriving DecidableEq

def FrameStatus.code : FrameStatus → Int
  | .decided action => action.code
  | .noResponder => -1
  | .noWindow => -2
  | .noPosition => -3
  | .badWindow => -4

/-- What a frame call comes to, before anything is counted or noted. -/
inductive Verdict
  | refused (status : FrameStatus)
  | badWindow (cause : BoundsError)
  /-- The responder has decided on the frame; `beyond` are the octets that may not be used. -/
  | handled (responder : Responder) (beyond : Bytes) (run : Engine.Run)

/-- Check the arguments of a call, and decide on its frame. -/
def verdict (host : Host) (call : FrameCall) : Verdict :=
  match host.responder with
  | none => .refused .noResponder
  | some responder =>
    match call.window with
    | none => .refused .noWindow
    | some window =>
      if call.capacity = 0 then .refused .noWindow
      else
        match call.head, call.size with
        | some head, some size =>
          match responder.decideWindow (window.take call.capacity) head size with
          | .ok run => .handled responder (window.drop call.capacity) run
          | .error cause => .badWindow cause
        | _, _ => .refused .noPosition

/-- Account for a call.  Afterwards the window and the position in it are those of the frame as it is
now; a call that was refused is handed back as it came. -/
def account (host : Host) (moment : Moment) (call : FrameCall) :
    Verdict → FrameStatus × FrameCall × Host
  | .refused status => (status, call, host)
  | .badWindow cause =>
    let text := "FastpathProcessFrame rejected window: " ++ cause.message
    let log := (host.log.limited moment.now .callbackError text).2
    (.badWindow, call, { host with log })
  | .handled responder beyond run =>
    let (action, frame, responder, log) := responder.account moment run host.log
    let call := { call with
      window := some (frame.window ++ beyond)
      head := some frame.head
      size := some frame.size }
    (.decided action, call, { responder := some responder, log })

def process (host : Host) (moment : Moment) (call : FrameCall) : FrameStatus × FrameCall × Host :=
  host.account moment call (host.verdict call)

end Host
end DnsResponder
