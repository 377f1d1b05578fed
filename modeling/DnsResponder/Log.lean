namespace DnsResponder

/-!
# The log

There is at most one sink.  It has a least level, which decides on plain messages, and a mask of
topics, which alone decides on breadcrumbs: the short notes that stages leave about single frames.
A copy of the mask, `active`, lets a stage find out whether a breadcrumb would be read before it is
worded.

Errors that every frame could raise are limited to one per second and category, so that a noisy
category cannot hide a quiet one.  Time is a reading of the clock in milliseconds that the caller
hands in; it may repeat or go back.

Entries that reached the sink are kept in order, the oldest first, until they are drained.
-/

/-! ## Levels and topics -/

/-- How urgent a message is. -/
inductive Level
  | error
  | warn
  | info
  | debug
deriving DecidableEq

namespace Level

/-- The place of a level, the most urgent first. -/
def rank : Level → Nat
  | .error => 0
  | .warn => 1
  | .info => 2
  | .debug => 3

/-- The level that a name stands for, in either case; unknown names stand for `info`. -/
def ofName (name : String) : Level :=
  match String.ofList (name.toList.map Char.toLower) with
  | "error" | "err" => .error
  | "warn" | "warning" => .warn
  | "debug" | "dbg" => .debug
  | _ => .info

def name : Level → String
  | .error => "error"
  | .warn => "warn"
  | .info => "info"
  | .debug => "debug"

end Level

/-- What breadcrumbs are about, each topic a bit of a mask. -/
inductive Topic
  | walk
  | filter
  | dns
  | lookup
  | reply
  | metrics
  | host
  | capture
deriving DecidableEq

namespace Topic

def all : List Topic :=
  [.walk, .filter, .dns, .lookup, .reply, .metrics, .host, .capture]

def bit : Topic → UInt32
  | .walk => 0x01
  | .filter => 0x02
  | .dns => 0x04
  | .lookup => 0x08
  | .reply => 0x10
  | .metrics => 0x20
  | .host => 0x40
  | .capture => 0x80

def label : Topic → String
  | .walk => "WALK"
  | .filter => "FILTER"
  | .dns => "DNS"
  | .lookup => "MATCH"
  | .reply => "REWRITE"
  | .metrics => "METRICS"
  | .host => "FFI"
  | .capture => "CAPTURE"

/-- The label of a mask: that of its first topic. -/
def labelOf (mask : UInt32) : String :=
  ((all.find? fun topic => mask &&& topic.bit == topic.bit).map label).getD "LOG"

end Topic

/-! ## The limiter -/

/-- What limited errors are about. -/
inductive Category
  | boundsViolation
  | captureFailed
  | invalidRecord
  | callbackError
deriving DecidableEq

def Category.label : Category → String
  | .boundsViolation => "BOUNDS_VIOLATION"
  | .captureFailed => "CAPTURE_FAILED"
  | .invalidRecord => "INVALID_RECORD"
  | .callbackError => "CALLBACK_ERROR"

/-- The least time between two errors of one category, in milliseconds. -/
def limitInterval : Nat := 1000

/-- When an error of each category was last let through. -/
structure Limiter where
  boundsViolation : Nat := 0
  captureFailed : Nat := 0
  invalidRecord : Nat := 0
  callbackError : Nat := 0
deriving DecidableEq

namespace Limiter

/-- When an error of the category was last let through. -/
def last (limiter : Limiter) : Category → Nat
  | .boundsViolation => limiter.boundsViolation
  | .captureFailed => limiter.captureFailed
  | .invalidRecord => limiter.invalidRecord
  | .callbackError => limiter.callbackError

/-- Note when an error of the category was let through. -/
def record (limiter : Limiter) (category : Category) (now : Nat) : Limiter :=
  match category with
  | .boundsViolation => { limiter with boundsViolation := now }
  | .captureFailed => { limiter with captureFailed := now }
  | .invalidRecord => { limiter with invalidRecord := now }
  | .callbackError => { limiter with callbackError := now }

/-- Whether an error of the category is let through.  A clock that went back lets nothing through
until it has passed the last reading again. -/
def admits (limiter : Limiter) (category : Category) (now : Nat) : Bool :=
  limitInterval ≤ now - limiter.last category

@[simp]
theorem last_record (limiter : Limiter) (noted asked : Category) (now : Nat) :
    (limiter.record noted now).last asked = if asked = noted then now else limiter.last asked := by
  cases noted <;> cases asked <;> rfl

end Limiter

/-! ## Sinks and entries -/

/-- A sink as it is offered: it may lack the function to call. -/
structure SinkOffer where
  hasCallback : Bool
  topics : UInt32
deriving DecidableEq

/-- Why an offered sink is not installed. -/
inductive SinkError
  | missingCallback
deriving DecidableEq

def SinkError.message : SinkError → String
  | .missingCallback => "log callback missing"

/-- An installed sink. -/
structure Sink where
  topics : UInt32
  minLevel : Level
deriving DecidableEq

/-- A message that reached the sink. -/
structure Entry where
  level : Level
  message : String
  topics : UInt32
deriving DecidableEq

/-- The state of logging in one process. -/
structure Log where
  /-- The number of the process, shown in front of every message. -/
  processId : String
  sink : Option Sink := none
  /-- The topics of the installed sink, and none without a sink. -/
  active : UInt32 := 0
  limiter : Limiter := {}
  entries : List Entry := []

namespace Log

/-- Install a sink, with a level by name; without one it takes `info`. -/
def install (log : Log) (offer : SinkOffer) (level : Option String) : Except SinkError Log :=
  if offer.hasCallback then
    .ok { log with
      sink := some ⟨offer.topics, (level.map Level.ofName).getD .info⟩
      active := offer.topics }
  else
    .error .missingCallback

def uninstall (log : Log) : Log :=
  { log with sink := none, active := 0 }

/-- Change the topics of the installed sink; without one nothing changes. -/
def setTopics (log : Log) (topics : UInt32) : Log :=
  match log.sink with
  | some sink => { log with sink := some { sink with topics }, active := topics }
  | none => log

def listens (log : Log) (topics : UInt32) : Bool :=
  log.active &&& topics != 0

/-- The message as the sink gets to see it. -/
def format (log : Log) (topics : UInt32) (message : String) : String :=
  let mark := "[dnsfp-p" ++ log.processId ++ "]"
  if topics = 0 then mark ++ " " ++ message
  else mark ++ " [" ++ Topic.labelOf topics ++ "] " ++ message

/-- Whether the sink wants a message: plain ones by level, breadcrumbs by topic. -/
def Sink.accepts (sink : Sink) (level : Level) (topics : UInt32) : Bool :=
  if topics = 0 then level.rank ≤ sink.minLevel.rank else sink.topics &&& topics != 0

/-- Whether a message can be handed over: a sink takes text up to the first zero character, so a
message that contains one is held back as a whole. -/
def isDeliverable (message : String) : Bool :=
  message.toList.all fun c => c.toNat ≠ 0

/-- Hand a message to the sink, if there is one that wants it. -/
def dispatch (log : Log) (level : Level) (topics : UInt32) (message : String) : Log :=
  match log.sink with
  | none => log
  | some sink =>
    let formatted := log.format topics message
    if Sink.accepts sink level topics && isDeliverable formatted then
      { log with entries := log.entries ++ [⟨level, formatted, topics⟩] }
    else log

/-- A plain message; empty ones are dropped. -/
def plain (log : Log) (level : Level) (message : String) : Log :=
  if message = "" then log else log.dispatch level 0 message

def warn (log : Log) (message : String) : Log :=
  log.plain .warn message

def info (log : Log) (message : String) : Log :=
  log.plain .info message

/-- A breadcrumb; without a topic or a message it is dropped. -/
def breadcrumb (log : Log) (topics : UInt32) (message : String) : Log :=
  if message = "" ∨ topics = 0 then log else log.dispatch .debug topics message

/-- A breadcrumb on one topic, left only when a sink listens to it. -/
def note (log : Log) (topic : Topic) (message : String) : Log :=
  if log.listens topic.bit then log.breadcrumb topic.bit message else log

/-- An error that is let through at most once per interval and category, and whether it was. -/
def limited (log : Log) (now : Nat) (category : Category) (message : String) : Bool × Log :=
  if log.limiter.admits category now then
    let noted := { log with limiter := log.limiter.record category now }
    (true, noted.warn ("[" ++ category.label ++ "] " ++ message))
  else
    (false, log)

/-- The entries since the last draining, and the log without them. -/
def drain (log : Log) : List Entry × Log :=
  (log.entries, { log with entries := [] })

end Log
end DnsResponder
