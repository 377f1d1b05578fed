import DnsResponder.Replay.Session

namespace DnsResponder
namespace Console

/-!
# The replay command

The outer layer of the command line: the machine that a replay runs on, with its process number, its
clock and its files, and the printing of the report.  Everything else is `Replay`.

The workers of this command take turns, so none of them needs a thread.
-/

/-- The number of this process, which the system shows as the first field of its status. -/
def readProcessId : IO String := do
  try
    let status ← IO.FS.readFile "/proc/self/stat"
    return String.ofList (status.toList.takeWhile Char.isDigit)
  catch _ =>
    return "0"

/-- The clock in milliseconds.  It starts far above the interval of the error limiter. -/
def readClock : IO Nat := do
  return (← IO.monoNanosNow) / 1000000 + 1000000000000

/-- The number that the system gives an error.  Some calls report it negated. -/
def systemError (code : UInt32) : UInt32 :=
  if code < 0x80000000 then code else 0 - code

def readFile (path : String) : IO (Except Replay.ReadError Bytes) := do
  try
    return .ok (← IO.FS.readBinFile path).toList
  catch failure =>
    return .error <|
      match failure with
      | .noFileOrDirectory .. => .missing
      | .permissionDenied .. => .denied
      | .inappropriateType _ code _ => if systemError code = 20 then .notDirectory else .directory
      | .invalidArgument _ code text => if systemError code = 36 then .nameTooLong else .other text
      | other => .other (toString other)

/-- Read both files that the arguments name. -/
def readFiles (arguments : Replay.Arguments) : IO (String → Except Replay.ReadError Bytes) := do
  let records ← readFile arguments.records
  let frames ← readFile arguments.frames
  return fun path => if path = arguments.records then records else frames

/-- The largest queue that is made. -/
def maxRoom : Nat := 0x100000000

/-- Compute something between two readings of the clock. -/
@[noinline]
def compute {α : Type} (make : Unit → α) : IO α :=
  return make ()

/-- This machine. -/
def machine : Replay.Machine IO where
  processId := readProcessId
  now := readClock
  load := readFiles
  makeQueue room := return room ≤ maxRoom
  startWorker _ := return .ok ()
  measure _ decide := do
    let now ← readClock
    let started ← IO.monoNanosNow
    let verdict ← compute decide
    let stopped ← IO.monoNanosNow
    return (verdict, now, stopped - started)

def print (report : Replay.Report) : IO UInt32 := do
  report.errors.forM IO.eprintln
  report.output.forM IO.println
  return UInt32.ofNat report.code

/-- Run a replay and print its report.  One that has none ends as a program that was broken off. -/
def replay (arguments : List String) : IO UInt32 := do
  match ← Replay.run machine arguments with
  | some report => print report
  | none => return 101

end Console
end DnsResponder

def main (arguments : List String) : IO UInt32 :=
  DnsResponder.Console.replay arguments
