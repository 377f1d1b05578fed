import DnsResponder.Text.Numeral

namespace DnsResponder
namespace Replay

/-!
# Arguments of a replay

Arguments are read from left to right, and the first one that is wrong ends the reading.  A value
given twice counts as given last, except for served networks, which add up.
-/

/-- What a replay is told on its command line. -/
structure Arguments where
  /-- The file of records. -/
  records : String
  /-- The file of frames. -/
  frames : String
  serve : List String
  workers : Nat
  dryRun : Bool
  randomTtl : Bool
  authoritative : Bool
  edns : Bool
  verbose : Bool
deriving DecidableEq

/-- What is wrong with a command line. -/
inductive UsageError
  | missingValue (option : String)
  | badWorkerCount
  | noWorkers
  | unknown (argument : String)
  | required (option : String)
deriving DecidableEq

def UsageError.message : UsageError → String
  | .missingValue option => option ++ " requires a value"
  | .badWorkerCount => "invalid worker count"
  | .noWorkers => "--workers must be at least 1"
  | .unknown argument =>
    "unknown argument " ++ argument ++ ". usage: standalone --records FILE --serve CIDR "
      ++ "[--serve CIDR ..] --frames FILE [--workers N] [--dry-run] "
      ++ "[--random-ttl] [--authoritative] [--edns] [--verbose]"
  | .required option => option ++ " is required"

/-- The largest count that a command line can name. -/
def maxCount : Nat := UInt64.size - 1

/-- Arguments read so far. -/
structure Reading where
  records : Option String := none
  frames : Option String := none
  serve : List String := []
  workers : Nat := 1
  dryRun : Bool := false
  randomTtl : Bool := false
  authoritative : Bool := false
  edns : Bool := false
  verbose : Bool := false

namespace Reading

def withWorkers (reading : Reading) (value : String) : Except UsageError Reading :=
  match Text.readNumeral maxCount value.toList with
  | .error _ => .error .badWorkerCount
  | .ok 0 => .error .noWorkers
  | .ok count => .ok { reading with workers := count }

def withValue? (reading : Reading) (option : String) :
    Option (String → Except UsageError Reading) :=
  match option with
  | "--records" => some fun value => .ok { reading with records := some value }
  | "--frames" => some fun value => .ok { reading with frames := some value }
  | "--serve" => some fun value => .ok { reading with serve := reading.serve ++ [value] }
  | "--workers" => some reading.withWorkers
  | _ => none

def withSwitch? (reading : Reading) (option : String) : Option Reading :=
  match option with
  | "--dry-run" => some { reading with dryRun := true }
  | "--random-ttl" => some { reading with randomTtl := true }
  | "--authoritative" => some { reading with authoritative := true }
  | "--edns" => some { reading with edns := true }
  | "--verbose" => some { reading with verbose := true }
  | _ => none

def readAll (reading : Reading) : List String → Except UsageError Reading
  | [] => .ok reading
  | option :: rest =>
    match reading.withValue? option, reading.withSwitch? option, rest with
    | some take, _, value :: rest =>
      match take value with
      | .ok reading => reading.readAll rest
      | .error wrong => .error wrong
    | some _, _, [] => .error (.missingValue option)
    | none, some reading, rest => reading.readAll rest
    | none, none, _ => .error (.unknown option)

/-- The arguments, if the two files are among them. -/
def finish (reading : Reading) : Except UsageError Arguments :=
  match reading.records, reading.frames with
  | none, _ => .error (.required "--records")
  | some _, none => .error (.required "--frames")
  | some records, some frames => .ok {
      records, frames
      serve := reading.serve
      workers := reading.workers
      dryRun := reading.dryRun
      randomTtl := reading.randomTtl
      authoritative := reading.authoritative
      edns := reading.edns
      verbose := reading.verbose }

end Reading

/-- Read a command line without the program's name. -/
def Arguments.parse (arguments : List String) : Except UsageError Arguments :=
  match Reading.readAll {} arguments with
  | .ok reading => reading.finish
  | .error wrong => .error wrong

end Replay
end DnsResponder
