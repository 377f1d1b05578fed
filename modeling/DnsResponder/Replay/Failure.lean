import DnsResponder.Replay.Arguments
import DnsResponder.Text.Hex

namespace DnsResponder
namespace Replay

/-!
# How a replay fails

A failure is reported with its causes: the wording first, then a blank line and the list of causes,
numbered when there are several.
-/

/-- Why a file could not be read as text. -/
inductive ReadError
  | missing
  | directory
  | notDirectory
  | denied
  | nameTooLong
  | notText
  | other (text : String)
deriving DecidableEq

def ReadError.message : ReadError → String
  | .missing => "No such file or directory (os error 2)"
  | .directory => "Is a directory (os error 21)"
  | .notDirectory => "Not a directory (os error 20)"
  | .denied => "Permission denied (os error 13)"
  | .nameTooLong => "File name too long (os error 36)"
  | .notText => "stream did not contain valid UTF-8"
  | .other text => text

/-- What is wrong with a line of the file of records. -/
inductive LineError
  | fieldCount (count : Nat)
  | unsupportedClass (text : String)
  | badTtl (cause : Text.NumeralError)
  | badIpv4Address
  | badIpv6Address
  | rejected (name : String)
deriving DecidableEq

/-- The wording shown to the operator, after the number of the line. -/
def LineError.message : LineError → String
  | .fieldCount count => s!"expected 5 fields, got {count}"
  | .unsupportedClass text => "unsupported class " ++ text
  | .badTtl _ => "invalid ttl"
  | .badIpv4Address => "invalid IPv4 address"
  | .badIpv6Address => "invalid IPv6 address"
  | .rejected name => "rejected record " ++ name

/-- The causes, the nearest first. -/
def LineError.causes : LineError → List String
  | .badTtl cause => [cause.message]
  | .badIpv4Address => ["invalid IPv4 address syntax"]
  | .badIpv6Address => ["invalid IPv6 address syntax"]
  | _ => []

/-- Why a replay ended early. -/
inductive Failure
  | usage (cause : UsageError)
  | badNetwork (text : String)
  | unreadable (path : String) (cause : ReadError)
  | badLine (number : Nat) (cause : LineError)
  /-- A text that is handed over up to its first zero contains one at this octet. -/
  | zeroInText (position : Nat)
  | unsupportedType (text : String)
  | badFrame (number : Nat) (cause : Text.Hex.Fault)
  /-- The system refused to start a worker, in these words. -/
  | noWorker (text : String)
  | incomplete (processed total : Nat)
deriving DecidableEq

namespace Failure

def message : Failure → String
  | .usage cause => cause.message
  | .badNetwork text => "invalid served prefix " ++ text
  | .unreadable path _ => "reading " ++ path
  | .badLine number cause => s!"line {number}: " ++ cause.message
  | .zeroInText position => s!"nul byte found in provided data at position: {position}"
  | .unsupportedType text => "unsupported record type " ++ text ++ " (only 1/A and 28/AAAA)"
  | .badFrame number _ => s!"frame on line {number}"
  | .noWorker text => text
  | .incomplete processed total => s!"processed {processed} of {total} frames"

/-- The causes, the nearest first. -/
def causes : Failure → List String
  | .unreadable _ cause => [cause.message]
  | .badLine _ cause => cause.causes
  | .badFrame _ cause => ["invalid hex frame", cause.message]
  | _ => []

def report (failure : Failure) : List String :=
  let head := "Error: " ++ failure.message
  match failure.causes with
  | [] => [head]
  | [cause] => [head, "", "Caused by:", "    " ++ cause]
  | causes =>
    [head, "", "Caused by:"]
      ++ causes.zipIdx.map fun (cause, index) => s!"    {index}: " ++ cause

end Failure
end Replay
end DnsResponder
