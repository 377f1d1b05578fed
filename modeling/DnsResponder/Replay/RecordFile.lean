import DnsResponder.Address.Text
import DnsResponder.Replay.FrameFile

namespace DnsResponder
namespace Replay

/-!
# The file of records

A line holds a name, a time to live, the class, a type and an address, separated by blanks.  A number
sign begins a comment, and lines without anything else are passed over.
-/

/-- A record as a line gives it. -/
structure RecordLine where
  name : String
  ttl : UInt32
  address : Address
deriving DecidableEq

/-- A letter of ASCII in upper case; all others are kept. -/
def upper (text : List Char) : List Char :=
  text.map Char.toUpper

/-- What stands before a comment. -/
def withoutComment (line : List Char) : List Char :=
  line.takeWhile (· ≠ '#')

/-- Refuse a text that contains a zero, at the first one. -/
def requireNoZero (text : List Char) : Except Failure Unit :=
  let octets := Text.Utf8.encode text
  let position := (octets.takeWhile (· ≠ 0)).length
  if position < octets.length then .error (.zeroInText position) else .ok ()

def parseAddress (number : Nat) (type address : List Char) : Except Failure Address :=
  if type = ['A'] then
    match Address.parseV4? address with
    | some value => .ok (.v4 value)
    | none => .error (.badLine number .badIpv4Address)
  else if type = ['A', 'A', 'A', 'A'] then
    match Address.parseV6? address with
    | some value => .ok (.v6 value)
    | none => .error (.badLine number .badIpv6Address)
  else .error (.unsupportedType (String.ofList type))

def parseFields (number : Nat) (name ttl netClass type address : List Char) :
    Except Failure RecordLine := do
  if upper netClass ≠ ['I', 'N'] then
    throw (.badLine number (.unsupportedClass (String.ofList netClass)))
  let ttl ← (Text.readNumeral (UInt32.size - 1) ttl).mapError fun cause =>
    .badLine number (.badTtl cause)
  requireNoZero name
  let address ← parseAddress number (upper type) address
  return ⟨String.ofList name, UInt32.ofNat ttl, address⟩

def parseRecord? (number : Nat) (line : List Char) : Except Failure (Option RecordLine) :=
  match Text.fields (withoutComment line) with
  | [] => .ok none
  | [name, ttl, netClass, type, address] =>
    (parseFields number name ttl netClass type address).map some
  | fields => .error (.badLine number (.fieldCount fields.length))

end Replay
end DnsResponder
