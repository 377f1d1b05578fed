import DnsResponder.Dns.Header
import DnsResponder.Records
import DnsResponder.Settings

namespace DnsResponder
namespace Dns

/-!
# Composing a response

A response is a new message header and the octets of its answer section: one answer record whose
owner is a pointer to the question's name, and at most one extension record.  The section is staged
in a buffer of fixed capacity, which its longest form does not fill.
-/

/-- Octets that the staged section can hold. -/
def sectionCapacity : Nat := 128

/-- A pointer to offset 12 of the message, where the name of the only question stands. -/
def namePointer : UInt16 := 0xC00C

/-- Octets of an answer record without its address: pointer, type, class, time to live and size. -/
def answerFixedSize : Nat := 12

/-- A message header and the octets that follow the question. -/
structure Response where
  header : MessageHeader := {}
  answerSection : Bytes := []
deriving DecidableEq

namespace Response

/-- The section with more octets, if its buffer holds them. -/
def push (staged octets : Bytes) : Except Refusal Bytes :=
  if staged.length + octets.length ≤ sectionCapacity then .ok (staged ++ octets)
  else .error (.reply .sectionFull)

def pushAll (staged : Bytes) (fields : List Bytes) : Except Refusal Bytes :=
  fields.foldlM push staged

def answerType (answer : Answer) : UInt16 :=
  match answer.address.family with
  | .v4 => typeA
  | .v6 => typeAaaa

def answerFields (answer : Answer) : List Bytes :=
  [Bytes.ofWord namePointer, Bytes.ofWord (answerType answer), Bytes.ofWord classInternet,
    Bytes.ofLong answer.ttl, Bytes.ofNat 2 answer.address.family.addressSize,
    answer.address.octets]

/-- The fields of an extension record that advertises a payload size. -/
def optFields (payloadSize : UInt16) : List Bytes :=
  [[0], Bytes.ofWord typeOpt, Bytes.ofWord payloadSize, [0, 0, 0, 0], [0, 0]]

/-- The flags of a response.  It is marked as one; it is neither cut nor validated and has no error;
the other bits stay as the query had them unless the settings decide them. -/
def flagsFor (query : UInt16) (flags : ResponseFlags) : UInt16 :=
  let cleared := Flag.truncated ||| Flag.authenticData ||| Flag.checkingDisabled
    ||| Flag.responseCode
  let bits := (query ||| Flag.response) &&& ~~~cleared
  let bits := if flags.markReserved then bits ||| Flag.reserved else bits
  let bits :=
    if flags.authoritative then (bits ||| Flag.authoritative) &&& ~~~Flag.recursionAvailable
    else bits
  if flags.recursionAvailable then (bits ||| Flag.recursionAvailable) &&& ~~~Flag.authoritative
  else bits

/-- The header of a response: one question, one answer, and one additional record when an extension
record is appended. -/
def headerFor (query : MessageHeader) (flags : ResponseFlags) (withOpt : Bool) : MessageHeader where
  id := query.id
  flags := flagsFor query.flags flags
  questions := 1
  answers := 1
  authorities := 0
  additionals := if withOpt then 1 else 0

/-- The response to a query, with an extension record when a payload size is given. -/
def compose (query : MessageHeader) (answer : Answer) (payloadSize : Option UInt16)
    (flags : ResponseFlags) : Except Refusal Response := do
  let answered ← pushAll [] (answerFields answer)
  let staged ←
    match payloadSize with
    | some size => pushAll answered (optFields size)
    | none => pure answered
  return ⟨headerFor query flags payloadSize.isSome, staged⟩

end Response
end Dns
end DnsResponder
