import DnsResponder.Dns.Key
import DnsResponder.Refusal

namespace DnsResponder
namespace Dns

/-!
# Decoding the first question

The name of a question ends at a zero octet that must appear within the capacity of a packed name.
Two policies find it: `toZero` takes every octet up to the first zero, and `byLabels` steps over
labels by their sizes, so that a zero octet inside a label does not end the name.

A question that is cut after its name still decodes: its type is then zero and its class the
Internet, and it counts as if its last octets were there.
-/

/-- How the end of a question's name is found. -/
inductive NamePolicy
  | toZero
  | byLabels
deriving DecidableEq

/-- The final zero of the name, the type and the class. -/
def questionTailSize : Nat := 5

/-- Octets of the pseudo-record without options: root name, type, payload size, extended flags and
data size. -/
def optRecordSize : Nat := 11

/-- The first question of a message and how many octets it counts. -/
structure Question where
  key : Key
  consumed : Nat
deriving DecidableEq

/-- The octets before the first zero among the next `room`. -/
def nameToZero : (room : Nat) → Bytes → Except PacketError Bytes
  | 0, _ => .error .unterminatedName
  | _ + 1, [] => .error .unterminatedName
  | room + 1, octet :: rest =>
    if octet = 0 then .ok [] else (nameToZero room rest).map (octet :: ·)

/-- The octets before the zero that stands in place of a label's size, among the next `room`, with
`owed` octets of the current label still to come. -/
def nameByLabels : (room owed : Nat) → Bytes → Except PacketError Bytes
  | 0, _, _ => .error .unterminatedName
  | _ + 1, _, [] => .error .unterminatedName
  | room + 1, 0, octet :: rest =>
    if octet = 0 then .ok []
    else if maxLabelSize < octet.toNat then .error (.badLabelSize octet)
    else (nameByLabels room octet.toNat rest).map (octet :: ·)
  | room + 1, owed + 1, octet :: rest => (nameByLabels room owed rest).map (octet :: ·)

/-- The octets of the name at the front of `data`, without its final zero. -/
def readName (policy : NamePolicy) (data : Bytes) : Except PacketError Bytes :=
  match policy with
  | .toZero => nameToZero nameCapacity data
  | .byLabels => nameByLabels nameCapacity 0 data

/-- The type and the class after a name that ends right before `offset`. -/
def readTail (data : Bytes) (offset : Nat) : UInt16 × UInt16 :=
  match data.slice? offset questionTailSize with
  | some [_, type0, type1, class0, class1] => (Bytes.word type0 type1, Bytes.word class0 class1)
  | _ => (0, classInternet)

/-- The question at offset `start`. -/
def Question.decode (data : Bytes) (start : Nat) (policy : NamePolicy) :
    Except PacketError Question :=
  (readName policy (data.drop start)).map fun name =>
    let (qtype, qclass) := readTail data (start + name.length)
    ⟨⟨.ofOctets name, qtype, qclass⟩, name.length + questionTailSize⟩

/-- Whether the record at `offset` is a whole pseudo-record: root name and its type. -/
def optFollows (data : Bytes) (offset : Nat) : Bool :=
  match data.slice? offset optRecordSize with
  | some (owner :: type0 :: type1 :: _) => owner == 0 && Bytes.word type0 type1 == typeOpt
  | _ => false

end Dns
end DnsResponder
