import DnsResponder.Text.Blank
import DnsResponder.Text.Numeral
import DnsResponder.Text.Quoted
import DnsResponder.Text.Utf8

namespace DnsResponder
namespace Text
namespace Hex

/-!
# Octets in hexadecimal

Two digits of either case stand for one octet.  A fault is reported with the position of the first
octet of text that is no digit, and that octet is shown as the character of the same number.
-/

/-- Why a text is no hexadecimal. -/
inductive Fault
  | invalidCharacter (shown : Char) (position : Nat)
  | oddLength
deriving DecidableEq

def Fault.message : Fault → String
  | .invalidCharacter shown position =>
    "Invalid character " ++ Quoted.character shown ++ " at position " ++ toString position
  | .oddLength => "Odd number of digits"

/-- The value of the digit that the octet `octet` at `position` is the character of. -/
def digit (octet : UInt8) (position : Nat) : Except Fault Nat :=
  let c := Char.ofNat octet.toNat
  match digitValue? 16 c with
  | some value => .ok value
  | none => .error (.invalidCharacter c position)

/-- The octets written by pairs of digits that begin at `position`. -/
def decodePairs (position : Nat) : Bytes → Except Fault Bytes
  | high :: low :: rest => do
    let first ← digit high position
    let second ← digit low (position + 1)
    let octets ← decodePairs (position + 2) rest
    return UInt8.ofNat (first * 16 + second) :: octets
  | _ => .ok []

/-- The octets written by text.  The number of octets of the text is looked at before any digit. -/
def decode (text : List Char) : Except Fault Bytes :=
  let octets := Utf8.encode text
  if octets.length % 2 = 1 then .error .oddLength else decodePairs 0 octets

/-- The lower-case digit of a value below sixteen. -/
def digitChar (value : Nat) : Char :=
  if value < 10 then Char.ofNat ('0'.toNat + value) else Char.ofNat ('a'.toNat + (value - 10))

def encode (octets : Bytes) : String :=
  String.ofList <| octets.flatMap fun octet =>
    [digitChar (octet.toNat / 16), digitChar (octet.toNat % 16)]

end Hex
end Text
end DnsResponder
