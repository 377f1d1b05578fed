import DnsResponder.Bytes

namespace DnsResponder
namespace Text
namespace Utf8

/-!
# Reading and writing UTF-8

A name on the wire, a text handed over the host boundary and a file on disk are octets that may or
may not be UTF-8.  `pieces` cuts any octets into characters and faults, one fault for each maximal
run that begins a character and then breaks off, and for each octet that can begin none.  The two
readings differ only in what they make of a fault: `decodeLossy` shows U+FFFD in its place, and
`decode?` gives up.
-/

/-- A character that has begun: the bits read so far, how many octets are still owed, and the range
in which the next one must lie. -/
structure Pending where
  value : Nat
  owed : Nat
  low : Nat
  high : Nat

/-- What an octet begins: a whole character, a character with octets owed, or nothing.  The narrow
ranges after `E0`, `ED`, `F0` and `F4` exclude overlong forms, surrogates and code points above
`10FFFF`, so every completed value is a character. -/
def beginning (octet : UInt8) : Sum (Option Char) Pending :=
  let n := octet.toNat
  if n ≤ 0x7F then .inl (some (Char.ofNat n))
  else if n ≤ 0xC1 then .inl none
  else if n ≤ 0xDF then .inr ⟨n - 0xC0, 1, 0x80, 0xBF⟩
  else if n = 0xE0 then .inr ⟨0, 2, 0xA0, 0xBF⟩
  else if n = 0xED then .inr ⟨0xD, 2, 0x80, 0x9F⟩
  else if n ≤ 0xEF then .inr ⟨n - 0xE0, 2, 0x80, 0xBF⟩
  else if n = 0xF0 then .inr ⟨0, 3, 0x90, 0xBF⟩
  else if n ≤ 0xF3 then .inr ⟨n - 0xF0, 3, 0x80, 0xBF⟩
  else if n = 0xF4 then .inr ⟨4, 3, 0x80, 0x8F⟩
  else .inl none

/-- The pieces completed by an octet with no character pending, and what is pending after it. -/
def start (octet : UInt8) : List (Option Char) × Option Pending :=
  match beginning octet with
  | .inl piece => ([piece], none)
  | .inr pending => ([], some pending)

/-- The pieces completed by one more octet, and what is pending after it.  An octet that the pending
character cannot take completes a fault and then counts as the first octet of what follows. -/
def step (pending : Option Pending) (octet : UInt8) : List (Option Char) × Option Pending :=
  match pending with
  | none => start octet
  | some ⟨value, owed, low, high⟩ =>
    if low ≤ octet.toNat ∧ octet.toNat ≤ high then
      let value := value * 64 + (octet.toNat - 0x80)
      if owed ≤ 1 then ([some (Char.ofNat value)], none)
      else ([], some ⟨value, owed - 1, 0x80, 0xBF⟩)
    else
      let (found, next) := start octet
      (none :: found, next)

/-- Characters and faults, in order.  Octets that end inside a character end in one fault. -/
def pieces (pending : Option Pending) : Bytes → List (Option Char)
  | [] => if pending.isSome then [none] else []
  | octet :: rest =>
    let (found, next) := step pending octet
    found ++ pieces next rest

/-- The text of any octets, with U+FFFD in place of each fault. -/
def decodeLossy (octets : Bytes) : String :=
  String.ofList ((pieces none octets).map (·.getD '\uFFFD'))

/-- The text of octets that are UTF-8 throughout. -/
def decode? (octets : Bytes) : Option String :=
  ((pieces none octets).mapM id).map String.ofList

def encode (text : List Char) : Bytes :=
  text.flatMap String.utf8EncodeChar

end Utf8
end Text
end DnsResponder
