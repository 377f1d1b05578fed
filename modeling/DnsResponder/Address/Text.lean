import DnsResponder.Address.Basic
import DnsResponder.Text.Hex

namespace DnsResponder
namespace Address

/-!
# Addresses as text

IPv4 addresses are four decimal numbers without leading zeros.  IPv6 addresses are eight groups of
hexadecimal digits, where one `::` may stand for one or more zero groups and the last two groups may
be written as an IPv4 address.  Printing compresses the first longest run of at least two zero
groups, and shows an IPv4-mapped address with its IPv4 part in decimals.

The readers work on characters and hand back what they did not use, so that an address can be read
inside a longer text.
-/

/-! ## Printing -/

def textV4 (value : BitVec 32) : String :=
  String.intercalate "." ((octetsV4 value).map fun octet => toString octet.toNat)

/-- The eight 16-bit groups of an IPv6 address. -/
def groups (value : BitVec 128) : List Nat :=
  (List.range 8).map fun index => value.toNat >>> (16 * (7 - index)) % 65536

/-- Start and size of the first longest run of zeros. -/
def longestZeroRun (values : List Nat) : Nat × Nat :=
  (List.range values.length).foldl
    (fun best start =>
      let size := ((values.drop start).takeWhile (· = 0)).length
      if best.2 < size then (start, size) else best)
    (0, 0)

/-- Groups in lower-case hexadecimal, separated by colons. -/
def groupText (values : List Nat) : String :=
  String.intercalate ":" (values.map fun value => String.ofList (Text.Quoted.hexadecimal value))

def textV6 (value : BitVec 128) : String :=
  if value.toNat >>> 32 = 0xFFFF then
    "::ffff:" ++ textV4 (value.setWidth 32)
  else
    let all := groups value
    let (start, size) := longestZeroRun all
    if 1 < size then groupText (all.take start) ++ "::" ++ groupText (all.drop (start + size))
    else groupText all

def text : Address → String
  | .v4 value => textV4 value
  | .v6 value => textV6 value

/-! ## Reading -/

def expect (c : Char) : List Char → Option (List Char)
  | first :: rest => if first = c then some rest else none
  | [] => none

/-- A number of at most `digits` digits in a base, and the text after it. -/
def readNumber (base digits : Nat) (leadingZero : Bool) (text : List Char) :
    Option (Nat × List Char) :=
  let isDigit := fun c => (Text.digitValue? base c).isSome
  let written := text.takeWhile isDigit
  if written.length = 0 ∨ digits < written.length then none
  else if leadingZero = false ∧ written.head? = some '0' ∧ 1 < written.length then none
  else
    let value := written.foldl (fun total c => total * base + (Text.digitValue? base c).getD 0) 0
    some (value, text.dropWhile isDigit)

/-- A decimal number below 256 without leading zeros. -/
def readDecimalOctet (text : List Char) : Option (Nat × List Char) :=
  (readNumber 10 3 false text).filter fun (value, _) => value < 256

/-- An IPv4 address at the front of a text, and the text after it. -/
def readV4 (text : List Char) : Option (BitVec 32 × List Char) := do
  let (first, text) ← readDecimalOctet text
  let (second, text) ← readDecimalOctet (← expect '.' text)
  let (third, text) ← readDecimalOctet (← expect '.' text)
  let (fourth, text) ← readDecimalOctet (← expect '.' text)
  return (BitVec.ofNat 32 (((first * 256 + second) * 256 + third) * 256 + fourth), text)

/-- What a run of colon-separated groups gave: the groups, whether the last two were written as an
IPv4 address, and the text after them. -/
structure GroupRun where
  values : List Nat
  embedded : Bool
  rest : List Char

/-- At most `room` groups.  The run ends where no further group can be read; an embedded IPv4 address
fills two groups and ends it too.  A colon that no group follows is not used up. -/
def readGroups : (room : Nat) → (first : Bool) → List Char → GroupRun
  | 0, _, text => ⟨[], false, text⟩
  | room + 1, first, text =>
    match if first then some text else expect ':' text with
    | none => ⟨[], false, text⟩
    | some inner =>
      match if 0 < room then readV4 inner else none with
      | some (value, rest) => ⟨[value.toNat / 65536, value.toNat % 65536], true, rest⟩
      | none =>
        match readNumber 16 4 true inner with
        | none => ⟨[], false, text⟩
        | some (value, rest) =>
          let more := readGroups room false rest
          ⟨value :: more.values, more.embedded, more.rest⟩

def ofGroups (values : List Nat) : BitVec 128 :=
  BitVec.ofNat 128 (values.foldl (fun total value => total * 65536 + value) 0)

/-- An IPv6 address at the front of a text, and the text after it. -/
def readV6 (text : List Char) : Option (BitVec 128 × List Char) :=
  let front := readGroups 8 true text
  if front.values.length = 8 then some (ofGroups front.values, front.rest)
  else if front.embedded then none
  else do
    let rest ← expect ':' (← expect ':' front.rest)
    let back := readGroups (7 - front.values.length) true rest
    let zeros := List.replicate (8 - front.values.length - back.values.length) 0
    return (ofGroups (front.values ++ zeros ++ back.values), back.rest)

def parseV4? (text : List Char) : Option (BitVec 32) :=
  (readV4 text).bind fun (value, rest) => if rest = [] then some value else none

def parseV6? (text : List Char) : Option (BitVec 128) :=
  (readV6 text).bind fun (value, rest) => if rest = [] then some value else none

end Address
end DnsResponder
