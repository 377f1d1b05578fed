import DnsResponder.Frame

namespace DnsResponder

/-!
# Why a frame is not answered

A frame that is not answered is left to the general network stack.  `PacketError` collects what
reading the headers and the question can find, `Refusal` everything that ends the handling of a
frame, and `Stop` adds the one outcome that is no decision at all: an access outside the frame's
octets, or a size below zero.

Locating the headers of a frame and writing its reply look at octets by their offsets, write over
them, and take one size from another.  Where that cannot be done they say `outside`, instead of taking
a default, so that its absence is a statement about the handling and not about the way it was written
down.  Two kinds of reading need no such outcome: a field of a header is read from a view, which
carries the proof that it is there, and a question is read by matching on the octets that are left, or
on a slice of them if there is one.
-/

/-- What reading the headers or the question found. -/
inductive PacketError
  | truncated (cause : BoundsError)
  | unknownEthertype (value : UInt16)
  | badIpv4Header
  | badIpv6Header
  | fragment
  | notUdp (protocol : UInt8)
  | otherPort (destination : UInt16)
  | notQuery
  | noQuestion
  | unterminatedName
  | badLabelSize (size : UInt8)
deriving DecidableEq

/-- A tunnel inside which no query is looked for. -/
inductive TunnelError
  | ipv6InIpv4
  | nested
deriving DecidableEq

/-- Why a reply cannot be written into the frame of its query. -/
inductive ReplyError
  | answerPastEnd
  | wouldShrink
  | noTailroom
  | overChecksumCeiling
  | lengthOverflow
  | sectionFull
  | badIpv4HeaderSize
deriving DecidableEq

/-- Why the handling of a frame ended without a reply. -/
inductive Refusal
  | packet (cause : PacketError)
  | tunnel (cause : TunnelError)
  | notServed
  | unsupportedType (code : UInt16)
  | noRecord
  | reply (cause : ReplyError)
deriving DecidableEq

/-- A number in exactly four lower-case hexadecimal digits. -/
private def fourDigits (value : UInt16) : String :=
  let digits := Nat.toDigits 16 value.toNat
  String.ofList (List.replicate (4 - digits.length) '0' ++ digits)

namespace PacketError

def message : PacketError → String
  | .truncated cause => "truncated frame: " ++ cause.message
  | .unknownEthertype value => "unsupported ethertype 0x" ++ fourDigits value
  | .badIpv4Header => "malformed IPv4 header"
  | .badIpv6Header => "malformed IPv6 header"
  | .fragment => "IPv4 fragment"
  | .notUdp protocol => s!"transport protocol {protocol.toNat} is not UDP"
  | .otherPort destination =>
    s!"UDP destination port {destination.toNat} is not the DNS port"
  | .notQuery => "not a standard query"
  | .noQuestion => "query carries no question"
  | .unterminatedName => "query name has no terminator within the supported length"
  | .badLabelSize size => s!"invalid label length {size.toNat}"

/-- The kind of error in two or three words, without its details. -/
def summary : PacketError → String
  | .truncated _ => "truncated frame"
  | .unknownEthertype _ => "unsupported ethertype"
  | .badIpv4Header => "malformed IPv4 header"
  | .badIpv6Header => "malformed IPv6 header"
  | .fragment => "IPv4 fragment"
  | .notUdp _ => "not UDP"
  | .otherPort _ => "not DNS port"
  | .notQuery => "not a standard query"
  | .noQuestion => "missing question"
  | .unterminatedName => "unterminated name"
  | .badLabelSize _ => "invalid label"

/-- Whether the error was found in the DNS message, and not in the headers before it. -/
def inMessage : PacketError → Bool
  | .notQuery | .noQuestion | .unterminatedName | .badLabelSize _ => true
  | _ => false

end PacketError

def TunnelError.message : TunnelError → String
  | .ipv6InIpv4 => "ipv6 in ipv4"
  | .nested => "nested tunnel"

def ReplyError.message : ReplyError → String
  | .answerPastEnd => "answer starts past frame end"
  | .wouldShrink => "response would shrink frame"
  | .noTailroom => "no tailroom for answer"
  | .overChecksumCeiling => "datagram exceeds checksum ceiling"
  | .lengthOverflow => "length field overflow"
  | .sectionFull => "scratch buffer full"
  | .badIpv4HeaderSize => "ipv4 header length"

namespace Refusal

def message : Refusal → String
  | .packet cause => "parse failure: " ++ cause.message
  | .tunnel cause => "unsupported encapsulation: " ++ cause.message
  | .notServed => "destination is not a served prefix"
  | .unsupportedType code => s!"unsupported query type {code.toNat}"
  | .noRecord => "no record matches the query"
  | .reply cause => "bounds violation: " ++ cause.message

def countsAsPassed : Refusal → Bool
  | .noRecord => true
  | _ => false

def countsAsErrored : Refusal → Bool
  | .reply _ => true
  | _ => false

/-- A read past the end of the frame. -/
def truncated (cause : BoundsError) : Refusal :=
  .packet (.truncated cause)

end Refusal

/-- Why a computation on a frame ended early: a refusal, or an access outside the octets. -/
inductive Stop
  | refused (reason : Refusal)
  | outside
deriving DecidableEq

namespace Stop

/-- A value that must be there, or an access outside the octets. -/
def require {α : Type} : Option α → Except Stop α
  | some value => .ok value
  | none => .error .outside

def ofRefusal {α : Type} : Except Refusal α → Except Stop α
  | .ok value => .ok value
  | .error reason => .error (.refused reason)

/-- A reading with the state that it leaves, for those who give up when it fails. -/
def ofReading {σ α : Type} : EStateM.Result BoundsError σ α → Except Stop (α × σ)
  | .ok value left => .ok (value, left)
  | .error cause _ => .error (.refused (.truncated cause))

/-- A difference of sizes, which has to be one. -/
def difference (larger smaller : Nat) : Except Stop Nat :=
  if smaller ≤ larger then .ok (larger - smaller) else .error .outside

end Stop
end DnsResponder
