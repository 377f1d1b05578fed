import DnsResponder.Frame.Cursor

namespace DnsResponder
namespace Dns

/-!
# The fixed header of a DNS message

Six words: the identifier that ties a response to its query, a word of flags, and the counts of the
four sections.
-/

namespace Flag

def response : UInt16 := 0x8000

def opcode : UInt16 := 0x7800

def authoritative : UInt16 := 0x0400

def truncated : UInt16 := 0x0200

def recursionDesired : UInt16 := 0x0100

def recursionAvailable : UInt16 := 0x0080

def reserved : UInt16 := 0x0040

def authenticData : UInt16 := 0x0020

def checkingDisabled : UInt16 := 0x0010

def responseCode : UInt16 := 0x000F

end Flag

/-- The fixed header. -/
structure MessageHeader where
  id : UInt16 := 0
  flags : UInt16 := 0
  questions : UInt16 := 0
  answers : UInt16 := 0
  authorities : UInt16 := 0
  additionals : UInt16 := 0
deriving DecidableEq

namespace MessageHeader

def ofView (view : View .dns) : MessageHeader where
  id := view.word 0
  flags := view.word 2
  questions := view.word 4
  answers := view.word 6
  authorities := view.word 8
  additionals := view.word 10

/-- The header at the front of `octets`, if there are enough of them. -/
def parse? (octets : Bytes) : Option MessageHeader :=
  if enough : Header.dns.size ≤ octets.length then
    some (.ofView ⟨0, octets.take Header.dns.size, by simp [enough]⟩)
  else none

def encode (header : MessageHeader) : Bytes :=
  Bytes.ofWord header.id ++ Bytes.ofWord header.flags ++ Bytes.ofWord header.questions
    ++ Bytes.ofWord header.answers ++ Bytes.ofWord header.authorities
    ++ Bytes.ofWord header.additionals

/-- Whether the message is a query of the standard kind: no response, operation code zero. -/
def isStandardQuery (header : MessageHeader) : Bool :=
  header.flags &&& (Flag.response ||| Flag.opcode) == 0

@[simp]
theorem length_encode (header : MessageHeader) : header.encode.length = Header.dns.size := by
  simp [encode, Header.size]

/-- There is a header exactly when there are enough octets. -/
theorem parse?_isSome_iff {octets : Bytes} :
    (parse? octets).isSome ↔ Header.dns.size ≤ octets.length := by
  unfold parse?
  split <;> simp_all

end MessageHeader
end Dns
end DnsResponder
