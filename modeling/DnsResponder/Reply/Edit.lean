import DnsResponder.Dns.Response
import DnsResponder.Reply.Plan

namespace DnsResponder
namespace Reply

/-!
# Writing a reply into the frame of its query

An edit changes a frame step by step.  A step that cannot be made ends the edit and leaves the frame
as the steps before it made it, so an edit that fails half-way is visible as such: nothing here
restores a frame, and only a plan that fits keeps one from being left half-written.
-/

/-- A computation that changes a frame and may stop. -/
abbrev Edit := EStateM Stop Frame

namespace Edit

def read {α : Type} (look : Bytes → Option α) : Edit α := fun frame =>
  match look frame.octets with
  | some value => .ok value frame
  | none => .error .outside frame

def step (make : Frame → Option Frame) : Edit Unit := fun frame =>
  match make frame with
  | some made => .ok () made
  | none => .error .outside frame

def move (make : Frame → Frame.Outcome) : Edit Unit := fun frame =>
  match make frame with
  | .ok _ moved => .ok () moved
  | .error cause left => .error (.refused (.truncated cause)) left

def attempt {α : Type} (result : Except Stop α) : Edit α := fun frame =>
  match result with
  | .ok value => .ok value frame
  | .error stop => .error stop frame

def write (offset : Nat) (octets : Bytes) : Edit Unit :=
  step (·.write? offset octets)

def writeWord (offset : Nat) (value : UInt16) : Edit Unit :=
  write offset (Bytes.ofWord value)

def slice (offset size : Nat) : Edit Bytes :=
  read (·.slice? offset size)

/-- A value that must be there, or the refusal given. -/
def orRefuse {α : Type} (value : Option α) (cause : ReplyError) : Edit α :=
  attempt <|
    match value with
    | some value => .ok value
    | none => .error (.refused (.reply cause))

end Edit

/-! ## Exchanging the ends -/

/-- Exchange source and destination at every layer: the Ethernet addresses, the addresses of each IP
header present, and the UDP ports. -/
def swapEndpoints? (layout : Packet.Layout) (data : Bytes) : Option Bytes := do
  let data ← data.swapAdjacent? 0 Packet.ethernetAddressSize
  let data ←
    match layout.outer with
    | some outer => data.swapAdjacent? outer.sourceOffset outer.addressSize
    | none => some data
  let data ← data.swapAdjacent? layout.inner.sourceOffset layout.inner.addressSize
  data.swapAdjacent? layout.udp 2

/-! ## The steps of a reply -/

def ethertypeOf : Family → UInt16
  | .v4 => Packet.ethertypeIpv4
  | .v6 => Packet.ethertypeIpv6

/-- Leave out the tunnel header: the Ethernet header with its tags slides over it, and its ethertype
comes to name the inner packet. -/
def leaveTunnel (plan : Plan) : Edit Unit := do
  if 0 < plan.strip then
    let link ← Edit.slice 0 plan.layout.linkSize
    Edit.write plan.strip link
    Edit.move (·.advance plan.strip)
    Edit.writeWord plan.layout.ethertypeOffset (ethertypeOf plan.layout.inner.family)

/-- Write the length field of an IP header: the whole packet for IPv4, what follows the header for
IPv6. -/
def writeIpLength (header : Packet.IpHeader) (newSize : Nat) : Edit Unit := do
  let packetSize ← Edit.attempt (Stop.difference newSize header.offset)
  match header.family with
  | .v4 => Edit.writeWord (header.offset + 2) (UInt16.ofNat packetSize)
  | .v6 =>
    let payloadSize ← Edit.attempt (Stop.difference packetSize header.size)
    Edit.writeWord (header.offset + 4) (UInt16.ofNat payloadSize)

/-- Write the length fields of the datagram and of the packets around it.  The UDP checksum counts as
zero until it is computed. -/
def writeLengths (plan : Plan) : Edit Unit := do
  let datagramSize ← Edit.attempt (Stop.difference plan.newSize plan.layout.udp)
  Edit.writeWord (plan.layout.udp + 4) (UInt16.ofNat datagramSize)
  Edit.writeWord (plan.layout.udp + 6) 0
  writeIpLength plan.layout.inner plan.newSize
  match plan.layout.outer with
  | some outer => writeIpLength outer plan.newSize
  | none => return ()

/-- Send the reply back to where the query came from, or through the configured end of the tunnel. -/
def turnAround (layout : Packet.Layout) (settings : Settings) : Edit Unit := do
  Edit.step (·.change? (swapEndpoints? layout))
  match layout.outer, settings.tunnelReturn with
  | some outer, .endpoint address =>
    match outer.family with
    | .v6 => Edit.write outer.destinationOffset (Address.octetsV6 address)
    | .v4 => return ()
  | _, _ => return ()

def writeHeaderChecksum (inner : Packet.IpHeader) : Edit Unit := do
  match inner.family with
  | .v4 =>
    let header ← Edit.slice inner.offset inner.size
    let found ← Edit.attempt (Checksum.checkedIpv4Header header)
    let sum ← Edit.orRefuse found .badIpv4HeaderSize
    Edit.writeWord (inner.offset + Checksum.ipv4FieldOffset) sum
  | .v6 => return ()

/-- Write the UDP checksum of a reply that carries a computed one. -/
def writeDatagramChecksum (layout : Packet.Layout) (settings : Settings) : Edit Unit := do
  let datagram ← Edit.read fun data => data.slice? layout.udp (data.length - layout.udp)
  if isChecksummed layout settings then
    let source ← Edit.slice layout.inner.sourceOffset layout.inner.addressSize
    let destination ← Edit.slice layout.inner.destinationOffset layout.inner.addressSize
    let sum ← Edit.orRefuse (Checksum.udp source destination datagram) .overChecksumCeiling
    Edit.writeWord (layout.udp + 6) sum

def carryOut (plan : Plan) (response : Dns.Response) (settings : Settings) : Edit Unit := do
  leaveTunnel plan
  Edit.move (·.extend plan.grow)
  Edit.write plan.answerStart response.answerSection
  Edit.write plan.layout.dns response.header.encode
  writeLengths plan
  turnAround plan.layout settings
  writeHeaderChecksum plan.layout.inner
  writeDatagramChecksum plan.layout settings

/-- Plan a reply and write it into the frame of its query. -/
def reply (layout : Packet.Layout) (response : Dns.Response) (querySize : Nat)
    (settings : Settings) : Edit Unit := do
  let frame ← get
  let plan ← Edit.attempt
    (plan frame layout response.answerSection.length querySize settings)
  carryOut plan response settings

end Reply
end DnsResponder
