import DnsResponder.Checksum
import DnsResponder.Packet.Layout
import DnsResponder.Settings

namespace DnsResponder
namespace Reply

/-!
# Planning a reply in the frame of its query

A reply takes the place of its query: the tunnel header in front may be left out, the message header
is written over, and the answer section follows the question, up to the new end of the frame.  The
plan decides every size and offset of this and checks every limit against the untouched frame, so
that a query which cannot be answered is refused before the first octet changes.
-/

def maxLengthField : Nat := 65535

/-- By how much the frame grows so that the answer section ends at its end.  An answer cannot start
past the frame, and the frame is never cut. -/
def growth (frameSize answerStart replySize : Nat) : Except Refusal Nat :=
  if frameSize < answerStart then .error (.reply .answerPastEnd)
  else if answerStart + replySize < frameSize then .error (.reply .wouldShrink)
  else .ok (answerStart + replySize - frameSize)

/-- A reply that fits, with offsets in the frame as it will be. -/
structure Plan where
  strip : Nat
  grow : Nat
  layout : Packet.Layout
  answerStart : Nat
  newSize : Nat
deriving DecidableEq

def refuseIf (condition : Prop) [Decidable condition] (cause : ReplyError) : Except Stop Unit :=
  if condition then .error (.refused (.reply cause)) else .ok ()

/-- The layout after `strip` octets have been left out in front of the inner header. -/
def shifted (layout : Packet.Layout) (strip : Nat) : Except Stop Packet.Layout := do
  let inner ← Stop.difference layout.inner.offset strip
  let udp ← Stop.difference layout.udp strip
  let dns ← Stop.difference layout.dns strip
  return { layout with
    outer := if 0 < strip then none else layout.outer
    inner := { layout.inner with offset := inner }
    udp, dns }

/-- Whether the reply carries a computed UDP checksum. -/
def isChecksummed (layout : Packet.Layout) (settings : Settings) : Bool :=
  match layout.inner.family with
  | .v6 => true
  | .v4 => settings.udp4Checksum == .compute

/-- Check the limits that hang on the sizes of the layers of the reply. -/
def checkSizes (layout : Packet.Layout) (newSize : Nat) (settings : Settings) :
    Except Stop Unit := do
  let datagramSize ← Stop.difference newSize layout.udp
  refuseIf (maxLengthField < datagramSize) .lengthOverflow
  refuseIf (isChecksummed layout settings ∧ Checksum.maxDatagramSize < datagramSize)
    .overChecksumCeiling
  refuseIf (maxLengthField < (← Stop.difference newSize layout.inner.offset)) .lengthOverflow
  match layout.outer with
  | some outer =>
    refuseIf (maxLengthField < (← Stop.difference newSize outer.offset)) .lengthOverflow
  | none => return ()

/-- Plan the reply to a query whose question counts `querySize` octets. -/
def plan (frame : Frame) (layout : Packet.Layout) (replySize querySize : Nat)
    (settings : Settings) : Except Stop Plan := do
  let answerStart := layout.dns + Header.dns.size + querySize
  let grow ← Stop.ofRefusal (growth frame.size answerStart replySize)
  refuseIf (frame.tailroom < grow) .noTailroom
  let strip := layout.stripSize
  let layout ← shifted layout strip
  let newSize ← Stop.difference (frame.size + grow) strip
  checkSizes layout newSize settings
  return { strip, grow, layout, answerStart := ← Stop.difference answerStart strip, newSize }

end Reply
end DnsResponder
