import DnsResponder.Bytes

namespace DnsResponder

/-!
# The capture queue

An observer can receive a copy of each transmitted frame through a bounded queue.  Sending never
waits: it fails when the queue is full, and when the receiver is gone.  A queue without capacity is
always full, since nobody waits at its other end.
-/

/-- The decision on a frame: leave it to the network stack, or send it back out. -/
inductive Action
  | pass
  | transmit
deriving DecidableEq

/-- The number that hosts know a decision by. -/
def Action.code : Action → Nat
  | .pass => 0
  | .transmit => 1

/-- A decision and the frame it was taken on. -/
structure CapturedFrame where
  action : Action
  octets : Bytes
deriving DecidableEq

/-- Why a frame was not captured. -/
inductive CaptureError
  | full
  | disconnected
deriving DecidableEq

def CaptureError.message : CaptureError → String
  | .full => "capture queue full"
  | .disconnected => "capture receiver disconnected"

/-- A bounded queue of captured frames, the oldest first. -/
structure CaptureQueue where
  capacity : Nat
  waiting : List CapturedFrame := []
  connected : Bool := true

namespace CaptureQueue

def send (queue : CaptureQueue) (frame : CapturedFrame) : Except CaptureError CaptureQueue :=
  if !queue.connected then .error .disconnected
  else if queue.capacity ≤ queue.waiting.length then .error .full
  else .ok { queue with waiting := queue.waiting ++ [frame] }

def receive (queue : CaptureQueue) : Option CapturedFrame × CaptureQueue :=
  match queue.waiting with
  | [] => (none, queue)
  | frame :: rest => (some frame, { queue with waiting := rest })

def receiveAll (queue : CaptureQueue) : List CapturedFrame × CaptureQueue :=
  (queue.waiting, { queue with waiting := [] })

/-- The queue after its receiver has gone; what was waiting is lost. -/
def disconnect (queue : CaptureQueue) : CaptureQueue :=
  { queue with waiting := [], connected := false }

end CaptureQueue
end DnsResponder
