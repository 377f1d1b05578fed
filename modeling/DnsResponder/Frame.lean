import DnsResponder.Bytes

namespace DnsResponder

/-!
# A frame inside its window

A frame occupies a stretch of a fixed window: the octets before it are headroom and those after it
tailroom.  The frame can give octets up at its head, where they become headroom, and can grow into
the tailroom, where new octets read as zero.  It is never cut at its end, and nothing outside the
frame is ever written except by growing over it.

The window is kept in its three parts, so that the position and the limits of the frame are lengths
and cannot disagree with the octets.  An operation that moves an end of the frame hands the frame back
whether it succeeds or not.
-/

/-- An access that the bounds of a frame or of its window forbid. -/
inductive BoundsError
  | readPastEnd (offset size limit : Nat)
  | noTailroom (requested available : Nat)
  | headOverrun (requested size : Nat)
  | badWindow (head size capacity : Nat)
deriving DecidableEq

def BoundsError.message : BoundsError → String
  | .readPastEnd offset size limit => s!"{size} byte read at offset {offset} passes end {limit}"
  | .noTailroom requested available =>
    s!"growing by {requested} bytes exceeds tailroom of {available}"
  | .headOverrun requested size =>
    s!"cannot advance head by {requested} bytes in a {size} byte frame"
  | .badWindow head size capacity =>
    s!"frame [{head}, {head}+{size}) does not fit a {capacity} byte window"

/-- A window in three parts: the octets before the frame, the frame, and the octets after it. -/
structure Frame where
  before : Bytes
  octets : Bytes
  after : Bytes
deriving DecidableEq

namespace Frame

/-- The frame of `size` octets that starts at offset `head` of a window. -/
def ofWindow (window : Bytes) (head size : Nat) : Except BoundsError Frame :=
  if head + size ≤ window.length then
    .ok ⟨window.take head, (window.drop head).take size, window.drop (head + size)⟩
  else
    .error (.badWindow head size window.length)

def window (frame : Frame) : Bytes :=
  frame.before ++ frame.octets ++ frame.after

/-- Offset of the first frame octet inside the window. -/
def head (frame : Frame) : Nat :=
  frame.before.length

/-- Octets in the frame. -/
def size (frame : Frame) : Nat :=
  frame.octets.length

/-- Octets by which the frame can still grow. -/
def tailroom (frame : Frame) : Nat :=
  frame.after.length

/-- What moving an end of a frame comes to, with the frame that it leaves. -/
abbrev Outcome := EStateM.Result BoundsError Frame Unit

/-- Grow the frame by zeroed octets taken from the tailroom. -/
def extend (frame : Frame) (amount : Nat) : Outcome :=
  if amount ≤ frame.tailroom then
    .ok () { frame with
      octets := frame.octets ++ List.replicate amount 0
      after := frame.after.drop amount }
  else
    .error (.noTailroom amount frame.tailroom) frame

/-- Give up octets at the head of the frame; they become headroom. -/
def advance (frame : Frame) (amount : Nat) : Outcome :=
  if amount ≤ frame.size then
    .ok () { frame with
      before := frame.before ++ frame.octets.take amount
      octets := frame.octets.drop amount }
  else
    .error (.headOverrun amount frame.size) frame

/-- Put octets made from the frame's own in their place. -/
def change? (frame : Frame) (make : Bytes → Option Bytes) : Option Frame :=
  (make frame.octets).map fun octets => { frame with octets }

/-- Write octets over the frame's own from `offset`, if all of these exist. -/
def write? (frame : Frame) (offset : Nat) (octets : Bytes) : Option Frame :=
  frame.change? (·.patch? offset octets)

def fill (frame : Frame) (octet : UInt8) : Frame :=
  { frame with octets := frame.octets.map fun _ => octet }

@[simp]
theorem window_ofWindow {window : Bytes} {head size : Nat} {frame : Frame}
    (made : ofWindow window head size = .ok frame) : frame.window = window := by
  unfold ofWindow at made
  split at made
  · cases made
    simp only [Frame.window, ← List.drop_drop, List.append_assoc, List.take_append_drop]
  · cases made

theorem length_window_extend {frame grown : Frame} {amount : Nat}
    (made : frame.extend amount = .ok () grown) : grown.window.length = frame.window.length := by
  unfold extend at made
  split at made
  · cases made
    simp only [Frame.window, List.length_append, List.length_replicate, List.length_drop]
    simp only [tailroom] at *
    omega
  · cases made

theorem length_window_write? {frame written : Frame} {offset : Nat} {octets : Bytes}
    (made : frame.write? offset octets = some written) :
    written.window.length = frame.window.length := by
  obtain ⟨changed, found, rfl⟩ := Option.map_eq_some_iff.mp made
  simp [Frame.window, Bytes.length_of_patch? found]

theorem window_advance {frame moved : Frame} {amount : Nat}
    (made : frame.advance amount = .ok () moved) : moved.window = frame.window := by
  unfold advance at made
  split at made
  · cases made
    simp only [Frame.window, List.append_assoc]
    rw [← List.append_assoc (List.take _ _), List.take_append_drop]
  · cases made

end Frame
end DnsResponder
