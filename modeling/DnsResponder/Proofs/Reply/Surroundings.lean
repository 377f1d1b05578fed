import DnsResponder.Reply.Edit

namespace DnsResponder

/-!
# Edits do not see what surrounds a frame

A window is used again and again, so the octets around a frame are those of older packets.  An edit
grows the frame over some of them and gives others up, but nothing that it does depends on them, or on
how many there are in front.

`Alike` relates a frame in one window to a frame in another: the octets are the same and so is the
room behind them, and the heads have moved by the same distance.  An edit is *blind* when it turns
frames that are alike into frames that are alike, with the same result, or stops for the same reason.
This is said of edits that stop half-way as well, so it needs no plan that fits.
-/

namespace Frame

/-- The same frame in two windows, where the heads once were at `here` and `there`. -/
structure Alike (here there : Nat) (first second : Frame) : Prop where
  octets : first.octets = second.octets
  tailroom : first.tailroom = second.tailroom
  heads : ∃ distance, first.head = here + distance ∧ second.head = there + distance

variable {here there : Nat} {first second : Frame}

theorem Alike.size (alike : Alike here there first second) : first.size = second.size :=
  congrArg List.length alike.octets

end Frame

namespace Reply
namespace Edit

variable {α β : Type} {here there : Nat} {first second : Frame}

/-- Two results that are the same but for related frames. -/
inductive SameResult (related : Frame → Frame → Prop) :
    EStateM.Result Stop Frame α → EStateM.Result Stop Frame α → Prop
  | ok (value : α) {first second : Frame} (kept : related first second) :
    SameResult related (.ok value first) (.ok value second)
  | error (stop : Stop) {first second : Frame} (kept : related first second) :
    SameResult related (.error stop first) (.error stop second)

/-- The edit sees only the octets of the frame and the room behind them. -/
def Blind (edit : Edit α) : Prop :=
  ∀ (here there : Nat) (first second : Frame), Frame.Alike here there first second →
    SameResult (Frame.Alike here there) (edit.run first) (edit.run second)

/-! ## Single steps -/

theorem blind_pure (value : α) : (pure value : Edit α).Blind :=
  fun _ _ _ _ alike => .ok value alike

theorem Blind.bind {edit : Edit α} {rest : α → Edit β} (blind : edit.Blind)
    (later : ∀ value, (rest value).Blind) : (edit >>= rest).Blind := by
  intro here there first second alike
  have same := blind here there first second alike
  simp only [EStateM.run, Bind.bind, EStateM.bind] at same ⊢
  generalize edit first = one at same ⊢
  generalize edit second = two at same ⊢
  cases same with
  | ok value kept => exact later value here there _ _ kept
  | error stop kept => exact .error stop kept

theorem blind_attempt (result : Except Stop α) : (attempt result).Blind := by
  intro here there first second alike
  cases result with
  | ok value => exact .ok value alike
  | error stop => exact .error stop alike

theorem blind_orRefuse (value : Option α) (cause : ReplyError) : (orRefuse value cause).Blind :=
  blind_attempt _

theorem blind_read (look : Bytes → Option α) : (read look).Blind := by
  intro here there first second alike
  simp only [EStateM.run, read, alike.octets]
  cases look second.octets with
  | none => exact .error _ alike
  | some value => exact .ok value alike

theorem blind_slice (offset size : Nat) : (slice offset size).Blind :=
  blind_read _

/-- Octets that are made from the frame's own are the same in both windows. -/
theorem blind_change (make : Bytes → Option Bytes) : (step (·.change? make)).Blind := by
  intro here there first second alike
  simp only [EStateM.run, step, Frame.change?, alike.octets]
  cases make second.octets with
  | none => exact .error _ alike
  | some octets => exact .ok () ⟨rfl, alike.tailroom, alike.heads⟩

theorem blind_write (offset : Nat) (octets : Bytes) : (write offset octets).Blind :=
  blind_change (·.patch? offset octets)

theorem blind_writeWord (offset : Nat) (value : UInt16) : (writeWord offset value).Blind :=
  blind_write offset (Bytes.ofWord value)

/-- The octets that a frame grows over are not read: the new ones are zeros. -/
theorem blind_extend (amount : Nat) : (move (·.extend amount)).Blind := by
  intro here there first second alike
  simp only [EStateM.run, move, Frame.extend, alike.tailroom]
  by_cases room : amount ≤ second.tailroom
  · simp only [if_pos room]
    refine .ok () ⟨congrArg (· ++ _) alike.octets, ?_, alike.heads⟩
    have tailroom : first.after.length = second.after.length := alike.tailroom
    simp only [Frame.tailroom, List.length_drop, tailroom]
  · simp only [if_neg room]
    exact .error _ alike

theorem blind_advance (amount : Nat) : (move (·.advance amount)).Blind := by
  intro here there first second alike
  simp only [EStateM.run, move, Frame.advance, alike.size]
  by_cases inside : amount ≤ second.size
  · simp only [if_pos inside]
    rcases alike.heads with ⟨distance, heads⟩
    have given : (second.octets.take amount).length = amount := List.length_take_of_le inside
    refine .ok () ⟨congrArg (List.drop amount) alike.octets, alike.tailroom, distance + amount, ?_⟩
    simp only [Frame.head, List.length_append, alike.octets, given] at heads ⊢
    omega
  · simp only [if_neg inside]
    exact .error _ alike

/-- An edit may look at the whole frame when it makes nothing of what surrounds it. -/
theorem blind_get {rest : Frame → Edit α} (blind : ∀ frame, (rest frame).Blind)
    (unseen : ∀ {here there : Nat} {first second : Frame}, Frame.Alike here there first second →
      rest first = rest second) : ((get : Edit Frame) >>= rest).Blind := by
  intro here there first second alike
  have run (frame : Frame) : ((get : Edit Frame) >>= rest).run frame = (rest frame).run frame := rfl
  rw [run, run, unseen alike]
  exact blind second here there first second alike

end Edit
open Edit

/-! ## The steps of a reply -/

theorem blind_leaveTunnel (plan : Plan) : (leaveTunnel plan).Blind := by
  rw [leaveTunnel]
  split
  · apply (blind_slice _ _).bind
    intro link
    apply (blind_write _ _).bind
    intro _
    apply (blind_advance _).bind
    intro _
    exact blind_writeWord _ _
  · exact blind_pure ()

theorem blind_writeIpLength (header : Packet.IpHeader) (newSize : Nat) :
    (writeIpLength header newSize).Blind := by
  apply (blind_attempt _).bind
  intro packetSize
  split
  · exact blind_writeWord _ _
  · apply (blind_attempt _).bind
    intro payloadSize
    exact blind_writeWord _ _

theorem blind_writeLengths (plan : Plan) : (writeLengths plan).Blind := by
  apply (blind_attempt _).bind
  intro datagramSize
  apply (blind_writeWord _ _).bind
  intro _
  apply (blind_writeWord _ _).bind
  intro _
  apply (blind_writeIpLength _ _).bind
  intro _
  split
  · exact blind_writeIpLength _ _
  · exact blind_pure ()

theorem blind_turnAround (layout : Packet.Layout) (settings : Settings) :
    (turnAround layout settings).Blind := by
  apply (blind_change _).bind
  intro _
  split
  · split
    · exact blind_write _ _
    · exact blind_pure ()
  · exact blind_pure ()

theorem blind_writeHeaderChecksum (inner : Packet.IpHeader) : (writeHeaderChecksum inner).Blind := by
  rw [writeHeaderChecksum]
  split
  · apply (blind_slice _ _).bind
    intro header
    apply (blind_attempt _).bind
    intro found
    apply (blind_orRefuse _ _).bind
    intro sum
    exact blind_writeWord _ _
  · exact blind_pure ()

theorem blind_writeDatagramChecksum (layout : Packet.Layout) (settings : Settings) :
    (writeDatagramChecksum layout settings).Blind := by
  apply (blind_read _).bind
  intro datagram
  split
  · apply (blind_slice _ _).bind
    intro source
    apply (blind_slice _ _).bind
    intro destination
    apply (blind_orRefuse _ _).bind
    intro sum
    exact blind_writeWord _ _
  · exact blind_pure ()

theorem blind_carryOut (plan : Plan) (response : Dns.Response) (settings : Settings) :
    (carryOut plan response settings).Blind := by
  apply (blind_leaveTunnel plan).bind
  intro _
  apply (blind_extend _).bind
  intro _
  apply (blind_write _ _).bind
  intro _
  apply (blind_write _ _).bind
  intro _
  apply (blind_writeLengths plan).bind
  intro _
  apply (blind_turnAround _ settings).bind
  intro _
  apply (blind_writeHeaderChecksum _).bind
  intro _
  exact blind_writeDatagramChecksum _ settings

/-- A plan is made from the size of the frame and the room behind it. -/
theorem plan_eq_of_alike {here there : Nat} {first second : Frame}
    (alike : Frame.Alike here there first second) (layout : Packet.Layout)
    (replySize querySize : Nat) (settings : Settings) :
    plan first layout replySize querySize settings =
      plan second layout replySize querySize settings := by
  simp only [plan, alike.size, alike.tailroom]

theorem blind_reply (layout : Packet.Layout) (response : Dns.Response) (querySize : Nat)
    (settings : Settings) : (reply layout response querySize settings).Blind := by
  apply blind_get
  · intro frame
    apply (blind_attempt _).bind
    intro plan
    exact blind_carryOut plan response settings
  · intro here there first second alike
    simp only [plan_eq_of_alike alike]

end Reply
end DnsResponder
