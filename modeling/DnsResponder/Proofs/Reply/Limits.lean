import DnsResponder.Proofs.Reply.Plan

namespace DnsResponder
namespace Reply

open Packet

/-!
# Exactly the replies without an obstacle are planned

What can keep a reply from taking the place of its query is listed here by sizes alone: of the frame,
of its tailroom, and of what the reply puts into the length fields.  A query is refused exactly when
something on the list stands in the way, the refusal names it, and otherwise the reply is where the
layout of the query, moved up by what is left out, says.

The packet around a tunnel header that stays is counted with that header, although the length field
of IPv6 leaves it out, so a reply can be refused for a field that would hold its value.  For the
packet inside it does not matter which of the two is counted: a datagram over IPv6 carries a
checksum, and that limits its size long before.

Everything is measured in the frame of the query.  What a reply leaves out stands in front of all the
headers that are measured, so the sizes are those in the frame of the reply.
-/

/-! ## Sizes -/

/-- Where the question ends, by what is counted to it. -/
def questionEnd (layout : Layout) (querySize : Nat) : Nat :=
  layout.dns + Header.dns.size + querySize

/-- Where the answer section behind the question ends. -/
def replyEnd (layout : Layout) (querySize replySize : Nat) : Nat :=
  questionEnd layout querySize + replySize

/-- What the length field of an IP header says of the octets up to an end: all from the header on for
IPv4, what follows the header for IPv6. -/
def lengthField (header : IpHeader) (stop : Nat) : Nat :=
  match header.family with
  | .v4 => stop - header.offset
  | .v6 => stop - header.stop

/-- The size of the packet with this header that reaches up to an end. -/
def packetSize (header : IpHeader) (stop : Nat) : Nat :=
  stop - header.offset

theorem lengthField_le_packetSize (header : IpHeader) (stop : Nat) :
    lengthField header stop ≤ packetSize header stop := by
  rcases header with ⟨family, offset, size⟩
  cases family with
  | v4 => exact Nat.le_refl _
  | v6 => exact Nat.sub_le_sub_left (Nat.le_add_right ..) stop

/-- Where the length field stands in an IP header. -/
def lengthFieldOffset : Family → Nat
  | .v4 => 2
  | .v6 => 4

/-- The length fields of a reply are written as `lengthField` says. -/
theorem writeIpLength_eq {header : IpHeader} {stop : Nat} (whole : header.stop ≤ stop) :
    writeIpLength header stop =
      Edit.writeWord (header.offset + lengthFieldOffset header.family)
        (UInt16.ofNat (lengthField header stop)) := by
  rcases header with ⟨family, offset, size⟩
  have packet : Stop.difference stop offset = .ok (stop - offset) :=
    Stop.difference_eq (by simp only [IpHeader.stop] at whole; omega)
  have payload : Stop.difference (stop - offset) size = .ok (stop - (offset + size)) :=
    Stop.difference_eq (by simp only [IpHeader.stop] at whole; omega)
  funext frame
  cases family with
  | v4 =>
    simp only [writeIpLength, packet]
    rfl
  | v6 =>
    simp only [writeIpLength, packet]
    exact congrArg (fun result => (Edit.attempt result >>= fun payloadSize =>
      Edit.writeWord (offset + 4) (UInt16.ofNat payloadSize)) frame) payload

/-! ## Obstacles -/

/-- The tunnel header that stays in a reply. -/
def keptHeader (layout : Layout) : Option IpHeader :=
  if 0 < layout.stripSize then none else layout.outer

/-- What keeps a reply from taking the place of its query, with the error that names it.  How the
packet around a kept tunnel header is measured is left open. -/
inductive Obstacle (measure : IpHeader → Nat → Nat) (frame : Frame) (layout : Layout)
    (replySize querySize : Nat) (settings : Settings) : ReplyError → Prop
  | startsPastEnd (past : frame.size < questionEnd layout querySize) :
    Obstacle measure frame layout replySize querySize settings .answerPastEnd
  | endsInside (short : replyEnd layout querySize replySize < frame.size) :
    Obstacle measure frame layout replySize querySize settings .wouldShrink
  | lacksRoom (grows : frame.tailroom < replyEnd layout querySize replySize - frame.size) :
    Obstacle measure frame layout replySize querySize settings .noTailroom
  | longDatagram (long : maxLengthField < replyEnd layout querySize replySize - layout.udp) :
    Obstacle measure frame layout replySize querySize settings .lengthOverflow
  | longPacket (long : maxLengthField <
      lengthField layout.inner (replyEnd layout querySize replySize)) :
    Obstacle measure frame layout replySize querySize settings .lengthOverflow
  | longTunnel {outer : IpHeader} (kept : keptHeader layout = some outer)
      (long : maxLengthField < measure outer (replyEnd layout querySize replySize)) :
    Obstacle measure frame layout replySize querySize settings .lengthOverflow
  | overCeiling (computed : layout.inner.family = .v6 ∨ settings.udp4Checksum = .compute)
      (long : Checksum.maxDatagramSize < replyEnd layout querySize replySize - layout.udp) :
    Obstacle measure frame layout replySize querySize settings .overChecksumCeiling

/-- A stop that is a refusal and names an obstacle. -/
def NamesObstacle (frame : Frame) (layout : Layout) (replySize querySize : Nat)
    (settings : Settings) (stop : Stop) : Prop :=
  ∃ cause, stop = .refused (.reply cause)
    ∧ Obstacle packetSize frame layout replySize querySize settings cause

/-! ## Where a reply is placed -/

/-- A layout that has moved up by what is left out in front of the inner header.  The tunnel header
is gone exactly when something is left out. -/
structure MovedUp (strip : Nat) (before after : Layout) : Prop where
  link : after.linkSize = before.linkSize
  ethertype : after.ethertypeOffset = before.ethertypeOffset
  outer : after.outer = if 0 < strip then none else before.outer
  inner : before.inner = { after.inner with offset := strip + after.inner.offset }
  udp : before.udp = strip + after.udp
  dns : before.dns = strip + after.dns

theorem movedUp_of_shifted {layout moved : Layout} {strip : Nat}
    (found : shifted layout strip = .ok moved) : MovedUp strip layout moved := by
  simp only [shifted, bind_eq_ok_iff, Stop.difference_eq_ok_iff] at found
  rcases found with ⟨inner, innerMoved, udp, udpMoved, dns, dnsMoved, made⟩
  cases made
  refine ⟨rfl, rfl, rfl, ?_, udpMoved, dnsMoved⟩
  rw [← innerMoved]

/-- The places that a plan gives to a reply. -/
structure Placed (frame : Frame) (layout : Layout) (replySize querySize : Nat) (found : Plan) :
    Prop where
  strip : found.strip = layout.stripSize
  moved : MovedUp found.strip layout found.layout
  starts : found.strip + found.answerStart = questionEnd layout querySize
  grows : frame.size + found.grow = replyEnd layout querySize replySize
  ends : found.newSize = found.answerStart + replySize

variable {frame : Frame} {layout : Layout} {replySize querySize : Nat} {settings : Settings}
  {cause : ReplyError}

theorem NamesObstacle.of
    (obstacle : Obstacle packetSize frame layout replySize querySize settings cause) :
    NamesObstacle frame layout replySize querySize settings (.refused (.reply cause)) :=
  ⟨cause, rfl, obstacle⟩

/-- Whatever layout it is made for, a plan places the reply by it. -/
theorem placed_of_plan {found : Plan}
    (planned : plan frame layout replySize querySize settings = .ok found) :
    Placed frame layout replySize querySize found := by
  simp only [plan, bind_eq_ok_iff, Stop.ofRefusal_eq_ok_iff, growth_eq_ok_iff,
    Stop.difference_eq_ok_iff] at planned
  rcases planned with ⟨grow, ⟨-, grown⟩, -, -, moved, movedUp, newSize, sized, -, -, answerStart,
    placed, made⟩
  cases made
  refine ⟨rfl, movedUp_of_shifted movedUp, placed.symm, grown, ?_⟩
  have alike : layout.stripSize + newSize = layout.stripSize + (answerStart + replySize) := by
    rw [← sized, grown, placed, Nat.add_assoc]
  exact Nat.add_left_cancel alike

/-! ## Refusals name obstacles -/

theorem stopsOnlyFor_refuseIf {condition : Prop} [Decidable condition] {cause : ReplyError}
    {kind : Stop → Prop} (allowed : condition → kind (.refused (.reply cause))) :
    StopsOnlyFor kind (refuseIf condition cause) := by
  rw [refuseIf]
  split
  · next holds => exact stopsOnlyFor_error (allowed holds)
  · exact stopsOnlyFor_ok ()

section Located

variable {parts : Dissection}

theorem keptHeader_layout (parts : Dissection) :
    keptHeader parts.layout = parts.keptOuter.map (·.header parts.link.size) :=
  (movedUp_of_shifted (shifted_layout parts)).outer.symm

/-! The end of a reply, as it is seen from each header. -/

theorem replyEnd_of_message (parts : Dissection) (querySize replySize : Nat) :
    replyEnd parts.layout querySize replySize =
      parts.messageOffset + messageSize querySize replySize := by
  simp only [replyEnd, questionEnd, messageSize, Dissection.layout]
  omega

theorem replyEnd_of_datagram (parts : Dissection) (querySize replySize : Nat) :
    replyEnd parts.layout querySize replySize =
      parts.layout.udp + (Header.udp.size + messageSize querySize replySize) := by
  rw [replyEnd_of_message, ← Nat.add_assoc]
  rfl

theorem replyEnd_of_packet (parts : Dissection) (querySize replySize : Nat) :
    replyEnd parts.layout querySize replySize = parts.layout.inner.offset +
      (parts.inner.size + Header.udp.size + messageSize querySize replySize) := by
  rw [replyEnd_of_message, ← Nat.add_assoc, ← Nat.add_assoc]
  rfl

theorem replyEnd_of_tunnel {outer : IpFields} (kept : parts.keptOuter = some outer) :
    replyEnd parts.layout querySize replySize = parts.link.size + (outer.size + parts.inner.size
      + Header.udp.size + messageSize querySize replySize) := by
  have outerSize := Dissection.outerSize_of_some (Dissection.of_keptOuter kept).2.1
  simp only [replyEnd_of_message, Dissection.messageOffset, Dissection.udpOffset,
    Dissection.innerOffset, outerSize, Nat.add_assoc]

/-- A reply that fits meets no obstacle. -/
theorem not_obstacle_of_fits (size : frame.size = parts.messageOffset + parts.message.length)
    (fits : Fits parts frame.tailroom querySize replySize settings) :
    ¬ Obstacle packetSize frame parts.layout replySize querySize settings cause := by
  rcases fits with ⟨starts, covers, room, datagram, checksum, packet, tunnel⟩
  have message := replyEnd_of_message parts querySize replySize
  intro obstacle
  cases obstacle with
  | startsPastEnd past =>
    simp only [questionEnd, Dissection.layout] at past
    omega
  | endsInside short => omega
  | lacksRoom grows => omega
  | longDatagram long =>
    rw [replyEnd_of_datagram, Nat.add_sub_cancel_left] at long
    exact absurd long (Nat.not_lt_of_le datagram)
  | longPacket long =>
    have whole : lengthField parts.layout.inner (replyEnd parts.layout querySize replySize) ≤
        packetSize parts.layout.inner (replyEnd parts.layout querySize replySize) :=
      lengthField_le_packetSize ..
    rw [packetSize, replyEnd_of_packet, Nat.add_sub_cancel_left, ← replyEnd_of_packet] at whole
    omega
  | longTunnel kept long =>
    rw [keptHeader_layout] at kept
    rcases Option.map_eq_some_iff.mp kept with ⟨outer, stays, rfl⟩
    rw [packetSize, replyEnd_of_tunnel stays, IpFields.header, Nat.add_sub_cancel_left] at long
    exact absurd long (Nat.not_lt_of_le (tunnel outer stays))
  | overCeiling computed long =>
    rw [replyEnd_of_datagram, Nat.add_sub_cancel_left] at long
    exact absurd long (Nat.not_lt_of_le (checksum ((isChecksummed_iff parts settings).mpr computed)))

/-- What is too long for a packet is too large for its length field.  The field of IPv6 leaves the
header out, but such a packet would have been refused before, for the checksum of its datagram. -/
theorem long_field_of_long_packet
    (long : maxLengthField <
      parts.inner.size + Header.udp.size + messageSize querySize replySize)
    (summed : parts.layout.inner.family = .v6 →
      Header.udp.size + messageSize querySize replySize ≤ Checksum.maxDatagramSize) :
    maxLengthField < lengthField parts.layout.inner (replyEnd parts.layout querySize replySize) := by
  have family : parts.layout.inner.family = parts.inner.family := rfl
  cases inner : parts.inner with
  | v4 fields =>
    rw [lengthField, family, inner]
    show maxLengthField < replyEnd parts.layout querySize replySize - parts.layout.inner.offset
    rw [replyEnd_of_packet, Nat.add_sub_cancel_left]
    exact long
  | v6 fields =>
    have ceiling : Header.ipv6.size + Checksum.maxDatagramSize ≤ maxLengthField := by decide
    have size : parts.inner.size = Header.ipv6.size := by rw [inner]; rfl
    have short := summed (family.trans (by rw [inner]; rfl))
    omega

/-- A check of the sizes of the layers that fails names an obstacle. -/
theorem stopsOnlyFor_sizes {newSize : Nat}
    (ends : parts.layout.stripSize + newSize = replyEnd parts.layout querySize replySize) :
    StopsOnlyFor (NamesObstacle frame parts.layout replySize querySize settings)
      (checkSizes parts.unwrapped.layout newSize settings) := by
  have moved := movedUp_of_shifted (shifted_layout parts)
  have datagramEnd := replyEnd_of_datagram parts querySize replySize
  have packetEnd := replyEnd_of_packet parts querySize replySize
  have udp := moved.udp
  have inner : parts.layout.inner.offset =
      parts.layout.stripSize + parts.unwrapped.layout.inner.offset := parts.innerOffset_eq
  refine (stopsOnlyFor_difference (by omega)).bind fun datagramSize datagramSized => ?_
  rw [Stop.difference_eq_ok_iff] at datagramSized
  refine (stopsOnlyFor_refuseIf fun long => .of (.longDatagram (by omega))).bind fun _ _ => ?_
  have summed : isChecksummed parts.unwrapped.layout settings = true ↔
      parts.layout.inner.family = .v6 ∨ settings.udp4Checksum = .compute :=
    isChecksummed_iff parts settings
  refine (stopsOnlyFor_refuseIf fun excessive =>
    .of (.overCeiling (summed.mp excessive.1) (by omega))).bind fun _ short => ?_
  rw [refuseIf_eq_ok_iff, summed] at short
  refine (stopsOnlyFor_difference (by omega)).bind fun packet packetSized => ?_
  rw [Stop.difference_eq_ok_iff] at packetSized
  have sized : packet = parts.inner.size + Header.udp.size + messageSize querySize replySize := by
    omega
  have datagram : datagramSize = Header.udp.size + messageSize querySize replySize := by omega
  rw [datagram] at short
  have fitting (six : parts.layout.inner.family = .v6) :
      Header.udp.size + messageSize querySize replySize ≤ Checksum.maxDatagramSize :=
    Nat.le_of_not_lt fun excessive => short ⟨.inl six, excessive⟩
  refine (stopsOnlyFor_refuseIf fun long =>
    .of (.longPacket (long_field_of_long_packet (sized ▸ long) fitting))).bind fun _ _ => ?_
  cases kept : keptHeader parts.layout with
  | none =>
    rw [moved.outer, ← keptHeader, kept]
    exact stopsOnlyFor_ok ()
  | some outer =>
    rw [moved.outer, ← keptHeader, kept]
    have stays := kept
    rw [keptHeader_layout] at stays
    rcases Option.map_eq_some_iff.mp stays with ⟨tunnel, keptOuter, rfl⟩
    have link : (tunnel.header parts.link.size).offset = parts.link.size := rfl
    have tunnelEnd : replyEnd parts.layout querySize replySize = parts.link.size + _ :=
      replyEnd_of_tunnel keptOuter
    have nothing := (Dissection.of_keptOuter keptOuter).2.2
    refine (stopsOnlyFor_difference (by omega)).bind fun size sized => ?_
    rw [Stop.difference_eq_ok_iff] at sized
    refine stopsOnlyFor_refuseIf fun long => .of (.longTunnel kept ?_)
    rw [packetSize]
    omega

/-- A plan is refused only with an error that names an obstacle. -/
theorem stopsOnlyFor_obstacles (whole : frame.octets = parts.octets) :
    StopsOnlyFor (NamesObstacle frame parts.layout replySize querySize settings)
      (plan frame parts.layout replySize querySize settings) := by
  have size := Dissection.size_of_octets whole
  have offset := parts.messageOffset_eq
  have grown : StopsOnlyFor (NamesObstacle frame parts.layout replySize querySize settings)
      (Stop.ofRefusal (growth frame.size (questionEnd parts.layout querySize) replySize)) := by
    apply StopsOnlyFor.ofRefusal
    rw [growth]
    split
    · next past => exact stopsOnlyFor_error (.of (.startsPastEnd past))
    · split
      · next short => exact stopsOnlyFor_error (.of (.endsInside short))
      · exact stopsOnlyFor_ok _
  refine grown.bind fun grow growing => ?_
  rw [Stop.ofRefusal_eq_ok_iff, growth_eq_ok_iff] at growing
  have room : replyEnd parts.layout querySize replySize - frame.size = grow := by
    rw [replyEnd, ← growing.2, Nat.add_sub_cancel_left]
  refine (stopsOnlyFor_refuseIf fun lacks => .of (.lacksRoom (room ▸ lacks))).bind fun _ _ => ?_
  have moved : StopsOnlyFor (NamesObstacle frame parts.layout replySize querySize settings)
      (shifted parts.layout parts.layout.stripSize) := by
    rw [shifted_layout]
    exact stopsOnlyFor_ok _
  refine moved.bind fun layout found => ?_
  rw [shifted_layout] at found
  obtain rfl := Except.ok.inj found
  -- the headers nest, so what is left out in front of them is never more than they count
  have outside : parts.layout.stripSize ≤ questionEnd parts.layout querySize := by
    simp only [questionEnd, Dissection.layout] at offset ⊢
    omega
  refine (stopsOnlyFor_difference (by omega)).bind fun newSize sized => ?_
  rw [Stop.difference_eq_ok_iff] at sized
  refine (stopsOnlyFor_sizes (by rw [replyEnd]; omega)).bind fun _ _ => ?_
  exact (stopsOnlyFor_difference outside).bind fun _ _ => stopsOnlyFor_ok _

/-! ### Limits -/

/-- Whether an error names a limit that a reply can run into. -/
def isLimit : ReplyError → Bool
  | .wouldShrink | .noTailroom | .overChecksumCeiling | .lengthOverflow => true
  | .answerPastEnd | .sectionFull | .badIpv4HeaderSize => false

/-- Why the reply to a question of some size is not planned: it would break a limit, or the message
ends within the question. -/
def Unplanned (parts : Dissection) (querySize : Nat) (stop : Stop) : Prop :=
  ∃ cause, stop = .refused (.reply cause) ∧ (isLimit cause = true
    ∨ cause = .answerPastEnd ∧ parts.message.length < Header.dns.size + querySize)

/-- A plan is made or refused for a limit, and never lacks an octet or a size, whatever is counted to
the question. -/
theorem stopsOnlyFor_plan (whole : frame.octets = parts.octets) :
    StopsOnlyFor (Unplanned parts querySize)
      (plan frame parts.layout replySize querySize settings) := by
  have size := Dissection.size_of_octets whole
  refine (stopsOnlyFor_obstacles whole).mono fun stop named => ?_
  rcases named with ⟨cause, rfl, obstacle⟩
  refine ⟨cause, rfl, ?_⟩
  cases obstacle with
  | startsPastEnd past =>
    simp only [questionEnd, Dissection.layout] at past
    exact .inr ⟨rfl, by omega⟩
  | endsInside | lacksRoom | longDatagram | longPacket | longTunnel | overCeiling => exact .inl rfl

end Located

/-! ## Exactly the replies without an obstacle -/

/-- For a frame in which the headers are located, a plan is refused exactly when something stands in
the way of the reply, and the refusal names an obstacle.  Otherwise the reply is placed by the layout
of its query. -/
theorem refused_iff_obstacle {port : UInt16} {cursor : Cursor}
    (located : locate frame.octets port = .ok (layout, cursor)) (replySize querySize : Nat)
    (settings : Settings) :
    ((∃ stop, plan frame layout replySize querySize settings = .error stop) ↔
      ∃ cause, Obstacle packetSize frame layout replySize querySize settings cause)
    ∧ (∀ stop, plan frame layout replySize querySize settings = .error stop →
      NamesObstacle frame layout replySize querySize settings stop)
    ∧ ∀ found, plan frame layout replySize querySize settings = .ok found →
      Placed frame layout replySize querySize found := by
  rcases exists_dissection located with ⟨parts, whole, -, rfl, -⟩
  have size := Dissection.size_of_octets whole
  refine ⟨⟨?_, ?_⟩, fun stop => stopsOnlyFor_obstacles whole stop, fun found => placed_of_plan⟩
  · rintro ⟨stop, refused⟩
    rcases stopsOnlyFor_obstacles whole stop refused with ⟨cause, -, obstacle⟩
    exact ⟨cause, obstacle⟩
  · rintro ⟨cause, obstacle⟩
    cases planned : plan frame parts.layout replySize querySize settings with
    | error stop => exact ⟨stop, rfl⟩
    | ok found =>
      have fits := ((plan_eq_ok_iff whole).mp planned).1
      exact absurd obstacle (not_obstacle_of_fits size fits)

namespace Specimen

/-- A message without a question, wrapped in IPv4 and then in IPv6. -/
def tunnelled : Dissection where
  link := ⟨[2, 0, 0, 0, 0, 3], [2, 0, 0, 0, 0, 4], [], rfl, rfl, by decide⟩
  outer := some (.v6 ⟨⟨0x60, 0, 0, 40, protocolIpv4, 64, 1, 2⟩, by decide⟩)
  inner := .v4 ⟨⟨0x45, 0, 40, 0, 0, 64, protocolUdp, 0, 0xC0000201, 0xC0000235⟩, [],
    by decide, by decide, by decide⟩
  udp := ⟨4660, 53, 20, 0⟩
  message := List.replicate Header.dns.size 0
  carries := by
    intro tunnel wrapped
    cases wrapped
    rfl
  carriesUdp := rfl

/-- Its frame, with room behind it for any packet that IPv4 can carry. -/
def roomy : Frame :=
  ⟨[], tunnelled.octets, List.replicate maxLengthField 0⟩

theorem located : locate roomy.octets 53 = .ok (tunnelled.layout, tunnelled.reached) :=
  (locate_octets tunnelled 53).trans (if_pos rfl)

theorem size_roomy : roomy.size = 94 := by
  decide

theorem tailroom_roomy : roomy.tailroom = maxLengthField :=
  List.length_replicate

end Specimen

open Specimen in
/-- An answer section of 65455 octets fills the outer packet of the specimen up, and is placed; with
one octet more there is no plan. -/
theorem tunnelled_up_to_limit :
    (∃ found, plan roomy tunnelled.layout 65455 0 {} = .ok found
      ∧ Placed roomy tunnelled.layout 65455 0 found)
    ∧ ∃ stop, plan roomy tunnelled.layout 65456 0 {} = .error stop := by
  have planned : plan roomy tunnelled.layout 65455 0 {} = .ok (planFor tunnelled 0 65455) := by
    rw [plan, size_roomy, tailroom_roomy]
    decide +kernel
  constructor
  · exact ⟨_, planned, (refused_iff_obstacle located 65455 0 {}).2.2 _ planned⟩
  · have obstacle : Obstacle packetSize roomy tunnelled.layout 65456 0 {} .lengthOverflow :=
      .longTunnel rfl (by decide)
    exact (refused_iff_obstacle located 65456 0 {}).1.mpr ⟨_, obstacle⟩

open Specimen in
/-- The length field of the tunnel header does not count the header.  In this reply it would be 65510,
and no other length field would be larger; but the whole packet would have 65550 octets. -/
theorem payload_fits_yet_refused :
    locate roomy.octets 53 = .ok (tunnelled.layout, tunnelled.reached)
    ∧ plan roomy tunnelled.layout 65470 0 {} = .error (.refused (.reply .lengthOverflow))
    ∧ ¬ ∃ cause, Obstacle lengthField roomy tunnelled.layout 65470 0 {} cause := by
  refine ⟨located, ?_, ?_⟩
  · rw [plan, size_roomy, tailroom_roomy]
    decide +kernel
  · rintro ⟨cause, obstacle⟩
    cases obstacle with
    | startsPastEnd past =>
      rw [size_roomy] at past
      revert past
      decide
    | endsInside short =>
      rw [size_roomy] at short
      revert short
      decide
    | lacksRoom grows =>
      rw [size_roomy, tailroom_roomy] at grows
      revert grows
      decide
    | longDatagram long =>
      revert long
      decide
    | longPacket long =>
      revert long
      decide
    | longTunnel kept long =>
      cases kept
      revert long
      decide
    | overCeiling computed long =>
      revert computed
      decide

end Reply
end DnsResponder
