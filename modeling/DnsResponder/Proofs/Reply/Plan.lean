import DnsResponder.Proofs.Packet.Locate
import DnsResponder.Reply.Edit

namespace DnsResponder

open Packet

/-!
# Which replies fit

The plan of a reply is worked out from sizes and offsets alone, with a check before each use of
them.  For the frame of a dissection the plan is known in advance: the tunnel header that a reply
leaves out is left out of the dissection, and everything behind it moves up.  `Fits` collects what
the checks ask for, and a plan is found exactly when all of it holds.
-/

namespace Packet.Dissection

/-! ## Leaving out the tunnel -/

/-- The tunnel header that stays in a reply: IPv6 around IPv4. -/
def keptOuter (parts : Dissection) : Option IpFields :=
  match parts.outer, parts.inner with
  | some (.v6 tunnel), .v4 _ => some (.v6 tunnel)
  | _, _ => none

/-- The frame without the tunnel header that a reply leaves out. -/
def unwrapped (parts : Dissection) : Dissection :=
  { parts with
    outer := parts.keptOuter
    carries := by
      intro tunnel kept
      rw [keptOuter] at kept
      split at kept
      · next wrapped inside =>
        cases kept
        exact parts.carries _ wrapped
      · cases kept }

/-- Either nothing is left out, or the tunnel has the family of the packet in it and goes. -/
theorem unwrapped_cases (parts : Dissection) :
    (parts.unwrapped = parts ∧ parts.layout.stripSize = 0) ∨
      ∃ tunnel, parts.outer = some tunnel ∧ tunnel.family = parts.inner.family
        ∧ parts.unwrapped.outer = none ∧ parts.layout.stripSize = tunnel.size := by
  rcases parts with ⟨link, outer, inner, udp, message, carries, carriesUdp⟩
  cases outer with
  | none => exact .inl ⟨rfl, rfl⟩
  | some tunnel =>
    cases tunnel with
    | v4 tunnel =>
      cases inner with
      | v4 packet => exact .inr ⟨.v4 tunnel, rfl, rfl, rfl, rfl⟩
      | v6 packet => cases carries _ rfl
    | v6 tunnel =>
      cases inner with
      | v4 packet => exact .inl ⟨rfl, rfl⟩
      | v6 packet => exact .inr ⟨.v6 tunnel, rfl, rfl, rfl, rfl⟩

/-- A tunnel that stays is one of IPv6, and nothing is left out of the reply. -/
theorem of_keptOuter {parts : Dissection} {tunnel : IpFields} (kept : parts.keptOuter = some tunnel) :
    (∃ fields, tunnel = .v6 fields) ∧ parts.outer = some tunnel ∧ parts.layout.stripSize = 0 := by
  have six : ∃ fields, tunnel = .v6 fields := by
    rw [keptOuter] at kept
    split at kept
    · next fields packet wrapped inside =>
      exact ⟨fields, (Option.some.inj kept).symm⟩
    · cases kept
  have stays : parts.unwrapped.outer = some tunnel := kept
  rcases parts.unwrapped_cases with ⟨same, nothing⟩ | ⟨-, -, -, gone, -⟩
  · rw [same] at stays
    exact ⟨six, stays, nothing⟩
  · rw [gone] at stays
    cases stays

theorem outerSize_eq (parts : Dissection) :
    parts.outerSize = parts.layout.stripSize + parts.unwrapped.outerSize := by
  rcases parts.unwrapped_cases with ⟨same, nothing⟩ | ⟨tunnel, wrapped, -, gone, size⟩
  · rw [same, nothing, Nat.zero_add]
  · rw [size, outerSize, outerSize, wrapped, gone]
    rfl

theorem innerOffset_eq (parts : Dissection) :
    parts.innerOffset = parts.layout.stripSize + parts.unwrapped.innerOffset := by
  rw [innerOffset, innerOffset, outerSize_eq]
  exact Nat.add_left_comm ..

theorem udpOffset_eq (parts : Dissection) :
    parts.udpOffset = parts.layout.stripSize + parts.unwrapped.udpOffset := by
  rw [udpOffset, udpOffset, innerOffset_eq, Nat.add_assoc]
  rfl

theorem messageOffset_eq (parts : Dissection) :
    parts.messageOffset = parts.layout.stripSize + parts.unwrapped.messageOffset := by
  rw [messageOffset, messageOffset, udpOffset_eq, Nat.add_assoc]

/-- The frame of a dissection, by its headers and its message. -/
theorem size_of_octets {frame : Frame} {parts : Dissection} (whole : frame.octets = parts.octets) :
    frame.size = parts.messageOffset + parts.message.length := by
  rw [Frame.size, whole, parts.length_octets]

end Packet.Dissection

namespace Reply

/-- Leaving octets out moves the layout to that of the dissection without the tunnel. -/
theorem shifted_layout (parts : Dissection) :
    shifted parts.layout parts.layout.stripSize = .ok parts.unwrapped.layout := by
  have inner : Stop.difference parts.layout.inner.offset parts.layout.stripSize = .ok _ :=
    Stop.difference_eq parts.innerOffset_eq
  have udp : Stop.difference parts.layout.udp parts.layout.stripSize = .ok _ :=
    Stop.difference_eq parts.udpOffset_eq
  have dns : Stop.difference parts.layout.dns parts.layout.stripSize = .ok _ :=
    Stop.difference_eq parts.messageOffset_eq
  simp only [shifted, inner, udp, dns, bind, Except.bind, pure, Except.pure]
  rcases parts.unwrapped_cases with ⟨same, nothing⟩ | ⟨tunnel, wrapped, -, gone, size⟩
  · rw [same, nothing]
    rfl
  · have some : 0 < parts.layout.stripSize := by
      rw [size]
      cases tunnel <;> simp only [IpFields.size, Header.size] <;> omega
    rw [if_pos some]
    simp only [Dissection.layout, gone]
    rfl

theorem refuseIf_eq_ok_iff {condition : Prop} [Decidable condition] {cause : ReplyError}
    {value : Unit} : refuseIf condition cause = .ok value ↔ ¬ condition := by
  rw [refuseIf]
  by_cases holds : condition
  · rw [if_pos holds]
    constructor
    · intro impossible
      cases impossible
    · exact fun fails => absurd holds fails
  · rw [if_neg holds]
    exact ⟨fun _ => holds, fun _ => rfl⟩

/-- The frame grows exactly when the answer section starts in it and does not end in it. -/
theorem growth_eq_ok_iff {frameSize answerStart replySize grow : Nat} :
    growth frameSize answerStart replySize = .ok grow ↔
      answerStart ≤ frameSize ∧ frameSize + grow = answerStart + replySize := by
  rw [growth]
  split
  · constructor
    · intro impossible
      cases impossible
    · omega
  · split
    · constructor
      · intro impossible
        cases impossible
      · omega
    · rw [Except.ok.injEq]
      omega

theorem isChecksummed_iff (parts : Dissection) (settings : Settings) :
    isChecksummed parts.layout settings = true ↔
      parts.inner.family = .v6 ∨ settings.udp4Checksum = .compute := by
  have family : parts.layout.inner.family = parts.inner.family := rfl
  rw [isChecksummed, family]
  cases parts.inner.family with
  | v6 => exact ⟨fun _ => .inl rfl, fun _ => rfl⟩
  | v4 =>
    rw [beq_iff_eq]
    exact ⟨.inr, fun either => either.resolve_left Family.noConfusion⟩

/-! ## What a reply needs -/

/-- Octets of a message with its question and answer section. -/
def messageSize (querySize replySize : Nat) : Nat :=
  Header.dns.size + querySize + replySize

/-- Everything that the checks of a plan ask for.  A datagram has to be short enough for its length
field, and for its checksum if it carries one; so have the packets around it. -/
structure Fits (parts : Dissection) (tailroom querySize replySize : Nat) (settings : Settings) :
    Prop where
  starts : Header.dns.size + querySize ≤ parts.message.length
  covers : parts.message.length ≤ messageSize querySize replySize
  room : messageSize querySize replySize ≤ parts.message.length + tailroom
  datagram : Header.udp.size + messageSize querySize replySize ≤ maxLengthField
  checksum : isChecksummed parts.layout settings →
    Header.udp.size + messageSize querySize replySize ≤ Checksum.maxDatagramSize
  packet : parts.inner.size + Header.udp.size + messageSize querySize replySize ≤ maxLengthField
  tunnel : ∀ outer, parts.keptOuter = some outer → outer.size + parts.inner.size
    + Header.udp.size + messageSize querySize replySize ≤ maxLengthField

def planFor (parts : Dissection) (querySize replySize : Nat) : Plan where
  strip := parts.layout.stripSize
  grow := messageSize querySize replySize - parts.message.length
  layout := parts.unwrapped.layout
  answerStart := parts.unwrapped.messageOffset + (Header.dns.size + querySize)
  newSize := parts.unwrapped.messageOffset + messageSize querySize replySize

/-- The limits on the layers of a reply, by the sizes of their headers. -/
theorem checkSizes_eq_ok_iff (parts : Dissection) (querySize replySize : Nat)
    (settings : Settings) :
    checkSizes parts.unwrapped.layout (parts.unwrapped.messageOffset +
        messageSize querySize replySize) settings = .ok () ↔
      Header.udp.size + messageSize querySize replySize ≤ maxLengthField
      ∧ (isChecksummed parts.layout settings →
        Header.udp.size + messageSize querySize replySize ≤ Checksum.maxDatagramSize)
      ∧ parts.inner.size + Header.udp.size + messageSize querySize replySize ≤ maxLengthField
      ∧ ∀ outer, parts.keptOuter = some outer → outer.size + parts.inner.size
        + Header.udp.size + messageSize querySize replySize ≤ maxLengthField := by
  have datagram : Stop.difference (parts.unwrapped.messageOffset + messageSize querySize replySize)
      parts.unwrapped.layout.udp = .ok (Header.udp.size + messageSize querySize replySize) :=
    Stop.difference_eq (Nat.add_assoc ..)
  have packet : Stop.difference (parts.unwrapped.messageOffset + messageSize querySize replySize)
      parts.unwrapped.layout.inner.offset =
        .ok (parts.inner.size + Header.udp.size + messageSize querySize replySize) :=
    Stop.difference_eq (by
      simp only [Dissection.messageOffset, Dissection.udpOffset, Dissection.layout,
        IpFields.header, Dissection.unwrapped]
      omega)
  have same : isChecksummed parts.unwrapped.layout settings = isChecksummed parts.layout settings :=
    rfl
  simp only [checkSizes, datagram, packet, bind_eq_ok_iff, Except.ok.injEq, exists_eq_left',
    refuseIf_eq_ok_iff, exists_const, same, not_and, Nat.not_lt]
  refine and_congr_right' (and_congr_right' (and_congr_right' ?_))
  have outer : parts.unwrapped.layout.outer = parts.keptOuter.map (·.header parts.link.size) := rfl
  cases kept : parts.keptOuter with
  | none =>
    rw [outer, kept]
    constructor
    · intro _ tunnel impossible
      cases impossible
    · intro _
      rfl
  | some tunnel =>
    have whole : Stop.difference
        (parts.unwrapped.messageOffset + messageSize querySize replySize) parts.link.size =
          .ok (tunnel.size + parts.inner.size + Header.udp.size
            + messageSize querySize replySize) :=
      Stop.difference_eq (by
        simp only [Dissection.messageOffset, Dissection.udpOffset, Dissection.innerOffset,
          Dissection.outerSize, Dissection.unwrapped, kept, Option.map_some, Option.getD_some]
        omega)
    rw [outer, kept]
    simp only [Option.map_some, IpFields.header, whole, bind, Except.bind, refuseIf_eq_ok_iff,
      Nat.not_lt, Option.some.injEq, forall_eq']

/-- There is a plan for a reply exactly when it fits, and then it is the expected one. -/
theorem plan_eq_ok_iff {frame : Frame} {parts : Dissection} (whole : frame.octets = parts.octets)
    {querySize replySize : Nat} {settings : Settings} {found : Plan} :
    plan frame parts.layout replySize querySize settings = .ok found ↔
      Fits parts frame.tailroom querySize replySize settings
        ∧ found = planFor parts querySize replySize := by
  have size := Dissection.size_of_octets whole
  have offset := parts.messageOffset_eq
  have start : parts.layout.dns + Header.dns.size + querySize =
      parts.messageOffset + (Header.dns.size + querySize) := Nat.add_assoc ..
  simp only [plan, bind_eq_ok_iff, Stop.ofRefusal_eq_ok_iff, growth_eq_ok_iff, refuseIf_eq_ok_iff,
    exists_const, Stop.difference_eq_ok_iff, shifted_layout, Except.ok.injEq, exists_eq_left',
    start]
  constructor
  · rintro ⟨grow, ⟨starts, grown⟩, room, newSize, sized, ⟨⟩, sizes, answerStart, placed, made⟩
    have newSizeEq : newSize = parts.unwrapped.messageOffset + messageSize querySize replySize := by
      simp only [messageSize]
      omega
    rw [newSizeEq, checkSizes_eq_ok_iff] at sizes
    rcases sizes with ⟨datagram, checksum, packet, tunnel⟩
    refine ⟨⟨?_, ?_, ?_, datagram, checksum, packet, tunnel⟩, ?_⟩
    · omega
    · simp only [messageSize]
      omega
    · simp only [messageSize]
      omega
    · cases made
      simp only [planFor, messageSize, Plan.mk.injEq, true_and]
      simp only [messageSize] at newSizeEq
      omega
  · rintro ⟨fits, rfl⟩
    have starts := fits.starts
    have covers := fits.covers
    have room := fits.room
    simp only [messageSize] at covers room
    refine ⟨(planFor parts querySize replySize).grow, ⟨?_, ?_⟩, ?_,
      (planFor parts querySize replySize).newSize, ?_, (), ?_,
      (planFor parts querySize replySize).answerStart, ?_, rfl⟩
    · omega
    · simp only [planFor, messageSize]
      omega
    · simp only [planFor, messageSize]
      omega
    · simp only [planFor, messageSize]
      omega
    · exact (checkSizes_eq_ok_iff parts querySize replySize settings).mpr
        ⟨fits.datagram, fits.checksum, fits.packet, fits.tunnel⟩
    · simp only [planFor]
      omega

end Reply
end DnsResponder
