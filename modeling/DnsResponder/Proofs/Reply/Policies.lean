import DnsResponder.Proofs.Reply.Edit
import DnsResponder.Proofs.Reply.Limits

namespace DnsResponder

/-!
# What the policies of a reply write

Two settings say how a reply is finished and nothing about what is answered: where the header of a
tunnel that stays is sent, and whether a datagram over IPv4 carries a checksum.  Under another policy
the reply is the same but for what the policy is about.  A fixed far end is a write over the
destination of that header, and a computed checksum is a write over the field that would be zero.

Only the second can cost a reply its place, because a checksum limits the size of the datagram.  It
costs no more than that: whatever the sizes, the plan of a reply is the same under both policies,
unless its datagram goes over IPv4 and is too long.
-/

/-- The settings with these policies. -/
def Settings.withPolicies (settings : Settings) (checksum : Udp4Checksum)
    (tunnelReturn : TunnelReturn) : Settings :=
  { settings with udp4Checksum := checksum, tunnelReturn }

namespace Packet

namespace Dissection

variable (parts : Dissection)

/-- A fixed far end does not depend on where the tunnel would have been sent back to. -/
theorem withOuter_returned (tunnelReturn : TunnelReturn) (address : BitVec 128) :
    (parts.withOuter (.returned tunnelReturn)).withOuter (.returned (.endpoint address)) =
      parts.withOuter (.returned (.endpoint address)) := by
  rcases parts with ⟨link, outer, inner, udp, message, carries, carriesUdp⟩
  cases outer with
  | none => rfl
  | some outer => cases outer <;> rfl

/-- The checksum of the datagram does not cover the tunnel. -/
theorem datagramChecksummed_withOuter (change : IpFields.Rewrite) (settings : Settings) :
    (parts.withOuter change).datagramChecksummed settings =
      (parts.datagramChecksummed settings).withOuter change := by
  rw [datagramChecksummed, datagramChecksummed, layout_withOuter]
  split
  · rfl
  · rfl

variable (querySize : Nat) (response : Dns.Response) (settings : Settings)

/-! ## The far end of a tunnel -/

/-- With a fixed far end, a reply is the one that would go back, sent to that end. -/
theorem reply_endpoint (checksum : Udp4Checksum) (address : BitVec 128) :
    parts.reply querySize response (settings.withPolicies checksum (.endpoint address)) =
      (parts.reply querySize response (settings.withPolicies checksum .reflect)).withOuter
        (.returned (.endpoint address)) := by
  have unsummed : parts.replyUnsummed querySize response (.endpoint address) =
      (parts.replyUnsummed querySize response .reflect).withOuter
        (.returned (.endpoint address)) := by
    rw [replyUnsummed, ← withOuter_returned _ .reflect]
    rfl
  rw [reply, reply]
  exact (congrArg (datagramChecksummed · _) unsummed).trans (datagramChecksummed_withOuter ..)

/-- The reply in a tunnel that stays, with a fixed far end written over the source of the query's
tunnel. -/
theorem patch_endpoint {fields : Ipv6Fields} (kept : parts.keptOuter = some (.v6 fields))
    (checksum : Udp4Checksum) (address : BitVec 128) :
    (parts.reply querySize response (settings.withPolicies checksum .reflect)).octets.patch?
        ((IpFields.v6 fields).header parts.link.size).destinationOffset
        (Address.octetsV6 address) =
      some (parts.reply querySize response
        (settings.withPolicies checksum (.endpoint address))).octets := by
  rw [reply_endpoint]
  obtain ⟨reflected, shown⟩ : ∃ reflected, reflected =
      parts.reply querySize response (settings.withPolicies checksum .reflect) := ⟨_, rfl⟩
  have link : reflected.link.size = parts.link.size := by
    rw [shown]
    exact congrArg Layout.linkSize (parts.layout_reply ..)
  have stays : ∃ turned : Ipv6Fields, reflected.outer = some (.v6 turned) := by
    rw [shown, outer_reply_eq, kept]
    exact ⟨_, rfl⟩
  rcases stays with ⟨turned, wrapped⟩
  rw [← shown, ← link]
  exact patch_returned wrapped address

/-- A reply without a tunnel has no far end. -/
theorem reply_endpoint_of_none (left : parts.keptOuter = none) (checksum : Udp4Checksum)
    (address : BitVec 128) :
    parts.reply querySize response (settings.withPolicies checksum (.endpoint address)) =
      parts.reply querySize response (settings.withPolicies checksum .reflect) := by
  rw [reply_endpoint]
  apply withOuter_of_none
  rw [outer_reply_eq, left]
  rfl

/-- The tunnels that stay are those of IPv4 in IPv6. -/
theorem isSome_keptOuter : parts.keptOuter.isSome = true ↔ parts.layout.tunnel = .ipv4InIpv6 := by
  rcases parts with ⟨link, outer, inner, udp, message, carries, carriesUdp⟩
  cases outer with
  | none => exact ⟨nofun, nofun⟩
  | some outer =>
    cases outer with
    | v4 outer => exact ⟨nofun, nofun⟩
    | v6 outer =>
      cases inner with
      | v4 inner => exact ⟨fun _ => rfl, fun _ => rfl⟩
      | v6 inner => exact ⟨nofun, nofun⟩

/-! ## The checksum over IPv4 -/

theorem family_replyUnsummed (tunnelReturn : TunnelReturn) :
    (parts.replyUnsummed querySize response tunnelReturn).inner.family = parts.inner.family := by
  have inner : (parts.replyUnsummed querySize response tunnelReturn).inner =
      IpFields.Rewrite.checksummed.apply (IpFields.Rewrite.exchanged.apply
        ((IpFields.Rewrite.sized
          (Header.udp.size + (parts.answer querySize response).length)).apply parts.inner)) := rfl
  rw [inner, IpFields.Rewrite.family_eq, IpFields.Rewrite.family_eq, IpFields.Rewrite.family_eq]

/-- Over IPv6 a datagram carries a checksum under either policy. -/
theorem reply_compute_of_v6 (six : parts.inner.family = .v6) (tunnelReturn : TunnelReturn) :
    parts.reply querySize response (settings.withPolicies .compute tunnelReturn) =
      parts.reply querySize response (settings.withPolicies .zero tunnelReturn) := by
  have family := (parts.family_replyUnsummed querySize response tunnelReturn).trans six
  have summed (settings : Settings) : Reply.isChecksummed
      (parts.replyUnsummed querySize response tunnelReturn).layout settings = true :=
    (Reply.isChecksummed_iff _ _).mpr (.inl family)
  rw [reply, reply, datagramChecksummed, datagramChecksummed]
  exact (if_pos (summed _)).trans (if_pos (summed _)).symm

/-- Over IPv4 a computed checksum is written over the field of a reply without one. -/
theorem patch_compute (four : parts.inner.family = .v4) (tunnelReturn : TunnelReturn) :
    ∃ sum,
      (parts.reply querySize response (settings.withPolicies .zero tunnelReturn)).octets.patch?
          (parts.unwrapped.udpOffset + 6) (Bytes.ofWord sum) =
        some (parts.reply querySize response
          (settings.withPolicies .compute tunnelReturn)).octets := by
  obtain ⟨unsummed, shown⟩ : ∃ unsummed,
      unsummed = parts.replyUnsummed querySize response tunnelReturn := ⟨_, rfl⟩
  have family : unsummed.inner.family = .v4 := by
    rw [shown, family_replyUnsummed, four]
  have offset : unsummed.udpOffset = parts.unwrapped.udpOffset := by
    have layout := parts.layout_reply querySize response (settings.withPolicies .zero tunnelReturn)
    rw [reply, layout_datagramChecksummed] at layout
    rw [shown]
    exact congrArg Layout.udp layout
  have plain : ¬ Reply.isChecksummed unsummed.layout
      (settings.withPolicies .zero tunnelReturn) = true := by
    rw [Reply.isChecksummed_iff, family]
    rintro (impossible | impossible) <;> cases impossible
  have zero : parts.reply querySize response (settings.withPolicies .zero tunnelReturn) =
      unsummed := by
    rw [shown] at plain ⊢
    exact if_neg plain
  rcases unsummed.datagramChecksummed_eq (settings.withPolicies .compute tunnelReturn) with
    ⟨sum, summed⟩
  have compute : parts.reply querySize response (settings.withPolicies .compute tunnelReturn) =
      unsummed.withUdp { unsummed.udp with checksum := sum } := by
    rw [← summed, shown]
    rfl
  rw [zero, compute, ← offset]
  exact ⟨sum, patch_udp (unsummed.udp.patch_checksum sum)⟩

end Dissection
end Packet

namespace Reply

open Packet

variable {parts : Dissection} {tailroom querySize replySize : Nat} {settings other : Settings}

/-! ## Room -/

/-- A reply that fits also fits under settings that ask for no further checksum. -/
theorem Fits.of_isChecksummed (fits : Fits parts tailroom querySize replySize settings)
    (fewer : isChecksummed parts.layout other = true → isChecksummed parts.layout settings = true) :
    Fits parts tailroom querySize replySize other :=
  ⟨fits.starts, fits.covers, fits.room, fits.datagram, fun summed => fits.checksum (fewer summed),
    fits.packet, fits.tunnel⟩

/-- The far end of a tunnel takes no room. -/
theorem fits_withPolicies_iff (checksum : Udp4Checksum) (first second : TunnelReturn) :
    Fits parts tailroom querySize replySize (settings.withPolicies checksum first) ↔
      Fits parts tailroom querySize replySize (settings.withPolicies checksum second) :=
  ⟨fun fits => fits.of_isChecksummed id, fun fits => fits.of_isChecksummed id⟩

/-- A checksum has to be computed over IPv4 only if the policy says so. -/
theorem Fits.of_compute {tunnelReturn : TunnelReturn}
    (fits : Fits parts tailroom querySize replySize (settings.withPolicies .compute tunnelReturn)) :
    Fits parts tailroom querySize replySize (settings.withPolicies .zero tunnelReturn) := by
  refine fits.of_isChecksummed fun _ => ?_
  exact (isChecksummed_iff parts _).mpr (.inr rfl)

/-- A reply that is short enough for a checksum fits with one if it fits without. -/
theorem Fits.compute {tunnelReturn : TunnelReturn}
    (fits : Fits parts tailroom querySize replySize (settings.withPolicies .zero tunnelReturn))
    (short : Header.udp.size + messageSize querySize replySize ≤ Checksum.maxDatagramSize) :
    Fits parts tailroom querySize replySize (settings.withPolicies .compute tunnelReturn) :=
  ⟨fits.starts, fits.covers, fits.room, fits.datagram, fun _ => short, fits.packet, fits.tunnel⟩

/-! ## The ceiling -/

/-- The second of two computations comes to the same as the first, or it is refused for the ceiling
of a checksum, and then the condition holds. -/
def SameBelowCeiling {α : Type} (condition : Prop) (first second : Except Stop α) : Prop :=
  second = first ∨ second = .error (.refused (.reply .overChecksumCeiling)) ∧ condition

/-- What follows a step has to be looked at only for what the step can give. -/
theorem SameBelowCeiling.bind {α β : Type} {condition : Prop} {first second : Except Stop α}
    {next after : α → Except Stop β} (start : SameBelowCeiling condition first second)
    (rest : ∀ value, first = .ok value → SameBelowCeiling condition (next value) (after value)) :
    SameBelowCeiling condition (first >>= next) (second >>= after) := by
  rcases start with same | ⟨rfl, holds⟩
  · rw [same]
    cases first with
    | error stop => exact .inl rfl
    | ok value => exact rest value rfl
  · exact .inr ⟨rfl, holds⟩

/-- A step that does not look at the policies. -/
theorem SameBelowCeiling.step {α β : Type} {condition : Prop} (first : Except Stop α)
    {next after : α → Except Stop β}
    (rest : ∀ value, first = .ok value → SameBelowCeiling condition (next value) (after value)) :
    SameBelowCeiling condition (first >>= next) (first >>= after) :=
  SameBelowCeiling.bind (.inl rfl) rest

/-- Only over IPv4 does it hang on the policy whether a datagram is held to the ceiling. -/
theorem sameBelowCeiling_refuseIf (layout : Layout) (size : Nat) (settings : Settings)
    (tunnelReturn : TunnelReturn) :
    SameBelowCeiling (layout.inner.family = .v4 ∧ Checksum.maxDatagramSize < size)
      (refuseIf (isChecksummed layout (settings.withPolicies .zero tunnelReturn) = true
        ∧ Checksum.maxDatagramSize < size) .overChecksumCeiling)
      (refuseIf (isChecksummed layout (settings.withPolicies .compute tunnelReturn) = true
        ∧ Checksum.maxDatagramSize < size) .overChecksumCeiling) := by
  cases family : layout.inner.family with
  | v6 =>
    have summed (checksum : Udp4Checksum) :
        isChecksummed layout (settings.withPolicies checksum tunnelReturn) = true := by
      rw [isChecksummed, family]
    simp only [summed]
    exact .inl rfl
  | v4 =>
    have plain : isChecksummed layout (settings.withPolicies .zero tunnelReturn) = false := by
      rw [isChecksummed, family]
      rfl
    simp only [plain, Bool.false_eq_true, false_and]
    by_cases long : Checksum.maxDatagramSize < size
    · by_cases summed : isChecksummed layout (settings.withPolicies .compute tunnelReturn) = true
      · exact .inr ⟨if_pos ⟨summed, long⟩, trivial, long⟩
      · exact .inl (if_neg fun both => summed both.1)
    · exact .inl (if_neg fun both => long both.2)

/-- Computed checksums change the plan of no reply, of whatever size, unless its datagram goes over
IPv4 and is too long for one.  The size is that of the whole datagram, from the UDP header to the end
of the answer section. -/
theorem plan_compute (frame : Frame) (layout : Layout) (replySize querySize : Nat)
    (settings : Settings) (tunnelReturn : TunnelReturn) :
    SameBelowCeiling (layout.inner.family = .v4
        ∧ Checksum.maxDatagramSize < replyEnd layout querySize replySize - layout.udp)
      (plan frame layout replySize querySize (settings.withPolicies .zero tunnelReturn))
      (plan frame layout replySize querySize (settings.withPolicies .compute tunnelReturn)) := by
  refine .step _ fun grow growing => .step _ fun _ _ => .step _ fun moved shift =>
    .step _ fun newSize sized => ?_
  rw [Stop.ofRefusal_eq_ok_iff, growth_eq_ok_iff] at growing
  rw [Stop.difference_eq_ok_iff] at sized
  have movedUp := movedUp_of_shifted shift
  have family : moved.inner.family = layout.inner.family := by rw [movedUp.inner]
  have udp := movedUp.udp
  refine SameBelowCeiling.bind ?_ fun _ _ => .step _ fun _ _ => .inl rfl
  refine .step _ fun datagramSize measured => .step _ fun _ _ => ?_
  rw [Stop.difference_eq_ok_iff] at measured
  have size : datagramSize = replyEnd layout querySize replySize - layout.udp := by
    simp only [replyEnd, questionEnd]
    omega
  rw [← family, ← size]
  exact (sameBelowCeiling_refuseIf moved datagramSize settings tunnelReturn).bind
    fun _ _ => .inl rfl

end Reply
end DnsResponder
