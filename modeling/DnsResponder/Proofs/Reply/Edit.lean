import DnsResponder.Proofs.Reply.Changes
import DnsResponder.Proofs.Reply.Limits

namespace DnsResponder
namespace Reply

open Packet

/-!
# Edits as changes of a dissection

Each step of a reply writes octets at an offset.  Seen through dissections it changes a part of the
frame: a length, an address, the message.  An edit *takes* one dissection to another when it turns
the octets of the first into those of the second and leaves the rest of the window alone.  Steps
compose by composing the changes, and at the end the whole edit is one change, `Dissection.reply`.

None of the steps can fail on the frame of a dissection whose reply fits.  This is why a frame that
is not answered comes out as it went in, although a step that failed half-way would leave it
half-written.
-/

namespace Edit

variable {α β : Type} {frame changed : Frame}

/-! ## Runs -/

theorem run_bind {first : Edit α} {rest : α → Edit β} {value : α}
    (done : first.run frame = .ok value changed) :
    (first >>= rest).run frame = (rest value).run changed := by
  simp only [EStateM.run, bind, EStateM.bind] at done ⊢
  rw [done]

/-- An edit that stops keeps the frame as it was when it stopped. -/
theorem run_bind_error {first : Edit α} {rest : α → Edit β} {stop : Stop}
    (stopped : first.run frame = .error stop changed) :
    (first >>= rest).run frame = .error stop changed := by
  simp only [EStateM.run, bind, EStateM.bind] at stopped ⊢
  rw [stopped]

theorem run_attempt {result : Except Stop α} {value : α} (found : result = .ok value) :
    (attempt result).run frame = .ok value frame := by
  rw [found]
  rfl

theorem run_read {look : Bytes → Option α} {value : α} (found : look frame.octets = some value) :
    (read look).run frame = .ok value frame := by
  rw [EStateM.run, read, found]

theorem run_step {make : Frame → Option Frame} (made : make frame = some changed) :
    (step make).run frame = .ok () changed := by
  rw [EStateM.run, step, made]

theorem run_move {make : Frame → Frame.Outcome} (made : make frame = .ok () changed) :
    (move make).run frame = .ok () changed := by
  rw [EStateM.run, move, made]

theorem run_write (frame : Frame) {offset : Nat} {octets written : Bytes}
    (patched : frame.octets.patch? offset octets = some written) :
    (write offset octets).run frame = .ok () { frame with octets := written } :=
  run_step (congrArg (Option.map _) patched)

/-! ## Changes -/

/-- The edit turns the frame of one dissection into that of another, whatever stands around it in the
window. -/
def Takes (edit : Edit Unit) (parts next : Dissection) : Prop :=
  ∀ before after, edit.run ⟨before, parts.octets, after⟩ = .ok () ⟨before, next.octets, after⟩

variable {parts middle final : Dissection}

theorem takes_nothing (parts : Dissection) : (pure () : Edit Unit).Takes parts parts :=
  fun _ _ => rfl

/-- One edit after another. -/
theorem Takes.trans {first second : Edit Unit} (earlier : first.Takes parts middle)
    (later : second.Takes middle final) : (first >>= fun _ => second).Takes parts final := by
  intro before after
  rw [run_bind (earlier before after)]
  exact later before after

theorem takes_attempt {result : Except Stop α} {value : α} {rest : α → Edit Unit}
    (found : result = .ok value) (later : (rest value).Takes parts final) :
    (attempt result >>= rest).Takes parts final := by
  intro before after
  rw [run_bind (run_attempt found)]
  exact later before after

theorem takes_orRefuse {found : Option α} {cause : ReplyError} {value : α} {rest : α → Edit Unit}
    (present : found = some value) (later : (rest value).Takes parts final) :
    (orRefuse found cause >>= rest).Takes parts final := by
  rw [present]
  exact takes_attempt rfl later

theorem takes_read {look : Bytes → Option α} {value : α} {rest : α → Edit Unit}
    (found : look parts.octets = some value) (later : (rest value).Takes parts final) :
    (read look >>= rest).Takes parts final := by
  intro before after
  rw [run_bind (run_read found)]
  exact later before after

theorem takes_write {offset : Nat} {octets : Bytes}
    (patched : parts.octets.patch? offset octets = some final.octets) :
    (write offset octets).Takes parts final :=
  fun _ _ => run_write _ patched

end Edit
open Edit

variable {parts : Dissection}

/-! ## Leaving the tunnel -/

theorem patch_ethertype (link : LinkFields) (announced new : UInt16) (rest : Bytes) :
    (link.octets announced ++ rest).patch? link.typeOffset (Bytes.ofWord new) =
      some (link.octets new ++ rest) := by
  have split (type : UInt16) : link.octets type ++ rest =
      (link.receiver ++ (link.sender ++ link.tagOctets)) ++ (Bytes.ofWord type ++ rest) := by
    simp only [LinkFields.octets, List.append_assoc]
  refine Bytes.patch?_between (split announced) (split new) ?_ rfl
  simp only [List.length_append, link.receiver_size, link.sender_size, link.length_tagOctets,
    LinkFields.typeOffset]
  omega

theorem ethertypeOf_family (fields : IpFields) : ethertypeOf fields.family = fields.ethertype := by
  cases fields <;> rfl

/-- The frame without its tunnel is announced by what was in the tunnel. -/
theorem octets_unwrapped (gone : parts.unwrapped.outer = none) :
    parts.unwrapped.octets = parts.link.octets (ethertypeOf parts.inner.family) ++
      (parts.inner.octets ++ (parts.udp.octets ++ parts.message)) := by
  have first : parts.unwrapped.first = parts.inner := by
    rw [Dissection.first, gone]
    rfl
  have nothing : parts.unwrapped.outerOctets = [] := by
    rw [Dissection.outerOctets, gone]
    rfl
  rw [ethertypeOf_family, Dissection.octets, Dissection.linkOctets, first, nothing]
  rfl

theorem advance_of_split {front rest : Bytes} {size : Nat} (extent : front.length = size)
    (before after : Bytes) :
    Frame.advance ⟨before, front ++ rest, after⟩ size = .ok () ⟨before ++ front, rest, after⟩ := by
  have inside : size ≤ (front ++ rest).length := by
    rw [List.length_append, extent]
    exact Nat.le_add_right ..
  simp only [Frame.advance, Frame.size, if_pos inside, List.take_left' extent,
    List.drop_left' extent]

/-- Sliding the Ethernet header over the tunnel's header and giving up the octets in front of it.
What was there stays behind in the window, since the header is only written where it slid to. -/
theorem leaveTunnel_run (parts : Dissection) {plan : Plan} (strip : plan.strip = parts.layout.stripSize)
    (layout : plan.layout = parts.unwrapped.layout) (before after : Bytes) :
    (leaveTunnel plan).run ⟨before, parts.octets, after⟩ =
      .ok () ⟨before ++ parts.octets.take plan.strip, parts.unwrapped.octets, after⟩ := by
  rw [leaveTunnel, layout]
  rcases parts.unwrapped_cases with ⟨same, nothing⟩ | ⟨tunnel, wrapped, family, gone, size⟩
  · rw [strip, nothing, if_neg (Nat.lt_irrefl 0), same, List.take_zero, List.append_nil]
    rfl
  · rw [← strip] at size
    have some : 0 < plan.strip := by
      rw [size]
      cases tunnel <;> simp only [IpFields.size, Header.size] <;> omega
    obtain ⟨rest, behind⟩ : ∃ rest, rest = parts.inner.octets ++ (parts.udp.octets ++ parts.message) :=
      ⟨_, rfl⟩
    obtain ⟨front, shown⟩ : ∃ front, front = parts.linkOctets ++ tunnel.octets := ⟨_, rfl⟩
    have whole : parts.octets = front ++ rest := by
      rw [parts.split_outer wrapped, behind, shown, List.append_assoc]
    have frontSize : front.length = plan.strip + parts.link.size := by
      rw [shown, List.length_append, parts.length_linkOctets, tunnel.length_octets, size,
        Nat.add_comm]
    have kept : (front.take plan.strip).length = plan.strip :=
      List.length_take_of_le (by omega)
    have link : parts.octets.slice? 0 parts.link.size = .some parts.linkOctets :=
      Bytes.slice?_of_split (List.nil_append parts.octets).symm rfl parts.length_linkOctets
    have cut : parts.octets = front.take plan.strip ++ (front.drop plan.strip ++ rest) := by
      rw [whole, ← List.append_assoc, List.take_append_drop]
    have slid : parts.octets.patch? plan.strip parts.linkOctets =
        .some (front.take plan.strip ++ (parts.linkOctets ++ rest)) :=
      Bytes.patch?_of_split cut kept
        (by rw [parts.length_linkOctets, List.length_drop, frontSize, Nat.add_sub_cancel_left])
    have announced : (parts.linkOctets ++ rest).patch? parts.link.typeOffset
        (Bytes.ofWord (ethertypeOf parts.inner.family)) = .some parts.unwrapped.octets := by
      rw [octets_unwrapped gone, ← behind]
      exact patch_ethertype parts.link _ _ rest
    have given : parts.octets.take plan.strip = front.take plan.strip := by
      rw [whole, List.take_append_of_le_length (by omega)]
    rw [if_pos some, given]
    apply (run_bind (run_read link)).trans
    apply (run_bind (run_write _ slid)).trans
    apply (run_bind (run_move (advance_of_split kept before after))).trans
    exact run_write _ announced

/-! ## Writing the message -/

/-- Writing the answer section behind the question of a message that was extended for it. -/
theorem patch_answerSection {querySize : Nat} {answerSection padding : Bytes}
    (starts : Header.dns.size + querySize ≤ parts.message.length)
    (sized : (parts.message ++ padding).length = messageSize querySize answerSection.length) :
    (parts.message ++ padding).patch? (Header.dns.size + querySize) answerSection =
      some (parts.message.take Header.dns.size ++ (parts.questionOctets querySize ++
        answerSection)) := by
  have cut : parts.message.take Header.dns.size ++ parts.questionOctets querySize =
      (parts.message ++ padding).take (Header.dns.size + querySize) := by
    rw [List.take_append_of_le_length starts, List.take_add]
    rfl
  have split : parts.message ++ padding =
      (parts.message.take Header.dns.size ++ parts.questionOctets querySize) ++
        ((parts.message ++ padding).drop (Header.dns.size + querySize) ++ []) := by
    rw [cut, List.append_nil, List.take_append_drop]
  have result : parts.message.take Header.dns.size ++ (parts.questionOctets querySize ++
      answerSection) = (parts.message.take Header.dns.size ++ parts.questionOctets querySize) ++
        (answerSection ++ []) := by
    rw [List.append_nil, List.append_assoc]
  refine Bytes.patch?_between split result ?_ ?_
  · rw [cut, List.length_take_of_le]
    rw [List.length_append]
    omega
  · rw [List.length_drop, sized, messageSize]
    omega

theorem patch_messageHeader {querySize : Nat} (response : Dns.Response)
    (starts : Header.dns.size + querySize ≤ parts.message.length) :
    Bytes.patch? (parts.message.take Header.dns.size ++ (parts.questionOctets querySize ++
        response.answerSection)) 0 response.header.encode =
      some (parts.answer querySize response) := by
  refine Bytes.patch?_between (List.nil_append _).symm (List.nil_append _).symm rfl ?_
  rw [Dns.MessageHeader.length_encode, List.length_take_of_le]
  omega

theorem writeMessage_run (parts : Dissection) {before after : Bytes} {querySize : Nat}
    {response : Dns.Response} {rest : Edit Unit} {grow : Nat}
    (starts : Header.dns.size + querySize ≤ parts.message.length)
    (grown : parts.message.length + grow = messageSize querySize response.answerSection.length)
    (room : grow ≤ after.length) :
    (do
      Edit.move (·.extend grow)
      Edit.write (parts.messageOffset + (Header.dns.size + querySize)) response.answerSection
      Edit.write parts.messageOffset response.header.encode
      rest : Edit Unit).run ⟨before, parts.octets, after⟩ =
    rest.run ⟨before, (parts.withMessage (parts.answer querySize response)).octets,
      after.drop grow⟩ := by
  have padded : parts.octets ++ List.replicate grow 0 =
      parts.headers ++ ((parts.message ++ List.replicate grow 0) ++ []) := by
    rw [parts.split_message, List.append_nil, List.append_assoc]
  have extended : Frame.extend ⟨before, parts.octets, after⟩ grow =
      .ok () ⟨before, parts.octets ++ List.replicate grow 0, after.drop grow⟩ := if_pos room
  have sized : (parts.message ++ List.replicate grow 0).length =
      messageSize querySize response.answerSection.length := by
    rw [List.length_append, List.length_replicate, grown]
  have answered := Bytes.patch?_inside padded parts.length_headers
    (patch_answerSection starts sized)
  have headed (back : Bytes) := Bytes.patch?_inside
    (rfl : parts.headers ++ (_ ++ back) = parts.headers ++ (_ ++ back)) parts.length_headers
    (patch_messageHeader response starts)
  have whole : (parts.withMessage (parts.answer querySize response)).octets =
      parts.headers ++ (parts.answer querySize response ++ []) := by
    rw [Dissection.split_message, List.append_nil]
    rfl
  rw [whole]
  apply (run_bind (run_move extended)).trans
  apply (run_bind (run_write _ answered)).trans
  exact run_bind (run_write _ (headed []))

/-! ## Writing the lengths -/

/-- Writing the length field of an IP header that stands in the frame. -/
theorem writeIpLength_takes {next : Dissection} {fields : IpFields} {front back : Bytes}
    {offset behind newSize : Nat} (split : parts.octets = front ++ (fields.octets ++ back))
    (result : next.octets = front ++ (((IpFields.Rewrite.sized behind).apply fields).octets ++ back))
    (start : front.length = offset) (total : newSize = offset + (fields.size + behind)) :
    (writeIpLength (fields.header offset) newSize).Takes parts next := by
  apply takes_attempt (Stop.difference_eq total)
  cases fields with
  | v4 fields =>
    apply takes_write
    rw [result, ← IpFields.length_octets]
    exact Bytes.patch?_inside split start (fields.patch_packetSize _)
  | v6 fields =>
    refine takes_attempt (Stop.difference_eq rfl) (takes_write ?_)
    rw [result]
    exact Bytes.patch?_inside split start (fields.toIpv6Base.patch_payloadSize _)

theorem writeInnerLength_takes (parts : Dissection) {newSize : Nat}
    (total : newSize = parts.messageOffset + parts.message.length) :
    (writeIpLength parts.layout.inner newSize).Takes parts
      (parts.withInner (.sized parts.datagramSize)) := by
  refine writeIpLength_takes parts.split_inner (parts.octets_withInner _)
    parts.length_before_inner ?_
  rw [total]
  simp only [Dissection.messageOffset, Dissection.udpOffset, Dissection.datagramSize]
  omega

theorem writeOuterLength_takes (parts : Dissection) {newSize behind : Nat} {outer : IpFields}
    (wrapped : parts.outer = some outer)
    (total : newSize = parts.link.size + (outer.size + behind)) :
    (writeIpLength (outer.header parts.link.size) newSize).Takes parts
      (parts.withOuter (.sized behind)) :=
  writeIpLength_takes (parts.split_outer wrapped) (Dissection.octets_withOuter _ wrapped)
    parts.length_linkOctets total

/-- Writing the lengths of the datagram and of the packets around it. -/
theorem writeLengths_takes {plan : Plan} (layout : plan.layout = parts.layout)
    (total : plan.newSize = parts.messageOffset + parts.message.length) :
    (writeLengths plan).Takes parts parts.sized := by
  have datagram : Stop.difference plan.newSize parts.udpOffset = .ok parts.datagramSize := by
    apply Stop.difference_eq
    rw [total, Dissection.messageOffset, Dissection.datagramSize, Nat.add_assoc]
  have cleared : (writeWord (parts.udpOffset + 6) 0).Takes
      (parts.withUdp { parts.udp with datagramSize := UInt16.ofNat parts.datagramSize })
      parts.withDatagramSize :=
    takes_write (Dissection.patch_udp (UdpFields.patch_checksum _ 0))
  rw [writeLengths, layout]
  apply takes_attempt datagram
  apply (takes_write (Dissection.patch_udp (parts.udp.patch_datagramSize _))).trans
  apply cleared.trans
  apply (writeInnerLength_takes parts.withDatagramSize total).trans
  cases wrapped : parts.outer with
  | none =>
    have direct := Dissection.layout_outer_of_none wrapped
    have same : parts.sized = parts.withDatagramSize.withInner (.sized parts.datagramSize) :=
      Dissection.withOuter_of_none _ wrapped
    rw [direct, same]
    exact takes_nothing _
  | some outer =>
    have placed := Dissection.layout_outer_of_some wrapped
    have size := Dissection.outerSize_of_some wrapped
    rw [placed]
    refine writeOuterLength_takes (parts.withDatagramSize.withInner (.sized parts.datagramSize))
      wrapped ?_
    rw [total]
    simp only [Dissection.messageOffset, Dissection.udpOffset, Dissection.innerOffset, size,
      Dissection.datagramSize]
    show _ = parts.link.size + _
    omega

/-! ## Turning around -/

theorem swap_link (parts : Dissection) :
    parts.octets.swapAdjacent? 0 ethernetAddressSize = some parts.withLinkExchanged.octets := by
  have split : parts.octets = [] ++ (parts.link.octets parts.first.ethertype ++
      (parts.outerOctets ++ (parts.inner.octets ++ (parts.udp.octets ++ parts.message)))) := rfl
  exact Bytes.swapAdjacent?_inside split rfl (parts.link.swap_addresses parts.first.ethertype)

theorem swap_outer (parts : Dissection) {outer : IpFields} (wrapped : parts.outer = some outer) :
    parts.octets.swapAdjacent? (outer.header parts.link.size).sourceOffset
        (outer.header parts.link.size).addressSize =
      some (parts.withOuter .exchanged).octets := by
  rw [Dissection.octets_withOuter _ wrapped]
  exact outer.swap_addresses (parts.split_outer wrapped) parts.length_linkOctets

theorem swap_inner (parts : Dissection) :
    parts.octets.swapAdjacent? parts.layout.inner.sourceOffset parts.layout.inner.addressSize =
      some (parts.withInner .exchanged).octets := by
  rw [Dissection.octets_withInner]
  exact parts.inner.swap_addresses parts.split_inner parts.length_before_inner

theorem swap_udp (parts : Dissection) :
    parts.octets.swapAdjacent? parts.udpOffset 2 =
      some (parts.withUdp parts.udp.exchanged).octets :=
  (Bytes.swapAdjacent?_inside parts.split_udp parts.length_before_udp parts.udp.swap_ports).trans
    (congrArg some (Dissection.split_udp (parts.withUdp parts.udp.exchanged)).symm)

/-- The ends inside a tunnel are exchanged after those of the tunnel. -/
theorem swap_inside (turned : Dissection) :
    (do
      let data ← turned.octets.swapAdjacent? turned.layout.inner.sourceOffset
        turned.layout.inner.addressSize
      data.swapAdjacent? turned.layout.udp 2 : Option Bytes) =
      some ((turned.withInner .exchanged).withUdp turned.udp.exchanged).octets := by
  have udp := swap_udp (turned.withInner .exchanged)
  have udpOffset : (turned.withInner .exchanged).udpOffset = turned.layout.udp :=
    congrArg Layout.udp (turned.layout_withInner .exchanged)
  rw [udpOffset] at udp
  simp only [swap_inner, Option.bind_eq_bind, Option.bind_some]
  exact udp

theorem swapEndpoints_eq (parts : Dissection) :
    swapEndpoints? parts.layout parts.octets = some parts.exchanged.octets := by
  have inside := swap_inside (parts.withLinkExchanged.withOuter .exchanged)
  rw [Dissection.layout_withOuter, Dissection.layout_withLinkExchanged] at inside
  simp only [Option.bind_eq_bind] at inside
  simp only [swapEndpoints?, swap_link, Option.bind_eq_bind, Option.bind_some]
  cases wrapped : parts.outer with
  | none =>
    have direct := Dissection.layout_outer_of_none wrapped
    have same : parts.withLinkExchanged.withOuter .exchanged = parts.withLinkExchanged :=
      Dissection.withOuter_of_none _ wrapped
    rw [same] at inside
    rw [direct, Dissection.exchanged, same]
    exact inside
  | some outer =>
    have placed := Dissection.layout_outer_of_some wrapped
    have swapped := swap_outer parts.withLinkExchanged wrapped
    rw [placed]
    apply (congrArg (Option.bind · _) swapped).trans
    exact inside

theorem redirect_takes (parts : Dissection) (tunnelReturn : TunnelReturn) :
    (match parts.layout.outer, tunnelReturn with
      | some outer, .endpoint address =>
        match outer.family with
        | .v6 => Edit.write outer.destinationOffset (Address.octetsV6 address)
        | .v4 => return ()
      | _, _ => return () : Edit Unit).Takes parts (parts.withOuter (.returned tunnelReturn)) := by
  cases wrapped : parts.outer with
  | none =>
    have direct := Dissection.layout_outer_of_none wrapped
    rw [direct, Dissection.withOuter_of_none _ wrapped]
    exact takes_nothing parts
  | some outer =>
    have placed := Dissection.layout_outer_of_some wrapped
    have split := parts.split_outer wrapped
    have result := Dissection.octets_withOuter (.returned tunnelReturn) wrapped
    -- where nothing is written, the header was already the one that is wanted
    have unchanged : (IpFields.Rewrite.returned tunnelReturn).apply outer = outer →
        (pure () : Edit Unit).Takes parts (parts.withOuter (.returned tunnelReturn)) := by
      intro same before after
      rw [result, same, ← split]
      rfl
    rw [placed]
    cases tunnelReturn with
    | reflect => exact unchanged (by cases outer <;> rfl)
    | endpoint address =>
      cases outer with
      | v4 fields => exact unchanged rfl
      | v6 fields => exact takes_write (Dissection.patch_returned wrapped address)

theorem turnAround_takes (parts : Dissection) (settings : Settings) :
    (turnAround parts.layout settings).Takes parts
      (parts.exchanged.withOuter (.returned settings.tunnelReturn)) := by
  have swapped : (Edit.step (·.change? (swapEndpoints? parts.layout))).Takes parts
      parts.exchanged := by
    intro before after
    exact run_step (congrArg (Option.map _) (swapEndpoints_eq parts))
  have sent := redirect_takes parts.exchanged settings.tunnelReturn
  rw [Dissection.layout_exchanged] at sent
  exact swapped.trans sent

/-! ## Writing the checksums -/

theorem ipv4Header_eq (fields : Ipv4Fields) :
    ∃ sum, Checksum.ipv4Header fields.octets = some sum := by
  rcases fields.length_octets_bounds with ⟨long, short⟩
  have inside : ¬ (fields.octets.length < 20 ∨ Checksum.maxIpv4HeaderSize < fields.octets.length) := by
    omega
  rw [Checksum.ipv4Header, if_neg inside]
  exact ⟨_, rfl⟩

theorem udp_eq (source destination : Bytes) {datagram : Bytes}
    (below : datagram.length ≤ Checksum.maxDatagramSize) :
    ∃ sum, Checksum.udp source destination datagram = some sum := by
  rw [Checksum.udp, if_neg (Nat.not_lt_of_le below)]
  exact ⟨_, rfl⟩

theorem writeHeaderChecksum_takes (parts : Dissection) :
    (writeHeaderChecksum parts.layout.inner).Takes parts (parts.withInner .checksummed) := by
  have result := parts.octets_withInner .checksummed
  obtain ⟨whole, shown⟩ : ∃ whole, whole = parts.withInner .checksummed := ⟨_, rfl⟩
  rw [← shown] at result ⊢
  have split := parts.split_inner
  have header : parts.layout.inner = parts.inner.header parts.innerOffset := rfl
  rw [header]
  cases inner : parts.inner with
  | v4 fields =>
    rw [inner] at result split
    rcases ipv4Header_eq fields with ⟨sum, found⟩
    have read := Bytes.slice?_of_split split parts.length_before_inner fields.length_octets
    refine takes_read read (takes_attempt (Checksum.checkedIpv4Header_eq _)
      (takes_orRefuse found (takes_write ?_)))
    · rw [result]
      refine (Bytes.patch?_inside split parts.length_before_inner
        (fields.patch_checksum sum)).trans ?_
      simp only [IpFields.Rewrite.checksummed, found, Option.getD_some]
      rfl
  | v6 fields =>
    rw [inner] at result split
    intro before after
    rw [result, split]
    rfl

/-- Writing the checksum of the datagram, where the reply carries one. -/
theorem writeDatagramChecksum_takes (parts : Dissection) (settings : Settings)
    (below : isChecksummed parts.layout settings → parts.datagramSize ≤ Checksum.maxDatagramSize) :
    (writeDatagramChecksum parts.layout settings).Takes parts
      (parts.datagramChecksummed settings) := by
  have read : parts.octets.slice? parts.layout.udp (parts.octets.length - parts.layout.udp) =
      some (parts.udp.octets ++ parts.message) := by
    have split : parts.octets = (parts.linkOctets ++ (parts.outerOctets ++ parts.inner.octets)) ++
        ((parts.udp.octets ++ parts.message) ++ []) := by
      rw [List.append_nil]
      exact parts.split_udp
    have udp : parts.layout.udp = parts.udpOffset := rfl
    refine Bytes.slice?_of_split split parts.length_before_udp ?_
    rw [parts.length_octets, List.length_append, UdpFields.length_octets, udp,
      Dissection.messageOffset]
    omega
  apply takes_read read
  rw [Dissection.datagramChecksummed]
  by_cases checksummed : isChecksummed parts.layout settings = true
  · rw [if_pos checksummed, if_pos checksummed]
    have short : (parts.udp.octets ++ parts.message).length ≤ Checksum.maxDatagramSize := by
      rw [List.length_append, UdpFields.length_octets]
      exact below checksummed
    rcases udp_eq parts.inner.source.octets parts.inner.destination.octets short with ⟨sum, found⟩
    rw [found]
    apply takes_read (parts.inner.slice_source parts.split_inner parts.length_before_inner)
    refine takes_read (parts.inner.slice_destination parts.split_inner
      parts.length_before_inner) ?_
    exact takes_orRefuse found
      (takes_write (Dissection.patch_udp (parts.udp.patch_checksum sum)))
  · rw [if_neg checksummed, if_neg checksummed]
    exact takes_nothing parts

/-! ## The whole reply -/

theorem length_answer (response : Dns.Response) {querySize : Nat}
    (starts : Header.dns.size + querySize ≤ parts.message.length) :
    (parts.answer querySize response).length =
      messageSize querySize response.answerSection.length := by
  simp only [Dissection.answer, Dissection.questionOctets, List.length_append,
    Dns.MessageHeader.length_encode, List.length_take, List.length_drop, messageSize]
  omega

theorem finish_takes (answered : Dissection) {plan : Plan} {settings : Settings}
    (layout : plan.layout = answered.layout)
    (total : plan.newSize = answered.messageOffset + answered.message.length)
    (below : isChecksummed answered.layout settings →
      answered.datagramSize ≤ Checksum.maxDatagramSize) :
    (do
      writeLengths plan
      turnAround plan.layout settings
      writeHeaderChecksum plan.layout.inner
      writeDatagramChecksum plan.layout settings : Edit Unit).Takes answered
    (((answered.sized.exchanged.withOuter (.returned settings.tunnelReturn)).withInner
      .checksummed).datagramChecksummed settings) := by
  have turned := turnAround_takes answered.sized settings
  have headed := writeHeaderChecksum_takes
    (answered.sized.exchanged.withOuter (.returned settings.tunnelReturn))
  have last := writeDatagramChecksum_takes
    ((answered.sized.exchanged.withOuter (.returned settings.tunnelReturn)).withInner .checksummed)
    settings
  simp only [Dissection.layout_withInner, Dissection.layout_withOuter,
    Dissection.layout_exchanged, Dissection.layout_sized, ← layout] at turned headed last below
  exact (writeLengths_takes layout total).trans (turned.trans (headed.trans (last below)))

/-- Carrying out the plan of a reply that fits writes the reply, and nothing on the way fails. -/
theorem carryOut_run {before after : Bytes} {querySize : Nat} {response : Dns.Response}
    {settings : Settings}
    (fits : Fits parts after.length querySize response.answerSection.length settings) :
    (carryOut (planFor parts querySize response.answerSection.length) response settings).run
        ⟨before, parts.octets, after⟩ =
      .ok () ⟨before ++ parts.octets.take parts.layout.stripSize,
        (parts.reply querySize response settings).octets,
        after.drop (planFor parts querySize response.answerSection.length).grow⟩ := by
  have starts := fits.starts
  have covers := fits.covers
  have room := fits.room
  have long := length_answer response starts
  obtain ⟨plan, planned⟩ : ∃ plan,
      plan = planFor parts querySize response.answerSection.length := ⟨_, rfl⟩
  have layout : plan.layout = parts.unwrapped.layout := by rw [planned]; rfl
  have strip : plan.strip = parts.layout.stripSize := by rw [planned]; rfl
  have total : plan.newSize = parts.unwrapped.messageOffset
      + (parts.answer querySize response).length := by
    rw [planned, long]
    rfl
  have below : isChecksummed parts.layout settings →
      Header.udp.size + (parts.answer querySize response).length ≤ Checksum.maxDatagramSize := by
    rw [long]
    exact fits.checksum
  have left := leaveTunnel_run parts strip layout before after
  have finished := finish_takes (parts.unwrapped.withMessage (parts.answer querySize response))
    layout total below
  have grown : parts.message.length + plan.grow =
      messageSize querySize response.answerSection.length := by
    rw [planned]
    exact Nat.add_sub_cancel' covers
  have roomy : plan.grow ≤ after.length := by
    omega
  rw [← planned, ← strip]
  apply (run_bind left).trans
  have answerStart : plan.answerStart =
      parts.unwrapped.messageOffset + (Header.dns.size + querySize) := by rw [planned]; rfl
  have dns : plan.layout.dns = parts.unwrapped.messageOffset := by rw [planned]; rfl
  rw [answerStart, dns]
  exact (writeMessage_run parts.unwrapped starts grown roomy).trans (finished _ _)

variable {frame : Frame} {querySize : Nat} {response : Dns.Response} {settings : Settings}

/-- The frame of the reply where its query was. -/
def repliedFrame (frame : Frame) (parts : Dissection) (querySize : Nat) (response : Dns.Response)
    (settings : Settings) : Frame where
  before := frame.before ++ frame.octets.take parts.layout.stripSize
  octets := (parts.reply querySize response settings).octets
  after := frame.after.drop (planFor parts querySize response.answerSection.length).grow

/-- The plan is made before anything is changed. -/
theorem reply_run (layout : Layout) :
    (reply layout response querySize settings).run frame =
      match plan frame layout response.answerSection.length querySize settings with
      | .ok plan => (carryOut plan response settings).run frame
      | .error stop => .error stop frame := by
  have got : (get : Edit Frame).run frame = .ok frame frame := rfl
  apply (run_bind got).trans
  cases planned : plan frame layout response.answerSection.length querySize settings with
  | ok made => exact run_bind (run_attempt rfl)
  | error stop => rfl

theorem reply_run_of_fits (whole : frame.octets = parts.octets)
    (fits : Fits parts frame.tailroom querySize response.answerSection.length settings) :
    (reply parts.layout response querySize settings).run frame =
      .ok () (repliedFrame frame parts querySize response settings) := by
  have planned := (plan_eq_ok_iff whole).mpr ⟨fits, rfl⟩
  rcases frame with ⟨before, octets, after⟩
  obtain rfl : octets = parts.octets := whole
  rw [reply_run, planned]
  exact carryOut_run fits

/-- A reply that does not fit leaves the frame alone, for the reason that there is no plan for it. -/
theorem reply_run_of_not_fits (whole : frame.octets = parts.octets)
    (excess : ¬ Fits parts frame.tailroom querySize response.answerSection.length settings) :
    ∃ stop, plan frame parts.layout response.answerSection.length querySize settings = .error stop
      ∧ (reply parts.layout response querySize settings).run frame = .error stop frame := by
  rw [reply_run]
  cases planned : plan frame parts.layout response.answerSection.length querySize settings with
  | ok made => exact absurd ((plan_eq_ok_iff whole).mp planned).1 excess
  | error stop => exact ⟨stop, rfl, rfl⟩

end Reply
end DnsResponder
