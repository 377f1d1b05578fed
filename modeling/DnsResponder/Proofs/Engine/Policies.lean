import DnsResponder.Proofs.Administration
import DnsResponder.Proofs.Engine.Envelope
import DnsResponder.Proofs.Reply.Policies

namespace DnsResponder

/-!
# What the policies of a reply can change

A frame is processed twice, under settings that differ in one policy.  A fixed far end of tunnels
changes nothing but sixteen octets in replies that leave through a tunnel.  A computed checksum over
IPv4 changes nothing but two octets of a reply.  In either case a frame that is passed on stays as it
came, and the counters do not tell the policies apart.

What a frame asks is asked under all policies.  So the two runs are the same up to the reply, and the
replies are compared as dissections.
-/

/-- The responder with these policies. -/
def Responder.withPolicies (responder : Responder) (checksum : Udp4Checksum)
    (tunnelReturn : TunnelReturn) : Responder :=
  { responder with settings := responder.settings.withPolicies checksum tunnelReturn }

namespace Engine

open Packet

/-! ## How two results can differ -/

/-- The second reply is the first one but for the far end of its tunnel, which only IPv4 in IPv6
keeps. -/
def Redirected (address : BitVec 128) (layout : Layout) (reflected redirected : Frame) : Prop :=
  match layout.tunnel, layout.outer with
  | .ipv4InIpv6, some header =>
    reflected.write? header.destinationOffset (Address.octetsV6 address) = some redirected
  | _, _ => redirected = reflected

/-- Offset of the UDP header in the reply, behind what is left of the headers in front of it. -/
def replyUdp (layout : Layout) : Nat :=
  layout.udp - layout.stripSize

/-- The second reply is the first one but for the checksum of a datagram over IPv4. -/
def OnlySummed (layout : Layout) (unsummed summed : Frame) : Prop :=
  match layout.inner.family with
  | .v4 => ∃ sum, unsummed.write? (replyUdp layout + 6) (Bytes.ofWord sum) = some summed
  | .v6 => summed = unsummed

/-- Processing a frame under two policies does the same and counts the same.  The frame is passed on
both times, as it came, or it is sent both times, and then the replies are related. -/
structure Confined (responder : Responder) (frame : Frame)
    (related : Layout → Frame → Frame → Prop)
    (first second : Action × Frame × Responder × Log) : Prop where
  action : second.1 = first.1
  metrics : second.2.2.1.metrics = first.2.2.1.metrics
  head : second.2.1.head = first.2.1.head
  size : second.2.1.size = first.2.1.size
  passed : first.1 = .pass → first.2.1 = frame ∧ second.2.1 = frame
  sent : first.1 = .transmit → ∃ layout cursor,
    locate frame.octets responder.settings.dnsPort = .ok (layout, cursor)
      ∧ related layout first.2.1 second.2.1

/-! ## What a frame asks -/

section Asking

variable {settings : Settings} {tables : Tables} {data : Bytes} {parts : Dissection}
  {query : Dns.MessageHeader} {question : Dns.Question} {answer : Answer}
  (checksum : Udp4Checksum) (tunnelReturn : TunnelReturn)

theorem receive_withPolicies :
    receive (settings.withPolicies checksum tunnelReturn) = receive settings := rfl

theorem inquire_withPolicies :
    inquire (settings.withPolicies checksum tunnelReturn) = inquire settings := rfl

/-- What a frame asks does not hang on the policies. -/
theorem Asks.withPolicies (asks : Asks settings tables data parts query question answer) :
    Asks (settings.withPolicies checksum tunnelReturn) tables data parts query question answer :=
  ⟨asks.whole, asks.port, asks.inService, asks.message, asks.standard, asks.questions, asks.decoded,
    asks.resolved, asks.wet⟩

/-- A frame asks something, or it is passed on in the same way under all policies. -/
theorem asks_or_same (settings : Settings) (tables : Tables) (frame : Frame) :
    (∃ parts query question answer,
        Asks settings tables frame.octets parts query question answer) ∨
      ((handle settings tables frame).action = .pass ∧ (handle settings tables frame).frame = frame
        ∧ ∀ checksum tunnelReturn,
          handle (settings.withPolicies checksum tunnelReturn) tables frame =
            handle settings tables frame) := by
  have randomTtl (checksum : Udp4Checksum) (tunnelReturn : TunnelReturn) :
      (settings.withPolicies checksum tunnelReturn).randomTtl = settings.randomTtl := rfl
  have dryRun (checksum : Udp4Checksum) (tunnelReturn : TunnelReturn) :
      (settings.withPolicies checksum tunnelReturn).dryRun = settings.dryRun := rfl
  have course := course_of_handle settings tables frame
  generalize handle settings tables frame = run at course ⊢
  cases course with
  | unreceived stopped =>
    refine .inr ⟨rfl, rfl, fun checksum tunnelReturn => ?_⟩
    simp only [handle, receive_withPolicies, stopped]
  | unread received inquired =>
    refine .inr ⟨rfl, rfl, fun checksum tunnelReturn => ?_⟩
    simp only [handle, receive_withPolicies, inquire_withPolicies, received, inquired]
  | unresolved received inquired resolved =>
    refine .inr ⟨rfl, rfl, fun checksum tunnelReturn => ?_⟩
    simp only [handle, receive_withPolicies, inquire_withPolicies, randomTtl, received, inquired,
      resolved]
  | dry received inquired resolved dry =>
    refine .inr ⟨rfl, rfl, fun checksum tunnelReturn => ?_⟩
    simp only [handle, receive_withPolicies, inquire_withPolicies, randomTtl, dryRun, received,
      inquired, resolved, dry, if_true]
  | unfit asks => exact .inl ⟨_, _, _, _, asks⟩
  | replied asks => exact .inl ⟨_, _, _, _, asks⟩

end Asking

/-! ## The replies -/

section Replies

variable (frame : Frame) (parts : Dissection) (querySize : Nat) (response : Dns.Response)
  (settings : Settings)

/-- What is written over a reply is written over its frame. -/
theorem write_repliedFrame {first second : Settings} {offset : Nat} {octets : Bytes}
    (patched : (parts.reply querySize response first).octets.patch? offset octets =
      some (parts.reply querySize response second).octets) :
    (Reply.repliedFrame frame parts querySize response first).write? offset octets =
      some (Reply.repliedFrame frame parts querySize response second) :=
  congrArg (Option.map fun octets =>
    ({ Reply.repliedFrame frame parts querySize response first with octets } : Frame)) patched

theorem redirected_replies (checksum : Udp4Checksum) (address : BitVec 128) :
    Redirected address parts.layout
      (Reply.repliedFrame frame parts querySize response (settings.withPolicies checksum .reflect))
      (Reply.repliedFrame frame parts querySize response
        (settings.withPolicies checksum (.endpoint address))) := by
  cases kept : parts.keptOuter with
  | none =>
    have same := parts.reply_endpoint_of_none querySize response settings kept checksum address
    have elsewhere : parts.layout.tunnel ≠ .ipv4InIpv6 := by
      rw [ne_eq, ← parts.isSome_keptOuter, kept]
      exact Bool.false_ne_true
    rw [Redirected]
    split
    · next tunnel _ => exact absurd tunnel elsewhere
    · simp only [Reply.repliedFrame, same]
  | some outer =>
    rcases Dissection.of_keptOuter kept with ⟨⟨fields, rfl⟩, wrapped, -⟩
    have patched := parts.patch_endpoint querySize response settings kept checksum address
    have tunnel : parts.layout.tunnel = .ipv4InIpv6 := by
      rw [← parts.isSome_keptOuter, kept]
      rfl
    rw [Redirected, Dissection.layout_outer_of_some wrapped, tunnel]
    exact write_repliedFrame frame parts querySize response patched

theorem replyUdp_layout (parts : Dissection) : replyUdp parts.layout = parts.unwrapped.udpOffset :=
  Nat.sub_eq_of_eq_add' parts.udpOffset_eq

theorem onlySummed_replies (tunnelReturn : TunnelReturn) :
    OnlySummed parts.layout
      (Reply.repliedFrame frame parts querySize response (settings.withPolicies .zero tunnelReturn))
      (Reply.repliedFrame frame parts querySize response
        (settings.withPolicies .compute tunnelReturn)) := by
  have family : parts.layout.inner.family = parts.inner.family := rfl
  rw [OnlySummed, family, replyUdp_layout]
  cases inner : parts.inner.family with
  | v4 =>
    rcases parts.patch_compute querySize response settings inner tunnelReturn with ⟨sum, patched⟩
    exact ⟨sum, write_repliedFrame frame parts querySize response patched⟩
  | v6 =>
    have same := parts.reply_compute_of_v6 querySize response settings inner tunnelReturn
    simp only [Reply.repliedFrame, same]

end Replies

/-! ## The two runs -/

section Runs

variable {responder : Responder} {moment : Moment} {frame : Frame} {log : Log}
  {related : Layout → Frame → Frame → Prop} {checksum other : Udp4Checksum}
  {tunnelReturn another : TunnelReturn}

/-- How two runs end that are counted as the same: both left the frame alone, or they sent related
replies of one size from one place. -/
inductive SameEnd (responder : Responder) (frame : Frame) (related : Layout → Frame → Frame → Prop)
    (first second : Run) : Prop
  | passed (firstPassed : first.action = .pass) (secondPassed : second.action = .pass)
      (firstKept : first.frame = frame) (secondKept : second.frame = frame)
  | sent {layout : Layout} {cursor : Cursor} (firstSent : first.action = .transmit)
      (secondSent : second.action = .transmit)
      (located : locate frame.octets responder.settings.dnsPort = .ok (layout, cursor))
      (head : second.frame.head = first.frame.head) (size : second.frame.size = first.frame.size)
      (replies : related layout first.frame second.frame)

/-- Runs with the same end are confined. -/
theorem SameEnd.confined {first second : Run} (same : SameEnd responder frame related first second)
    (reception : second.reception = first.reception) (outcome : second.outcome? = first.outcome?)
    (here : handle (responder.settings.withPolicies checksum tunnelReturn) responder.tables frame =
      first)
    (there : handle (responder.settings.withPolicies other another) responder.tables frame =
      second) :
    Confined responder frame related
      ((responder.withPolicies checksum tunnelReturn).process moment frame log)
      ((responder.withPolicies other another).process moment frame log) := by
  have firstAction : ((responder.withPolicies checksum tunnelReturn).process moment frame log).1 =
      first.action := congrArg Run.action here
  have secondAction : ((responder.withPolicies other another).process moment frame log).1 =
      second.action := congrArg Run.action there
  have firstFrame : ((responder.withPolicies checksum tunnelReturn).process moment frame log).2.1 =
      first.frame := congrArg Run.frame here
  have secondFrame : ((responder.withPolicies other another).process moment frame log).2.1 =
      second.frame := congrArg Run.frame there
  have firstMetrics : ((responder.withPolicies checksum tunnelReturn).process moment frame
      log).2.2.1.metrics = count responder.settings moment first responder.metrics :=
    (Responder.metrics_process ..).trans
      (congrArg (count responder.settings moment · responder.metrics) here)
  have secondMetrics : ((responder.withPolicies other another).process moment frame
      log).2.2.1.metrics = count responder.settings moment second responder.metrics :=
    (Responder.metrics_process ..).trans
      (congrArg (count responder.settings moment · responder.metrics) there)
  have metrics : count responder.settings moment second responder.metrics =
      count responder.settings moment first responder.metrics := by
    rw [count, count, reception, outcome]
  cases same with
  | passed firstPassed secondPassed firstKept secondKept =>
    rw [firstPassed] at firstAction
    rw [secondPassed] at secondAction
    rw [firstKept] at firstFrame
    rw [secondKept] at secondFrame
    refine ⟨secondAction.trans firstAction.symm, secondMetrics.trans (metrics.trans firstMetrics.symm),
      ?_, ?_, fun _ => ⟨firstFrame, secondFrame⟩, ?_⟩
    · rw [secondFrame, firstFrame]
    · rw [secondFrame, firstFrame]
    · intro sent
      cases firstAction.symm.trans sent
  | sent firstSent secondSent located head size replies =>
    rw [firstSent] at firstAction
    rw [secondSent] at secondAction
    refine ⟨secondAction.trans firstAction.symm, secondMetrics.trans (metrics.trans firstMetrics.symm),
      ?_, ?_, ?_, ?_⟩
    · rw [secondFrame, firstFrame, head]
    · rw [secondFrame, firstFrame, size]
    · intro passed
      cases firstAction.symm.trans passed
    · intro _
      rw [secondFrame, firstFrame]
      exact ⟨_, _, located, replies⟩

variable {parts : Dissection} {query : Dns.MessageHeader} {question : Dns.Question}
  {answer : Answer}
  (asks : Asks responder.settings responder.tables frame.octets parts query question answer)

include asks

/-- A frame that asks something is passed on when its reply fits under neither policy. -/
theorem confined_of_not_fits
    (excess : ¬ ReplyFits (responder.settings.withPolicies checksum tunnelReturn) frame parts query
      question answer)
    (also : ¬ ReplyFits (responder.settings.withPolicies other another) frame parts query question
      answer) :
    Confined responder frame related
      ((responder.withPolicies checksum tunnelReturn).process moment frame log)
      ((responder.withPolicies other another).process moment frame log) := by
  rcases handle_of_not_fits (asks.withPolicies checksum tunnelReturn) excess with ⟨cause, -, first⟩
  rcases handle_of_not_fits (asks.withPolicies other another) also with ⟨reason, -, second⟩
  refine SameEnd.confined ?_ ?_ ?_ first second
  · exact .passed rfl rfl rfl rfl
  · rfl
  · rfl

/-- A frame that asks something is sent when its reply fits under both policies. -/
theorem confined_of_fits
    (fits : ReplyFits (responder.settings.withPolicies checksum tunnelReturn) frame parts query
      question answer)
    (also : ReplyFits (responder.settings.withPolicies other another) frame parts query question
      answer)
    (replies : related parts.layout
      (Reply.repliedFrame frame parts question.consumed
        (responseFor responder.settings frame.octets parts query question answer)
        (responder.settings.withPolicies checksum tunnelReturn))
      (Reply.repliedFrame frame parts question.consumed
        (responseFor responder.settings frame.octets parts query question answer)
        (responder.settings.withPolicies other another))) :
    Confined responder frame related
      ((responder.withPolicies checksum tunnelReturn).process moment frame log)
      ((responder.withPolicies other another).process moment frame log) := by
  have first := handle_of_fits (asks.withPolicies checksum tunnelReturn) fits
  have second := handle_of_fits (asks.withPolicies other another) also
  have size := (size_repliedFrame _ also).trans (size_repliedFrame _ fits).symm
  refine SameEnd.confined ?_ ?_ ?_ first second
  · exact .sent rfl rfl asks.located rfl size replies
  · rfl
  · rfl

/-- The reply to a frame is short enough for a checksum. -/
theorem below_ceiling : Header.udp.size + Reply.messageSize question.consumed
    (responseFor responder.settings frame.octets parts query question answer).answerSection.length ≤
      Checksum.maxDatagramSize := by
  have asked := Dns.Question.consumed_le asks.decoded
  have answered : (responseFor responder.settings frame.octets parts query question
      answer).answerSection.length ≤ Dns.Response.maxSectionSize := by
    rw [responseFor, responseTo, Dns.Response.length_records]
    exact Dns.Response.sectionSize_le ..
  simp only [Dns.Response.maxSectionSize] at answered
  simp only [Reply.messageSize, Header.size, Checksum.maxDatagramSize]
  omega

theorem fits_compute_iff :
    ReplyFits (responder.settings.withPolicies .compute tunnelReturn) frame parts query question
        answer ↔
      ReplyFits (responder.settings.withPolicies .zero tunnelReturn) frame parts query question
        answer :=
  ⟨fun fits => fits.of_compute, fun fits => fits.compute (below_ceiling asks)⟩

end Runs

/-- Each policy is confined to its own octets.  With a fixed far end of tunnels, a frame is processed
as it would be without, but for the destination of a tunnel that stays.  With computed checksums, it
is processed as it would be without, but for the checksum of a datagram over IPv4.

A plan is refused for such a checksum only if the datagram is too long for one.  This does not cost
any frame its reply, since questions are never that long. -/
theorem policies_confined (responder : Responder) (address : BitVec 128) (moment : Moment)
    (frame : Frame) (log : Log) :
    (∀ checksum, Confined responder frame (Redirected address)
      ((responder.withPolicies checksum .reflect).process moment frame log)
      ((responder.withPolicies checksum (.endpoint address)).process moment frame log))
    ∧ (∀ tunnelReturn, Confined responder frame OnlySummed
      ((responder.withPolicies .zero tunnelReturn).process moment frame log)
      ((responder.withPolicies .compute tunnelReturn).process moment frame log))
    ∧ ∀ layout replySize querySize tunnelReturn,
      Reply.SameBelowCeiling (layout.inner.family = .v4 ∧ Checksum.maxDatagramSize <
          Reply.replyEnd layout querySize replySize - layout.udp)
        (Reply.plan frame layout replySize querySize
          (responder.settings.withPolicies .zero tunnelReturn))
        (Reply.plan frame layout replySize querySize
          (responder.settings.withPolicies .compute tunnelReturn)) := by
  refine ⟨?_, ?_, fun layout replySize querySize tunnelReturn => Reply.plan_compute ..⟩
  · intro checksum
    rcases asks_or_same responder.settings responder.tables frame with
      ⟨parts, query, question, answer, asks⟩ | ⟨passed, kept, same⟩
    · by_cases fits : ReplyFits (responder.settings.withPolicies checksum .reflect) frame parts query
          question answer
      · exact confined_of_fits asks fits ((Reply.fits_withPolicies_iff ..).mp fits)
          (redirected_replies ..)
      · exact confined_of_not_fits asks fits fun also =>
          fits ((Reply.fits_withPolicies_iff ..).mp also)
    · exact SameEnd.confined (.passed passed passed kept kept) rfl rfl (same ..) (same ..)
  · intro tunnelReturn
    rcases asks_or_same responder.settings responder.tables frame with
      ⟨parts, query, question, answer, asks⟩ | ⟨passed, kept, same⟩
    · by_cases fits : ReplyFits (responder.settings.withPolicies .zero tunnelReturn) frame parts
          query question answer
      · exact confined_of_fits asks fits ((fits_compute_iff asks).mpr fits) (onlySummed_replies ..)
      · exact confined_of_not_fits asks fits fun also => fits ((fits_compute_iff asks).mp also)
    · exact SameEnd.confined (.passed passed passed kept kept) rfl rfl (same ..) (same ..)

/-! ## A tunnel that stays -/

namespace Specimen

/-- The query of the specimen, wrapped in IPv6. -/
def inIpv6 : Dissection :=
  { parts with
    outer := some (.v6 ⟨⟨0x60, 0, 0, 48, protocolIpv4, 64, 1, 2⟩, by decide⟩)
    carries := by
      intro tunnel wrapped
      cases wrapped
      rfl }

def inIpv6Frame : Frame :=
  ⟨[], inIpv6.octets, List.replicate 16 0⟩

end Specimen

open Specimen in
/-- The query in a tunnel from 1 to 2 is answered to 1, or to a fixed far end, which then stands at
offset 42 of the reply. -/
theorem specimen_is_redirected :
    ∃ reflected redirected : Frame,
      ((responder.withPolicies .zero .reflect).process ⟨0, 0, 0⟩ inIpv6Frame
        { processId := "1" }).2.1 = reflected
      ∧ ((responder.withPolicies .zero (.endpoint 5)).process ⟨0, 0, 0⟩ inIpv6Frame
        { processId := "1" }).2.1 = redirected
      ∧ reflected.octets.slice? 42 16 = some (Address.octetsV6 1)
      ∧ reflected.write? 42 (Address.octetsV6 5) = some redirected := by
  have confined := (policies_confined responder 5 ⟨0, 0, 0⟩ inIpv6Frame { processId := "1" }).1 .zero
  have sent : ((responder.withPolicies .zero .reflect).process ⟨0, 0, 0⟩ inIpv6Frame
      { processId := "1" }).1 = .transmit := by
    decide +kernel
  rcases confined.sent sent with ⟨layout, cursor, located, redirected⟩
  have port : inIpv6.udp.destination = responder.settings.dnsPort := rfl
  have octets : inIpv6Frame.octets = inIpv6.octets := rfl
  rw [octets, locate_octets, if_pos port] at located
  obtain rfl : inIpv6.layout = layout := congrArg Prod.fst (Except.ok.inj located)
  refine ⟨_, _, rfl, rfl, ?_, redirected⟩
  decide +kernel

end Engine
end DnsResponder
