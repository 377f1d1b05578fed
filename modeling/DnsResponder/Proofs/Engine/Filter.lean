import DnsResponder.Proofs.Engine.Conservation
import DnsResponder.Proofs.Engine.Envelope
import DnsResponder.Proofs.Reply.Tunnel

namespace DnsResponder
namespace Engine

open Packet

/-!
# What the filter sees

A frame is let in for the destination of the packet that carries its datagram, and for nothing else.
What is not let in meets no other stage: it makes no difference which records are stored, which
options are set, or what has been counted before.  The header of a tunnel plays no part in this.  Two
frames in tunnels with other ends are let in or left out together, ask the same, and get replies in
which only the ends of a tunnel that stays are different.

Both are statements about two runs.  The first is proved from what a single run does, since everybody
leaves such a frame alone.  For the second, the course of the one run is followed in the other.
-/

/-! ## Frames that are left out -/

/-- Nothing leads from the headers of a frame to a destination in service. -/
def Ignored (port : UInt16) (served : Served) (data : Bytes) : Prop :=
  ∀ layout cursor, locate data port = .ok (layout, cursor) →
    ∀ destination, layout.destination? data = some destination →
      ∀ block ∈ served.blocks, block.covers destination = false

/-- The frame goes on as it came, and the responder stays as it was. -/
def LeavesAlone (responder : Responder) (moment : Moment) (frame : Frame) (log : Log) : Prop :=
  (responder.process moment frame log).1 = .pass
  ∧ (responder.process moment frame log).2.1 = frame
  ∧ (responder.process moment frame log).2.2.1 = responder

section Ignoring

variable {settings : Settings} {tables : Tables} {frame : Frame}

theorem arrives_of_ignored {served : Served} {data : Bytes}
    (ignored : Ignored settings.dnsPort served data) : arrives settings served data = false := by
  unfold arrives
  cases located : locate data settings.dnsPort with
  | error reason => rfl
  | ok found =>
    rcases found with ⟨layout, cursor⟩
    cases shown : layout.destination? data with
    | none => simp only [shown]
    | some destination =>
      have missed := Served.contains_eq_false (ignored layout cursor located destination shown)
      simp only [shown, missed, Bool.false_and]

/-- A frame that does not arrive is passed on and counted as nothing. -/
theorem handle_of_not_arrives (missed : arrives settings tables.served frame.octets = false) :
    (handle settings tables frame).reception = none
      ∧ (handle settings tables frame).action = .pass
      ∧ (handle settings tables frame).outcome? = none
      ∧ (handle settings tables frame).frame = frame := by
  have reception := @isSome_reception settings tables frame
  have outcome := @isSome_outcome? settings tables frame
  rw [missed, Option.isSome_eq_false_iff, Option.isNone_iff_eq_none] at reception
  rw [missed, Bool.false_and, Option.isSome_eq_false_iff, Option.isNone_iff_eq_none] at outcome
  have passed : (handle settings tables frame).action = .pass := by
    cases action : (handle settings tables frame).action with
    | pass => rfl
    | transmit =>
      rcases asks_of_transmit action with ⟨parts, query, question, answer, asks, -⟩
      rw [arrives_iff_receive.mpr ⟨_, asks.steps.1⟩] at missed
      cases missed
  exact ⟨reception, passed, outcome, frame_of_pass passed⟩

/-- Only what is sent is captured. -/
theorem captureReply_of_pass {run : Run} (passed : run.action = .pass) (moment : Moment)
    (observers : Observers) : captureReply settings moment run observers = observers := by
  have unsent : ¬ (run.action = .transmit ∧ settings.captureEnabled = true) := by
    rw [passed]
    rintro ⟨impossible, -⟩
    cases impossible
  rw [captureReply]
  split
  · rfl
  · exact if_neg unsent

theorem leavesAlone_of_ignored {responder : Responder}
    (ignored : Ignored responder.settings.dnsPort responder.tables.served frame.octets)
    (moment : Moment) (log : Log) : LeavesAlone responder moment frame log := by
  rcases handle_of_not_arrives (arrives_of_ignored ignored) with ⟨reception, passed, -, same⟩
  have metrics : (responder.process moment frame log).2.2.1.metrics = responder.metrics := by
    rw [Responder.metrics_process, count, reception, Option.isSome_none, Bool.and_false]
    exact if_neg Bool.false_ne_true
  have capture : (responder.process moment frame log).2.2.1.capture = responder.capture :=
    congrArg Observers.capture (captureReply_of_pass passed moment _)
  refine ⟨passed, same, ?_⟩
  calc
    (responder.process moment frame log).2.2.1 =
        { responder with
          metrics := (responder.process moment frame log).2.2.1.metrics
          capture := (responder.process moment frame log).2.2.1.capture } := rfl
    _ = responder := by rw [metrics, capture]

end Ignoring

/-! ## Another header of the tunnel -/

section Rewriting

variable {settings : Settings} {tables : Tables} {parts : Dissection}
  (change : IpFields.Rewrite)

theorem messageOffset_withOuter (parts : Dissection) :
    (parts.withOuter change).messageOffset = parts.messageOffset :=
  congrArg Layout.dns (parts.layout_withOuter change)

theorem receptionOf_withOuter (parts : Dissection) (query : Dns.MessageHeader) :
    receptionOf (parts.withOuter change) query = receptionOf parts query := by
  rw [receptionOf, receptionOf, parts.layout_withOuter, messageOffset_withOuter]
  rfl

theorem receive_withOuter {served : Served} {reception : Reception}
    (received : receive settings served parts.octets = .ok reception) :
    receive settings served (parts.withOuter change).octets = .ok reception := by
  rcases of_receive received with ⟨found, query, body, whole, port, inService, message, rfl⟩
  rcases Dissection.eq_of_octets whole with rfl
  rw [← receptionOf_withOuter change]
  exact receive_eq port inService message

/-- What is decoded in the message does not depend on the headers in front. -/
theorem decode_withOuter (parts : Dissection) (within : Nat) (policy : Dns.NamePolicy) :
    Dns.Question.decode (parts.withOuter change).octets (parts.messageOffset + within) policy =
      Dns.Question.decode parts.octets (parts.messageOffset + within) policy := by
  have start := (parts.withOuter change).length_headers.trans (messageOffset_withOuter change parts)
  rw [Dns.Question.decode_within (parts.withOuter change).split_message start,
    Dns.Question.decode_within parts.split_message parts.length_headers]
  rfl

theorem optFollows_withOuter (parts : Dissection) (within : Nat) :
    Dns.optFollows (parts.withOuter change).octets (parts.messageOffset + within) =
      Dns.optFollows parts.octets (parts.messageOffset + within) := by
  have start := (parts.withOuter change).length_headers.trans (messageOffset_withOuter change parts)
  rw [Dns.optFollows_within (parts.withOuter change).split_message start,
    Dns.optFollows_within parts.split_message parts.length_headers]
  rfl

theorem inquire_withOuter (parts : Dissection) (query : Dns.MessageHeader) :
    inquire settings (parts.withOuter change).octets (receptionOf parts query) =
      inquire settings parts.octets (receptionOf parts query) := by
  have decoded := decode_withOuter change parts Header.dns.size settings.namePolicy
  have start : (receptionOf parts query).questionStart = parts.messageOffset + Header.dns.size := rfl
  rw [inquire, inquire, start, decoded]

theorem responseFor_withOuter (parts : Dissection) (query : Dns.MessageHeader)
    (question : Dns.Question) (answer : Answer) :
    responseFor settings (parts.withOuter change).octets (parts.withOuter change) query question
        answer =
      responseFor settings parts.octets parts query question answer := by
  have follows := optFollows_withOuter change parts (Header.dns.size + question.consumed)
  rw [← Nat.add_assoc] at follows
  have start : (receptionOf parts query).questionStart = parts.messageOffset + Header.dns.size := rfl
  have advertised : payloadSize? settings (parts.withOuter change).octets (receptionOf parts query)
      question = payloadSize? settings parts.octets (receptionOf parts query) question := by
    rw [payloadSize?, payloadSize?, start, follows]
  rw [responseFor, responseFor, responseTo, responseTo, receptionOf_withOuter, advertised]

variable {query : Dns.MessageHeader} {question : Dns.Question} {answer : Answer}

/-- A frame asks the same in another tunnel. -/
theorem Asks.withOuter (asks : Asks settings tables parts.octets parts query question answer)
    (before after : Bytes) :
    Asks settings tables (Frame.mk before (parts.withOuter change).octets after).octets
      (parts.withOuter change) query question answer where
  whole := rfl
  port := asks.port
  inService := asks.inService
  message := asks.message
  standard := asks.standard
  questions := asks.questions
  decoded := by
    rw [messageOffset_withOuter]
    exact (decode_withOuter ..).trans asks.decoded
  resolved := asks.resolved
  wet := asks.wet

theorem replyFits_withOuter {before after : Bytes} :
    ReplyFits settings ⟨before, (parts.withOuter change).octets, after⟩ (parts.withOuter change)
        query question answer ↔
      ReplyFits settings ⟨before, parts.octets, after⟩ parts query question answer := by
  rw [ReplyFits, ReplyFits, responseFor_withOuter]
  exact Reply.fits_withOuter change

/-- A frame that is received ends the same in another tunnel, if not for the same limit. -/
theorem ends_withOuter {reception : Reception}
    (received : receive settings tables.served parts.octets = .ok reception)
    (before after : Bytes) :
    (handle settings tables ⟨before, parts.octets, after⟩).action =
        (handle settings tables ⟨before, (parts.withOuter change).octets, after⟩).action
      ∧ (handle settings tables ⟨before, parts.octets, after⟩).outcome? =
        (handle settings tables ⟨before, (parts.withOuter change).octets, after⟩).outcome? := by
  rcases of_receive received with ⟨found, query, body, whole, -, -, -, rfl⟩
  rcases Dissection.eq_of_octets whole with rfl
  have alsoReceived := receive_withOuter change received
  have alsoInquired := @inquire_withOuter settings change parts query
  have course := course_of_handle settings tables ⟨before, parts.octets, after⟩
  generalize handle settings tables ⟨before, parts.octets, after⟩ = run at course ⊢
  -- each stage that the first run came through is computed in the second from what it found there
  cases course with
  | unreceived stopped =>
    rw [received] at stopped
    cases stopped
  | unread again inquired =>
    rcases Except.ok.inj (received.symm.trans again) with rfl
    rw [inquired] at alsoInquired
    simp only [handle, alsoReceived, alsoInquired]
    exact ⟨rfl, rfl⟩
  | unresolved again inquired resolved =>
    rcases Except.ok.inj (received.symm.trans again) with rfl
    rw [inquired] at alsoInquired
    simp only [handle, alsoReceived, alsoInquired, resolved]
    exact ⟨rfl, rfl⟩
  | dry again inquired resolved dry =>
    rcases Except.ok.inj (received.symm.trans again) with rfl
    rw [inquired] at alsoInquired
    simp only [handle, alsoReceived, alsoInquired, resolved, dry, if_true]
    exact ⟨rfl, rfl⟩
  | unfit asks excess limit =>
    rcases Dissection.eq_of_octets asks.whole with rfl
    have alsoExcess := mt (replyFits_withOuter change).mp excess
    rcases handle_of_not_fits (asks.withOuter change before after) alsoExcess with
      ⟨cause, -, handled⟩
    rw [handled]
    exact ⟨rfl, rfl⟩
  | replied asks fits =>
    rcases Dissection.eq_of_octets asks.whole with rfl
    have alsoFits := (replyFits_withOuter change).mpr fits
    rw [handle_of_fits (asks.withOuter change before after) alsoFits]
    exact ⟨rfl, rfl⟩

end Rewriting

/-! ## Other ends of the tunnel -/

section Ends

variable {settings : Settings} {tables : Tables} {first second : Wrapped}

/-- With other ends of its tunnel, a frame that arrives is dissected as before but for these. -/
theorem parts_of_arrives (same : first.SameButEnds second)
    (arrived : arrives settings tables.served first.octets = true) :
    ∃ (parts : Dissection) (reception : Reception),
      receive settings tables.served parts.octets = .ok reception
      ∧ first.octets = parts.octets
      ∧ second.octets = (parts.withOuter (.endsOf second.outer)).octets := by
  rcases arrives_iff_receive.mp arrived with ⟨reception, received⟩
  rcases of_receive received with ⟨parts, -, -, whole, -⟩
  exact ⟨parts, reception, whole ▸ received, whole, same.octets_eq whole⟩

theorem arrives_of_sameButEnds (same : first.SameButEnds second)
    (arrived : arrives settings tables.served first.octets = true) :
    arrives settings tables.served second.octets = true := by
  rcases parts_of_arrives same arrived with ⟨parts, reception, received, -, other⟩
  rw [other]
  exact arrives_iff_receive.mpr ⟨reception, receive_withOuter _ received⟩

/-- Frames in tunnels with other ends are let in or left out together, and end the same. -/
theorem ends_of_sameButEnds (same : first.SameButEnds second) (settings : Settings)
    (tables : Tables) (before after : Bytes) :
    arrives settings tables.served first.octets = arrives settings tables.served second.octets
      ∧ (handle settings tables ⟨before, first.octets, after⟩).action =
        (handle settings tables ⟨before, second.octets, after⟩).action
      ∧ (handle settings tables ⟨before, first.octets, after⟩).outcome? =
        (handle settings tables ⟨before, second.octets, after⟩).outcome? := by
  cases arrived : arrives settings tables.served first.octets with
  | true =>
    rcases parts_of_arrives same arrived with ⟨parts, reception, received, whole, other⟩
    refine ⟨(arrives_of_sameButEnds same arrived).symm, ?_⟩
    rw [whole, other]
    exact ends_withOuter _ received before after
  | false =>
    have missed : arrives settings tables.served second.octets = false := by
      apply Bool.eq_false_iff.mpr
      intro alsoArrived
      rw [arrives_of_sameButEnds same.symm alsoArrived] at arrived
      cases arrived
    rcases @handle_of_not_arrives settings tables ⟨before, first.octets, after⟩ arrived with
      ⟨-, passed, uncounted, -⟩
    rcases @handle_of_not_arrives settings tables ⟨before, second.octets, after⟩ missed with
      ⟨-, alsoPassed, alsoUncounted, -⟩
    rw [passed, uncounted, alsoPassed, alsoUncounted]
    exact ⟨missed.symm, rfl, rfl⟩

/-- What a frame adds to the counters of outcomes follows from whether it arrives and how it ends,
and not from the moment. -/
theorem count_process {responder : Responder} (complete : responder.metrics.Complete)
    {frame other : Frame} (moment later : Moment) (log others : Log)
    (arrived : arrives responder.settings responder.tables.served frame.octets =
      arrives responder.settings responder.tables.served other.octets)
    (ended : (handle responder.settings responder.tables frame).outcome? =
      (handle responder.settings responder.tables other).outcome?) (outcome : Outcome) :
    (responder.process moment frame log).2.2.1.metrics.snapshot.count outcome =
      (responder.process later other others).2.2.1.metrics.snapshot.count outcome := by
  have first := Visit.merged_step (.count outcome) complete ⟨responder, moment, frame, log⟩
  have second := Visit.merged_step (.count outcome) complete ⟨responder, later, other, others⟩
  have amounts (perOutcome : Outcome → Nat) :
      Visit.amount perOutcome (fun _ => 0) ⟨responder, moment, frame, log⟩ =
        Visit.amount perOutcome (fun _ => 0) ⟨responder, later, other, others⟩ := by
    have arrivals : (Visit.mk responder moment frame log).arrives =
        (Visit.mk responder later other others).arrives := arrived
    have endings : (Visit.mk responder moment frame log).run.outcome? =
        (Visit.mk responder later other others).run.outcome? := ended
    rw [Visit.amount, Visit.amount, arrivals, endings]
    rfl
  rw [Metrics.count_snapshot, Metrics.count_snapshot]
  exact first.trans ((congrArg _ (congrArg UInt64.ofNat (amounts _))).trans second.symm)

/-- Where the replies to frames in tunnels with other ends stand, and where they can differ. -/
theorem replies_of_sameButEnds (same : first.SameButEnds second) {before after : Bytes}
    (sent : (handle settings tables ⟨before, first.octets, after⟩).action = .transmit) :
    (handle settings tables ⟨before, first.octets, after⟩).frame.head =
        (handle settings tables ⟨before, second.octets, after⟩).frame.head
      ∧ (handle settings tables ⟨before, first.octets, after⟩).frame.size =
        (handle settings tables ⟨before, second.octets, after⟩).frame.size
      ∧ ∃ layout cursor, locate first.octets settings.dnsPort = .ok (layout, cursor)
        ∧ ∀ place : Nat,
          (handle settings tables ⟨before, first.octets, after⟩).frame.octets[place]? ≠
              (handle settings tables ⟨before, second.octets, after⟩).frame.octets[place]? →
            ∃ header, layout.outer = some header ∧ layout.stripSize = 0
              ∧ header.sourceOffset ≤ place
              ∧ place < header.destinationOffset + header.addressSize := by
  rcases asks_of_transmit sent with ⟨parts, query, question, answer, asks, fits, replied⟩
  have whole : first.octets = parts.octets := asks.whole
  have other := same.octets_eq whole
  rw [whole] at asks fits replied ⊢
  rw [other]
  have alsoAsks := asks.withOuter (.endsOf second.outer) before after
  have alsoFits := (replyFits_withOuter (.endsOf second.outer)).mpr fits
  have alsoReplied := congrArg Run.frame (handle_of_fits alsoAsks alsoFits)
  have layout := parts.layout_withOuter (.endsOf second.outer)
  have message := messageOffset_withOuter (.endsOf second.outer) parts
  rw [replied, alsoReplied]
  refine ⟨?_, ?_, parts.layout, parts.reached, ?_, ?_⟩
  · rw [head_repliedFrame _ _ _ rfl, head_repliedFrame _ _ _ rfl, layout]
    rfl
  · have start := parts.messageOffset_eq
    have alsoStart := (parts.withOuter (.endsOf second.outer)).messageOffset_eq
    rw [size_repliedFrame settings fits, size_repliedFrame settings alsoFits,
      responseFor_withOuter]
    rw [layout, message] at alsoStart
    dsimp only
    omega
  · rw [locate_octets, if_pos asks.port]
  · intro place differs
    apply Dissection.kept_of_differs question.consumed
      (responseFor settings parts.octets parts query question answer) settings second.outer
    intro equal
    apply differs
    simp only [Reply.repliedFrame, responseFor_withOuter]
    exact equal

end Ends

/-- Responders that listen on one port and serve the same networks leave a frame alone whose headers
lead to none of these, however else they differ.  And two frames in tunnels that differ only in their
ends get the same action from a responder, and are counted the same by shards that have all of their
buckets.  If they are sent back, then to the same place and in the same size, and their octets differ
in the addresses of a tunnel that stays, if anywhere. -/
theorem filtered_by_inner_destination :
    (∀ (first second : Responder) (frame : Frame),
      first.settings.dnsPort = second.settings.dnsPort →
      (∀ block, block ∈ first.tables.served.blocks ↔ block ∈ second.tables.served.blocks) →
      Ignored first.settings.dnsPort first.tables.served frame.octets →
        ∀ (moment later : Moment) (log others : Log),
          LeavesAlone first moment frame log ∧ LeavesAlone second later frame others)
    ∧ ∀ (responder : Responder) (first second : Wrapped) (before after : Bytes),
      responder.metrics.Complete → first.SameButEnds second →
        ∀ (moment later : Moment) (log others : Log),
          let one := responder.process moment ⟨before, first.octets, after⟩ log
          let other := responder.process later ⟨before, second.octets, after⟩ others
          one.1 = other.1
          ∧ (∀ outcome, one.2.2.1.metrics.snapshot.count outcome =
            other.2.2.1.metrics.snapshot.count outcome)
          ∧ (one.1 = .transmit →
            one.2.1.head = other.2.1.head ∧ one.2.1.size = other.2.1.size
            ∧ ∃ layout cursor,
              locate first.octets responder.settings.dnsPort = .ok (layout, cursor)
              ∧ ∀ place : Nat, one.2.1.octets[place]? ≠ other.2.1.octets[place]? →
                ∃ header, layout.outer = some header ∧ layout.stripSize = 0
                  ∧ header.sourceOffset ≤ place
                  ∧ place < header.destinationOffset + header.addressSize) := by
  constructor
  · intro first second frame port served ignored moment later log others
    have alsoIgnored : Ignored second.settings.dnsPort second.tables.served frame.octets := by
      rw [← port]
      intro layout cursor located destination shown block held
      exact ignored layout cursor located destination shown block ((served block).mpr held)
    exact ⟨leavesAlone_of_ignored ignored moment log,
      leavesAlone_of_ignored alsoIgnored later others⟩
  · intro responder first second before after complete same moment later log others one other
    rcases ends_of_sameButEnds same responder.settings responder.tables before after with
      ⟨arrived, action, outcome⟩
    exact ⟨action, count_process complete moment later log others arrived outcome,
      replies_of_sameButEnds same⟩

namespace Specimen

/-- A responder that serves the network of the specimen's tunnel, and not that of the packet in it. -/
def outside (settings : Settings) (records : Records) : Responder where
  settings
  tables := { records, served := { v4 := [⟨0x0A000000, 8, by decide⟩] } }

theorem ignored_outside : Ignored (outside {} tables.records).settings.dnsPort
    (outside {} tables.records).tables.served parts.octets := by
  intro layout cursor located destination shown block held
  have asked : parts.udp.destination = (outside {} tables.records).settings.dnsPort := rfl
  rw [locate_octets, if_pos asked] at located
  cases located
  rw [destination_layout] at shown
  cases shown
  rcases List.mem_singleton.mp held with rfl
  decide

/-- The packet of the specimen in a tunnel of IPv6. -/
def between (source destination : BitVec 128) : Wrapped where
  link := parts.link
  outer := .v6 ⟨0x60, 0, 0, 47, protocolIpv4, 64, source, destination⟩
  rest := parts.inner.octets ++ (parts.udp.octets ++ parts.message)
  tunnels := .inl rfl

/-- What becomes of it, with room for a reply. -/
def answered (source destination : BitVec 128) : Action × Frame × Responder × Log :=
  responder.process ⟨0, 0, 0⟩ ⟨[8, 9], (between source destination).octets, List.replicate 16 7⟩
    { processId := "1" }

end Specimen

open Specimen in
/-- A responder that serves the network of the tunnel leaves the specimen alone, whether it has the
record or not.  One that serves the network of the packet answers it in any tunnel of IPv6, and past
the header of the tunnel the replies are the same. -/
theorem specimen_is_filtered :
    LeavesAlone (outside {} tables.records) ⟨0, 0, 0⟩ ⟨[8, 9], parts.octets, []⟩ { processId := "1" }
    ∧ LeavesAlone (outside { dryRun := true } {}) ⟨1, 2, 3⟩ ⟨[8, 9], parts.octets, []⟩
      { processId := "2" }
    ∧ (answered 1 2).1 = .transmit ∧ (answered 3 4).1 = .transmit
    ∧ (answered 1 2).2.1.size = (answered 3 4).2.1.size
    ∧ ∀ place : Nat, 58 ≤ place →
      (answered 1 2).2.1.octets[place]? = (answered 3 4).2.1.octets[place]? := by
  rcases filtered_by_inner_destination with ⟨unserved, alike⟩
  rcases unserved (outside {} tables.records) (outside { dryRun := true } {})
    ⟨[8, 9], parts.octets, []⟩ rfl (fun _ => Iff.rfl) ignored_outside ⟨0, 0, 0⟩ ⟨1, 2, 3⟩
    { processId := "1" } { processId := "2" } with ⟨here, there⟩
  have same : (between 1 2).SameButEnds (between 3 4) := ⟨rfl, .v6 _ 3 4, rfl⟩
  have action : (answered 1 2).1 = .transmit := by
    decide +kernel
  rcases alike responder (between 1 2) (between 3 4) [8, 9] (List.replicate 16 7)
    (Metrics.IsFresh.made _).complete same ⟨0, 0, 0⟩ ⟨0, 0, 0⟩ { processId := "1" }
    { processId := "1" } with ⟨again, -, sent⟩
  rcases sent action with ⟨-, sizes, layout, cursor, located, differing⟩
  have outer : ((locate (between 1 2).octets responder.settings.dnsPort).toOption.map
      fun found => found.1.outer) = some (some ⟨.v6, 18, 40⟩) := by
    decide +kernel
  rw [located] at outer
  have tunnel : layout.outer = some ⟨.v6, 18, 40⟩ := Option.some.inj outer
  refine ⟨here, there, action, again.symm.trans action, sizes, ?_⟩
  intro place behind
  apply Decidable.byContradiction
  intro differs
  rcases differing place differs with ⟨header, stays, -, -, inside⟩
  rcases Option.some.inj (stays.symm.trans tunnel) with rfl
  exact absurd inside (Nat.not_lt_of_le behind)

end Engine
end DnsResponder
