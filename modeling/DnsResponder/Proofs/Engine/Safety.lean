import DnsResponder.Proofs.Administration
import DnsResponder.Proofs.Dns.Lookups
import DnsResponder.Proofs.Engine.Envelope
import DnsResponder.Proofs.Metrics

namespace DnsResponder

open Packet

namespace Engine

/-!
# No frame brings a responder down

A frame comes from anyone, and whatever it holds, handling it must end in a decision.  Locating the
headers, planning a reply and writing it, with the sum over its IP header, end in `Stop.outside`
themselves when they would access an octet that is not there or take a size below zero.  The other
steps are written so that they cannot: they match on the octets of a question and of a name that is
shown, and they divide and count without asking for a divisor or a place.  Each of these has a checked
version, in which looking up, taking a difference and dividing have that outcome.

None of this happens.  The offsets that a reply is written at lie in the frame because the headers
nest in the order in which they were located, and because a question that has a type ends in the
message.  What is not looked up needs no check: a field of a header belongs to a view that has it, and
the octets of a frame are kept apart from those around it.

The same holds of the refusals that only a reply gone wrong would give.  A plan is refused for its
limits, and a plan that was made is carried out to its end.
-/

/-! ## Times to live -/

/-- The time to live sent for a stored one, with its division checked. -/
def checkedTtl (ttl : UInt32) (queryId : UInt16) (spread : Bool) : Except Stop UInt32 :=
  if !spread || ttl < 2 then .ok ttl
  else (Stop.remainder queryId.toNat (ttl / 2).toNat).map (UInt32.ofNat · + ttl / 2)

/-- The window of a time to live is divided by only when there is one. -/
theorem checkedTtl_eq (ttl : UInt32) (queryId : UInt16) (spread : Bool) :
    checkedTtl ttl queryId spread = .ok (effectiveTtl ttl queryId spread) := by
  rw [checkedTtl, effectiveTtl]
  split
  · rfl
  · next spreads =>
    have large : 2 ≤ ttl.toNat := by
      rw [Bool.or_eq_true, not_or, decide_eq_true_iff, UInt32.lt_iff_toNat_lt] at spreads
      exact Nat.le_of_not_lt spreads.2
    have half : (ttl / 2).toNat = ttl.toNat / 2 := UInt32.toNat_div ttl 2
    have window : 0 < (ttl / 2).toNat := by omega
    have place : UInt32.ofNat (queryId.toNat % (ttl / 2).toNat) = queryId.toUInt32 % (ttl / 2) := by
      apply UInt32.toNat_inj.mp
      rw [UInt32.toNat_mod, UInt16.toNat_toUInt32, UInt32.toNat_ofNat', Nat.mod_eq_of_lt]
      exact Nat.lt_trans (Nat.mod_lt _ window) (ttl / 2).toNat_lt
    rw [Stop.remainder_eq window, Except.map, place]

/-! ## Counting -/

/-- Count a run, with the lookups of the shard and of the bucket checked. -/
def checkedCount (settings : Settings) (moment : Moment) (run : Run) (metrics : Metrics) :
    Except Stop Metrics :=
  if settings.metricsEnabled && run.reception.isSome then do
    let increment (metrics : Metrics) (outcome : Outcome) :=
      metrics.checkedUpdate moment.worker fun shard => .ok (shard.increment outcome)
    let received ← increment metrics .received
    let counted ←
      match run.outcome? with
      | some outcome => increment received outcome
      | none => .ok received
    counted.checkedUpdate moment.worker (·.checkedObserve (holdTime moment.elapsed))
  else .ok metrics

variable {metrics : Metrics}

theorem count_eq (complete : metrics.Complete) (settings : Settings) (moment : Moment) (run : Run) :
    checkedCount settings moment run metrics = .ok (count settings moment run metrics)
      ∧ (count settings moment run metrics).Complete := by
  rw [checkedCount, count]
  split
  · have received := complete.increment moment.worker .received
    cases run.outcome? with
    | none =>
      have observed := received.checkedObserve_eq moment.worker (holdTime moment.elapsed)
      simp only [Metrics.checkedIncrement_eq, bind, Except.bind, Option.map_none, Option.getD_none]
      exact ⟨observed, received.observe _ _⟩
    | some outcome =>
      have counted := received.increment moment.worker outcome
      have observed := counted.checkedObserve_eq moment.worker (holdTime moment.elapsed)
      simp only [Metrics.checkedIncrement_eq, bind, Except.bind, Option.map_some, Option.getD_some]
      exact ⟨observed, counted.observe _ _⟩
  · exact ⟨rfl, complete⟩

end Engine

namespace Responder

/-- No history takes a bucket from the counters. -/
theorem complete_after (settings : Settings) (queue : Option CaptureQueue) (log : Log)
    (history : List Event) : (after settings queue log history).1.metrics.Complete := by
  induction history using List.reverseRecOn with
  | nil => exact Metrics.complete_fresh
  | append_singleton history event ih =>
    rw [after_append]
    rcases (run_keeps event (after settings queue log history).1 _).2.2 with
      same | anew | ⟨moment, run, counted⟩
    · rw [same]
      exact ih
    · rw [anew]
      exact Metrics.complete_reset _
    · rw [counted]
      exact (Engine.count_eq ih _ moment run).2

end Responder

namespace Engine

/-! ## Handling -/

section Handling

variable (settings : Settings) (tables : Tables) (frame : Frame)

/-- Every frame ends in its reply, in the dry run, or in a decision to leave it alone. -/
theorem decided_of_handle {stop : Stop}
    (ended : (handle settings tables frame).ending = .stopped stop) : IsDecision stop := by
  rcases handle_cases settings tables frame with
    ⟨parts, query, question, answer, asks, fits⟩ | ⟨passes, -⟩
  · rw [handle_of_fits asks fits] at ended
    cases ended
  · rw [ended] at passes
    exact passes

/-- Handling moves a frame within its window. -/
theorem length_window_handle :
    (handle settings tables frame).frame.window.length = frame.window.length := by
  rcases handle_cases settings tables frame with
    ⟨parts, query, question, answer, asks, fits⟩ | ⟨-, same⟩
  · rw [handle_of_fits asks fits]
    obtain ⟨response, composed⟩ : ∃ response,
        response = responseFor settings frame.octets parts query question answer := ⟨_, rfl⟩
    rw [ReplyFits, ← composed] at fits
    rw [← composed]
    have head := head_repliedFrame question.consumed response settings asks.whole
    have size := size_repliedFrame settings fits
    have left : (Reply.repliedFrame frame parts question.consumed response settings).tailroom =
        frame.tailroom - (Reply.messageSize question.consumed response.answerSection.length
          - parts.message.length) := List.length_drop
    have whole := Dissection.size_of_octets asks.whole
    have offset := parts.messageOffset_eq
    have covers := fits.covers
    have room := fits.room
    rw [Frame.length_window, Frame.length_window, head, size, left, whole]
    omega
  · rw [same]

end Handling

/-! ## Plans -/

/-- A plan for a frame whose headers were located never lacks a size, and is carried out once it is
made, whatever the answer section and however much is counted to the question. -/
theorem carried_out_of_plan {frame : Frame} {port : UInt16} {layout : Layout} {cursor : Cursor}
    (located : locate frame.octets port = .ok (layout, cursor)) (response : Dns.Response)
    (querySize : Nat) (settings : Settings) :
    Reply.plan frame layout response.answerSection.length querySize settings ≠ .error .outside
      ∧ ∀ plan, Reply.plan frame layout response.answerSection.length querySize settings = .ok plan →
        ∃ replied, (Reply.carryOut plan response settings).run frame = .ok () replied := by
  rcases exists_dissection located with ⟨parts, whole, -, rfl, -⟩
  constructor
  · intro outside
    rcases Reply.stopsOnlyFor_plan whole _ outside with ⟨cause, impossible, -⟩
    cases impossible
  · intro plan planned
    rcases (Reply.plan_eq_ok_iff whole).mp planned with ⟨fits, rfl⟩
    rcases frame with ⟨before, octets, after⟩
    obtain rfl : octets = parts.octets := whole
    exact ⟨_, Reply.carryOut_run fits⟩

/-! ## Staging -/

/-- Every answer has a response, with a section that its buffer holds. -/
theorem exists_staged (query : Dns.MessageHeader) (answer : Answer) (payloadSize : Option UInt16)
    (flags : ResponseFlags) :
    ∃ response, Dns.Response.compose query answer payloadSize flags = .ok response
      ∧ response.answerSection.length ≤ Dns.sectionCapacity := by
  refine ⟨_, Dns.Response.compose_eq query answer payloadSize flags, ?_⟩
  rw [Dns.Response.length_records]
  exact Nat.le_trans (Dns.Response.sectionSize_le _ _) (by decide)

/-! ## Whole runs -/

/-- Handling any frame in any window, with any settings and tables, accesses nothing outside the
octets and takes no size below zero; it never ends in a refusal that only a reply gone wrong would
give, and keeps the frame in its window.  Every plan that is made for located headers is carried out.
Spreading a time to live has something to divide by, and counting finds its shard and its bucket in
every responder that has come from its making by any history.

On the way, locating the headers of any octets takes no size below zero, and the address that a
located frame is for can be read.  Decoding a question, looking for a pseudo-record behind it and
showing its name come to the same with every octet looked up.  The staged section stays within its
buffer, and a header is summed up from two slices that it has. -/
theorem never_outside :
    (∀ (settings : Settings) (tables : Tables) (frame : Frame),
      (handle settings tables frame).ending ≠ .stopped .outside
      ∧ (handle settings tables frame).ending ≠ .stopped (.refused (.reply .answerPastEnd))
      ∧ (handle settings tables frame).ending ≠ .stopped (.refused (.reply .sectionFull))
      ∧ (handle settings tables frame).ending ≠ .stopped (.refused (.reply .badIpv4HeaderSize))
      ∧ (handle settings tables frame).frame.window.length = frame.window.length)
    ∧ (∀ (frame : Frame) (port : UInt16) (layout : Layout) (cursor : Cursor)
        (response : Dns.Response) (querySize : Nat) (settings : Settings),
      locate frame.octets port = .ok (layout, cursor) →
        Reply.plan frame layout response.answerSection.length querySize settings ≠ .error .outside
        ∧ ∀ plan,
          Reply.plan frame layout response.answerSection.length querySize settings = .ok plan →
            ∃ replied, (Reply.carryOut plan response settings).run frame = .ok () replied)
    ∧ (∀ (ttl : UInt32) (queryId : UInt16) (spread : Bool),
      checkedTtl ttl queryId spread = .ok (effectiveTtl ttl queryId spread))
    ∧ (∀ (settings : Settings) (queue : Option CaptureQueue) (log : Log)
        (history : List Responder.Event) (moment : Moment) (run : Run),
      checkedCount settings moment run
          (Responder.after settings queue log history).1.metrics =
        .ok (count settings moment run (Responder.after settings queue log history).1.metrics))
    ∧ (∀ (data : Bytes) (port : UInt16),
      locate data port ≠ .error .outside
      ∧ ∀ layout cursor, locate data port = .ok (layout, cursor) →
        ∃ destination, layout.destination? data = some destination)
    ∧ (∀ (data : Bytes) (start : Nat) (policy : Dns.NamePolicy),
      Dns.Question.checkedDecode data start policy =
          Stop.ofRefusal ((Dns.Question.decode data start policy).mapError .packet)
        ∧ Dns.checkedOptFollows data start = .ok (Dns.optFollows data start))
    ∧ (∀ name : Dns.PackedName, name.checkedText = .ok name.text)
    ∧ (∀ (query : Dns.MessageHeader) (answer : Answer) (payloadSize : Option UInt16)
        (flags : ResponseFlags),
      ∃ response, Dns.Response.compose query answer payloadSize flags = .ok response
        ∧ response.answerSection.length ≤ Dns.sectionCapacity)
    ∧ ∀ header : Bytes,
      Checksum.checkedIpv4Header header = .ok (Checksum.ipv4Header header) := by
  refine ⟨?_, ?_, checkedTtl_eq, ?_, ?_, ?_, Dns.PackedName.checkedText_eq, exists_staged,
    Checksum.checkedIpv4Header_eq⟩
  · intro settings tables frame
    have decided {stop : Stop} := @decided_of_handle settings tables frame stop
    refine ⟨?_, ?_, ?_, ?_, length_window_handle settings tables frame⟩
    · exact fun ended => decided ended
    · exact fun ended => Bool.false_ne_true (decided ended)
    · exact fun ended => Bool.false_ne_true (decided ended)
    · exact fun ended => Bool.false_ne_true (decided ended)
  · intro frame port layout cursor response querySize settings located
    exact carried_out_of_plan located response querySize settings
  · intro settings queue log history moment run
    exact (count_eq (Responder.complete_after settings queue log history) settings moment run).1
  · intro data port
    constructor
    · exact fun outside => stopsOnlyFor_locate data port .outside outside
    · intro layout cursor located
      rcases exists_dissection located with ⟨parts, rfl, -, rfl, -⟩
      exact ⟨_, destination_layout parts⟩
  · intro data start policy
    exact ⟨Dns.Question.checkedDecode_eq data start policy, Dns.checkedOptFollows_eq data start⟩

/-- With sixteen octets of tailroom there is a plan for an answer section of sixteen to the specimen,
and it is carried out. -/
theorem specimen_is_carried_out :
    ∃ (plan : Reply.Plan) (replied : Frame),
      Reply.plan ⟨[8, 9], Specimen.parts.octets, List.replicate 16 7⟩ Specimen.parts.layout 16 7 {} =
        .ok plan
      ∧ (Reply.carryOut plan ⟨Specimen.query, List.replicate 16 1⟩ {}).run
          ⟨[8, 9], Specimen.parts.octets, List.replicate 16 7⟩ = .ok () replied := by
  have located : locate Specimen.parts.octets 53 =
      .ok (Specimen.parts.layout, Specimen.parts.reached) :=
    (locate_octets _ _).trans (if_pos rfl)
  have planned : Reply.plan ⟨[8, 9], Specimen.parts.octets, List.replicate 16 7⟩
      Specimen.parts.layout 16 7 {} = .ok (Reply.planFor Specimen.parts 7 16) := by
    decide +kernel
  rcases (never_outside.2.1 ⟨[8, 9], Specimen.parts.octets, List.replicate 16 7⟩ 53 _ _
    ⟨Specimen.query, List.replicate 16 1⟩ 7 {} located).2 _ planned with ⟨replied, done⟩
  exact ⟨_, replied, planned, done⟩

end Engine
end DnsResponder
