import DnsResponder.Proofs.Engine.Decision

namespace DnsResponder

/-!
# What a frame is counted as

A frame arrives when its headers lead to a served destination and a whole message header.  Just these
frames are received, and only received ones are counted as something else as well: as transmitted,
passed or errored, or as nothing when there is nothing in the message that could be answered.
-/

namespace Engine

/-! ## Frames that arrive -/

/-- Whether the headers lead to a served destination and a whole message header. -/
def arrives (settings : Settings) (served : Served) (data : Bytes) : Bool :=
  match Packet.locate data settings.dnsPort with
  | .error _ => false
  | .ok (layout, _) =>
    match layout.destination? data with
    | none => false
    | some destination =>
      served.contains destination && decide (layout.dns + Header.dns.size ≤ data.length)

theorem arrives_octets {settings : Settings} {served : Served} {parts : Packet.Dissection}
    (port : parts.udp.destination = settings.dnsPort) :
    arrives settings served parts.octets =
      (served.contains parts.inner.destination
        && decide (Header.dns.size ≤ parts.message.length)) := by
  have located := Packet.locate_octets parts settings.dnsPort
  rw [if_pos port] at located
  have whole : parts.layout.dns + Header.dns.size ≤ parts.octets.length ↔
      Header.dns.size ≤ parts.message.length := by
    have dns : parts.layout.dns = parts.messageOffset := rfl
    rw [parts.length_octets, dns]
    omega
  simp only [arrives, located, destination_layout, whole]

variable {settings : Settings} {tables : Tables} {frame : Frame}

/-- Just the frames that arrive are received. -/
theorem arrives_iff_receive {served : Served} {data : Bytes} :
    arrives settings served data = true ↔ ∃ reception, receive settings served data = .ok reception := by
  constructor
  · intro arrived
    cases located : Packet.locate data settings.dnsPort with
    | error reason =>
      rw [arrives, located] at arrived
      cases arrived
    | ok found =>
      rcases found with ⟨layout, cursor⟩
      rcases Packet.exists_dissection located with ⟨parts, rfl, port, rfl, rfl⟩
      rw [arrives_octets port, Bool.and_eq_true, decide_eq_true_iff] at arrived
      rcases Dns.MessageHeader.exists_of_length (parts.message.take Header.dns.size)
        (List.length_take_of_le arrived.2) with ⟨query, shape⟩
      have message : parts.message = query.encode ++ parts.message.drop Header.dns.size := by
        rw [← shape, List.take_append_drop]
      exact ⟨_, receive_eq port arrived.1 message⟩
  · rintro ⟨reception, received⟩
    rcases of_receive received with ⟨parts, query, body, rfl, port, inService, message, -⟩
    rw [arrives_octets port, inService, message, Bool.true_and, decide_eq_true_iff,
      List.length_append, query.length_encode]
    exact Nat.le_add_right ..

/-! ## Outcomes -/

theorem isSome_reception : (handle settings tables frame).reception.isSome =
    arrives settings tables.served frame.octets := by
  have course := course_of_handle settings tables frame
  generalize handle settings tables frame = run at course ⊢
  have arrived {reception : Reception}
      (received : receive settings tables.served frame.octets = .ok reception) :
      true = arrives settings tables.served frame.octets :=
    (arrives_iff_receive.mpr ⟨reception, received⟩).symm
  cases course with
  | unreceived stopped early =>
    have missed : arrives settings tables.served frame.octets = false := by
      rw [Bool.eq_false_iff, ne_eq, arrives_iff_receive]
      rintro ⟨reception, received⟩
      rw [received] at stopped
      cases stopped
    exact missed.symm
  | unread received => exact arrived received
  | unresolved received => exact arrived received
  | dry received => exact arrived received
  | unfit asks => exact arrived asks.steps.1
  | replied asks => exact arrived asks.steps.1

/-- Why a frame was left alone, if it was refused. -/
def Run.refusal? (run : Run) : Option Refusal :=
  match run.ending with
  | .stopped (.refused reason) => some reason
  | _ => none

/-- Whether it was for its reply that a frame was refused. -/
def Run.overLimit (run : Run) : Bool :=
  match run.refusal? with
  | some (.reply _) => true
  | _ => false

/-- Whether a frame was refused because there is nothing that can be answered in it. -/
def Run.unanswerable (run : Run) : Bool :=
  match run.refusal? with
  | some (.packet .notQuery) | some (.packet .noQuestion) | some (.packet .unterminatedName)
  | some (.packet (.badLabelSize _)) | some (.unsupportedType _) => true
  | _ => false

/-- Which outcome a run is counted as. -/
theorem outcome?_iff (run : Run) :
    (run.outcome? = some .transmitted ↔ run.action = .transmit ∨ run.ending = .dryRun)
    ∧ (run.outcome? = some .passed ↔ run.refusal? = some .noRecord)
    ∧ (run.outcome? = some .errored ↔ run.overLimit = true)
    ∧ run.outcome? ≠ some .received := by
  rcases run with ⟨reception, question, ending, left⟩
  unfold Run.outcome? Run.action Run.overLimit Run.refusal?
  cases ending with
  | replied answer size => simp
  | dryRun => simp
  | stopped stop =>
    cases stop with
    | outside => simp
    | refused reason => cases reason <;> simp [Refusal.countsAsPassed, Refusal.countsAsErrored]

/-- A frame has an outcome when it arrives and there is something in it that can be answered. -/
theorem isSome_outcome? : (handle settings tables frame).outcome?.isSome =
    (arrives settings tables.served frame.octets
      && !(handle settings tables frame).unanswerable) := by
  rw [← isSome_reception]
  have course := course_of_handle settings tables frame
  generalize handle settings tables frame = run at course ⊢
  cases course with
  | @unreceived stop stopped early =>
    cases stop with
    | outside => exact early.elim
    | refused reason =>
      cases reason with
      | noRecord | reply => rcases early with impossible | impossible <;> cases impossible
      | _ => rfl
  | @unread reception reason received inquired refused =>
    cases reason with
    | packet cause =>
      cases cause with
      | notQuery | noQuestion | unterminatedName | badLabelSize => rfl
      | _ => exact absurd refused Bool.false_ne_true
    | _ => exact refused.elim
  | @unresolved reception question reason received inquired resolved refused =>
    cases reason with
    | unsupportedType | noRecord => rfl
    | _ => exact refused.elim
  | dry => rfl
  | unfit => rfl
  | replied => rfl

end Engine

end DnsResponder
