import DnsResponder.Proofs.Dns.Shown
import DnsResponder.Proofs.Engine.Decision
import DnsResponder.Proofs.Log.Topics
import DnsResponder.Proofs.Window

namespace DnsResponder
namespace Engine

/-!
# Which questions are noted

Every question that is read is noted in the log before anything is looked up, so that a sink which
listens to questions should receive one line for each, whatever becomes of the frame.  The rest of the
handling adds nothing on this topic: a lookup, a reply and the capture queue have topics of their own,
and limited errors have none.

The line shows the name as the client spelled it, and here it can be lost: a name that shows a zero
keeps the whole line back.  `noted_unless_zero_shown` says that nothing else does.
-/

open Log Packet

/-! ## The line -/

/-- The line about a question. -/
def questionText (reception : Reception) (question : Dns.Question) : String :=
  s!"query id={reception.query.id.toNat} " ++ question.key.text ++ " to "
    ++ reception.destination.text

theorem isDeliverable_hexadecimal (number : Nat) :
    isDeliverable (String.ofList (Text.Quoted.hexadecimal number)) = true := by
  have digit : ∀ value < 16, isDeliverable (String.ofList [Nat.digitChar value]) = true := by
    decide
  rw [Text.Quoted.hexadecimal]
  induction number using Nat.strongRecOn with
  | ind number ih =>
    rw [Nat.toDigits_eq_if (by decide)]
    split
    · next single => exact digit number single
    · next large =>
      have fewer : number / 16 < number := Nat.div_lt_self (by omega) (by decide)
      have last : number % 16 < 16 := Nat.mod_lt _ (by decide)
      rw [String.ofList_append, isDeliverable_append, ih _ fewer, digit _ last]
      rfl

theorem isDeliverable_textV4 (value : BitVec 32) : isDeliverable (Address.textV4 value) = true := by
  rw [Address.textV4, isDeliverable_intercalate (by decide), List.all_map, List.all_eq_true]
  exact fun octet _ => isDeliverable_repr octet.toNat

theorem isDeliverable_groupText (values : List Nat) :
    isDeliverable (Address.groupText values) = true := by
  rw [Address.groupText, isDeliverable_intercalate (by decide), List.all_map, List.all_eq_true]
  exact fun value _ => isDeliverable_hexadecimal value

/-- An address consists of digits and marks. -/
theorem isDeliverable_address (address : Address) : isDeliverable address.text = true := by
  cases address with
  | v4 value => exact isDeliverable_textV4 value
  | v6 value =>
    have mapped : isDeliverable "::ffff:" = true := by decide
    have gap : isDeliverable "::" = true := by decide
    rw [Address.text, Address.textV6]
    split
    · rw [isDeliverable_append, mapped, isDeliverable_textV4]
      rfl
    · extract_lets all
      split
      split
      · simp only [isDeliverable_append, isDeliverable_groupText, gap, Bool.and_self]
      · exact isDeliverable_groupText all

theorem questionText_ne_empty (reception : Reception) (question : Dns.Question) :
    questionText reception question ≠ "" := by
  rw [questionText, ne_eq, String.append_eq_empty_iff, String.append_eq_empty_iff]
  rintro ⟨⟨-, middle⟩, -⟩
  exact absurd middle (by decide)

/-- The name is all that can keep the line back. -/
theorem isDeliverable_questionText (reception : Reception) (question : Dns.Question) :
    isDeliverable (questionText reception question) = isDeliverable question.key.text := by
  have opening : isDeliverable "query id=" = true := by decide
  have blank : isDeliverable " " = true := by decide
  have middle : isDeliverable " to " = true := by decide
  have start : isDeliverable s!"query id={reception.query.id.toNat} " = true := by
    have split : s!"query id={reception.query.id.toNat} " =
        "query id=" ++ reception.query.id.toNat.repr ++ " " := rfl
    rw [split, isDeliverable_append, isDeliverable_append, opening, isDeliverable_repr, blank]
    rfl
  rw [questionText, isDeliverable_append, isDeliverable_append, isDeliverable_append, start, middle,
    isDeliverable_address, Bool.true_and, Bool.and_true, Bool.and_true]

/-! ## The rest of the handling -/

section Handling

variable {settings : Settings} {tables : Tables} {frame : Frame} {run : Run} {topic : Topic}

/-- A refusal that is no fault of the message is noted elsewhere. -/
theorem on_noteEnding_refused {reason : Refusal} (refused : run.ending = .stopped (.refused reason))
    (elsewhere : topicOf reason ≠ .dns) (moment : Moment) (log : Log) :
    (noteEnding moment run log).on .dns = log.on .dns := by
  rw [noteEnding, refused]
  apply (on_note_of_ne elsewhere).trans
  split
  · exact on_limited ..
  · rfl

/-- Behind a question, the handling ends without another line about one. -/
theorem on_noteEnding (course : Course settings tables frame run) (asked : run.question.isSome)
    (moment : Moment) (log : Log) : (noteEnding moment run log).on .dns = log.on .dns := by
  cases course with
  | unreceived => cases asked
  | unread => cases asked
  | @unresolved reception question reason received inquired resolved refused =>
    refine on_noteEnding_refused rfl ?_ moment log
    cases reason with
    | unsupportedType | noRecord => exact Topic.noConfusion
    | _ => exact refused.elim
  | dry => rfl
  | unfit => exact on_noteEnding_refused rfl Topic.noConfusion moment log
  | replied => exact on_note_of_ne (by decide)

theorem on_captureReply (settings : Settings) (moment : Moment) (run : Run) (observers : Observers) :
    (captureReply settings moment run observers).log.on .dns = observers.log.on .dns := by
  rw [captureReply]
  split
  · rfl
  · split
    · split
      · exact on_note_of_ne (by decide)
      · exact on_limited ..
    · rfl

end Handling

/-! ## Questions and their lines -/

/-- A frame that is received and asks a question keeps both. -/
theorem question_handle {settings : Settings} {tables : Tables} {frame : Frame}
    {reception : Reception} {question : Dns.Question}
    (received : receive settings tables.served frame.octets = .ok reception)
    (inquired : inquire settings frame.octets reception = .ok question) :
    (handle settings tables frame).reception = some reception
      ∧ (handle settings tables frame).question = some question := by
  simp only [handle, received, inquired]
  split
  · exact ⟨rfl, rfl⟩
  · split
    · exact ⟨rfl, rfl⟩
    · split <;> exact ⟨rfl, rfl⟩

/-- For a question that is read, the sink receives the line about it and nothing else on its topic, or
nothing at all. -/
theorem on_settle {settings : Settings} {tables : Tables} {frame : Frame} {reception : Reception}
    {question : Dns.Question} (observers : Observers) (consistent : observers.log.Consistent)
    (received : receive settings tables.served frame.octets = .ok reception)
    (inquired : inquire settings frame.octets reception = .ok question) (moment : Moment) :
    (settle settings moment (handle settings tables frame) observers).log.on .dns =
      observers.log.on .dns ++
        if observers.log.listens Topic.dns.bit = true
            ∧ isDeliverable question.key.text = true then
          [observers.log.breadcrumbEntry .dns (questionText reception question)]
        else [] := by
  rcases question_handle received inquired with ⟨arrived, asked⟩
  have noted : noteQuestion (handle settings tables frame) observers.log =
      observers.log.note .dns (questionText reception question) := by
    rw [noteQuestion, arrived, asked]
    rfl
  have some : (handle settings tables frame).question.isSome := by
    rw [asked]
    rfl
  rw [settle, on_captureReply, on_noteEnding (course_of_handle settings tables frame) some, noted,
    consistent.on_note (questionText_ne_empty reception question), isDeliverable_questionText]

/-- A standard query with a question, to a served address and read under either policy, while the sink
listens to questions: the sink receives one line about it, unless the name shows a zero, and then it
receives none.  Nothing else reaches it on this topic, whatever becomes of the frame. -/
theorem noted_unless_zero_shown {responder : Responder} {log : Log} {sink : Sink} {frame : Frame}
    {reception : Reception} {question : Dns.Question} (consistent : log.Consistent)
    (installed : log.sink = some sink) (listening : sink.topics &&& Topic.dns.bit ≠ 0)
    (received : receive responder.settings responder.tables.served frame.octets = .ok reception)
    (standard : reception.query.isStandardQuery = true)
    (questions : reception.query.questions ≠ 0)
    (decoded : Dns.Question.decode frame.octets reception.questionStart
      responder.settings.namePolicy = .ok question)
    (moment : Moment) :
    let policy := responder.settings.namePolicy
    let left := (responder.process moment frame log).2.2.2
    ∃ name, policy.Reaches (frame.octets.drop reception.questionStart) name 0
      ∧ (¬ policy.ShowsZero name →
        left.on .dns =
          log.on .dns ++ [log.breadcrumbEntry .dns (questionText reception question)])
      ∧ (policy.ShowsZero name → left.on .dns = log.on .dns) := by
  intro policy left
  have inquired : inquire responder.settings frame.octets reception = .ok question :=
    inquire_eq_ok_iff.mpr ⟨standard, questions, decoded⟩
  have heard : log.listens Topic.dns.bit = true := by
    rw [listens, consistent.active, installed]
    exact bne_iff_ne.mpr listening
  have told : left.on .dns = log.on .dns ++
      if log.listens Topic.dns.bit = true ∧ isDeliverable question.key.text = true then
        [log.breadcrumbEntry .dns (questionText reception question)]
      else [] :=
    on_settle (responder.observers log) consistent received inquired moment
  rcases Dns.Question.decode_eq_ok_iff.mp decoded with ⟨name, reached, renders⟩
  have shown := renders.isDeliverable_text reached
  refine ⟨name, reached, fun clean => ?_, fun zero => ?_⟩
  · rw [told, if_pos ⟨heard, shown.mpr clean⟩]
  · rw [told, if_neg fun kept => shown.mp kept.2 zero, List.append_nil]

/-! ## A name that is shown and two that are not -/

namespace Specimen

/-- The query of the specimen for a name of any octets. -/
def asking (name : Bytes) : Dissection :=
  { parts with
    message := query.encode ++ Dns.questionOctets name Dns.typeA Dns.classInternet }

def askingFrame (name : Bytes) : Frame :=
  ⟨[8, 9], (asking name).octets, List.replicate 16 7⟩

/-- The responder of the specimen under a policy. -/
def reading (policy : Dns.NamePolicy) : Responder :=
  { responder with settings := { namePolicy := policy } }

/-- A log with a sink that listens to questions alone. -/
def listening : Log :=
  { processId := "1", sink := some ⟨0x04, .error⟩, active := 0x04 }

/-- The lines about questions that are left by a query for a name. -/
def lines (policy : Dns.NamePolicy) (name : Bytes) : List Entry :=
  ((reading policy).process ⟨0, 0, 0⟩ (askingFrame name) listening).2.2.2.on .dns

theorem received (policy : Dns.NamePolicy) (name : Bytes) :
    receive (reading policy).settings (reading policy).tables.served (askingFrame name).octets =
      .ok (receptionOf (asking name) query) :=
  receive_eq rfl asks.inService rfl

/-- The query for a name is received, and its question is read. -/
def IsRead (policy : Dns.NamePolicy) (name : Bytes) : Prop :=
  ∃ reception question,
    receive (reading policy).settings (reading policy).tables.served (askingFrame name).octets =
      .ok reception
    ∧ inquire (reading policy).settings (askingFrame name).octets reception = .ok question

end Specimen

open Specimen in
/-- The last label of this name is cut, but runs past the end of the buffer: it is not shown, and
neither are zeros. -/
theorem cut_name_is_noted :
    lines .toZero [1, 97, 46, 98] =
      [⟨.debug, "[dnsfp-p1] [DNS] query id=77 a A to 192.0.2.53", 4⟩] := by
  have consistent : listening.Consistent := ⟨by decide, rfl⟩
  have decoded : Dns.Question.decode (askingFrame [1, 97, 46, 98]).octets
      (receptionOf (asking [1, 97, 46, 98]) query).questionStart .toZero =
      .ok ⟨⟨.ofOctets [1, 97, 46, 98], Dns.typeA, Dns.classInternet⟩, 9⟩ := by
    decide +kernel
  rcases noted_unless_zero_shown consistent rfl (by decide) (received .toZero [1, 97, 46, 98])
    (by decide) (by decide) decoded ⟨0, 0, 0⟩ with ⟨name, reached, noted, -⟩
  have read : Dns.readName .toZero ((askingFrame [1, 97, 46, 98]).octets.drop
      (receptionOf (asking [1, 97, 46, 98]) query).questionStart) = .ok [1, 97, 46, 98] := by
    decide +kernel
  obtain rfl : name = [1, 97, 46, 98] := Except.ok.inj (reached.readName_eq.symm.trans read)
  have clean : ¬ Dns.NamePolicy.toZero.ShowsZero [1, 97, 46, 98] := by
    intro zero
    have shown := (Dns.PackedName.zero_shown_iff reached.admits reached.short).mpr zero
    exact absurd shown (by decide)
  exact (noted clean).trans (by decide +kernel)

open Specimen in
/-- Under either policy a client can ask a question of which the sink learns nothing: by labels with a
zero in a label, and up to a zero with a label of one octet that says it has five. -/
theorem question_without_line :
    listening.sink = some ⟨Topic.dns.bit, .error⟩
      ∧ IsRead .byLabels [2, 97, 0] ∧ lines .byLabels [2, 97, 0] = []
      ∧ IsRead .toZero [5, 97] ∧ lines .toZero [5, 97] = [] := by
  have byLabels : inquire (reading .byLabels).settings (askingFrame [2, 97, 0]).octets
      (receptionOf (asking [2, 97, 0]) query) =
      .ok ⟨⟨.ofOctets [2, 97, 0], Dns.typeA, Dns.classInternet⟩, 8⟩ := by
    decide +kernel
  have toZero : inquire (reading .toZero).settings (askingFrame [5, 97]).octets
      (receptionOf (asking [5, 97]) query) =
      .ok ⟨⟨.ofOctets [5, 97], Dns.typeA, Dns.classInternet⟩, 7⟩ := by
    decide +kernel
  refine ⟨rfl, ?_, by decide +kernel, ?_, by decide +kernel⟩
  · exact ⟨_, _, received .byLabels [2, 97, 0], byLabels⟩
  · exact ⟨_, _, received .toZero [5, 97], toZero⟩

end Engine
end DnsResponder
