import DnsResponder.Dns.Response
import DnsResponder.Proofs.Bytes

namespace DnsResponder
namespace Dns
namespace Response

/-!
# What a response consists of

Composing a response stages field after field in a buffer that could be too small.  Its longest form
fits, so every answer has a response: the header, one answer record, and an extension record when a
payload size is advertised.  The flags of the header are known bit by bit, except for those that the
settings may decide.
-/

/-! ## The staged section -/

theorem pushAll_eq (fields : List Bytes) (staged : Bytes)
    (fits : staged.length + fields.flatten.length ≤ sectionCapacity) :
    pushAll staged fields = .ok (staged ++ fields.flatten) := by
  induction fields generalizing staged with
  | nil =>
    rw [List.flatten_nil, List.append_nil]
    rfl
  | cons field rest ih =>
    rw [List.flatten_cons, List.length_append] at fits
    have pushed : push staged field = .ok (staged ++ field) := if_pos (by omega)
    have onward := ih (staged ++ field) (by
      rw [List.length_append]
      omega)
    rw [pushAll, List.foldlM_cons, pushed, List.flatten_cons, ← List.append_assoc]
    exact onward

def answerRecord (answer : Answer) : Bytes :=
  (answerFields answer).flatten

def optRecord (payloadSize : UInt16) : Bytes :=
  (optFields payloadSize).flatten

def records (answer : Answer) (payloadSize : Option UInt16) : Bytes :=
  answerRecord answer ++ (payloadSize.map optRecord).getD []

/-- The fields of an answer record, from the pointer to the address. -/
theorem answerRecord_eq (answer : Answer) :
    answerRecord answer = Bytes.ofWord namePointer ++ (Bytes.ofWord (answerType answer) ++
      (Bytes.ofWord classInternet ++ (Bytes.ofLong answer.ttl ++
        (Bytes.ofNat 2 answer.address.family.addressSize ++ answer.address.octets)))) := by
  simp only [answerRecord, answerFields, List.flatten_cons, List.flatten_nil, List.append_nil]

theorem length_answerRecord (answer : Answer) :
    (answerRecord answer).length = answerFixedSize + answer.address.family.addressSize := by
  rw [answerRecord_eq]
  simp only [List.length_append, Bytes.length_ofWord, Bytes.length_ofLong, Bytes.length_ofNat,
    Address.length_octets, answerFixedSize]
  omega

theorem length_optRecord (payloadSize : UInt16) :
    (optRecord payloadSize).length = optRecordSize := rfl

/-! ## Sizes of sections -/

/-- Octets of an answer section: one address record, with an extension record or without.  Questions
of other types are not answered. -/
def sectionSize (type : RecordType) (withOpt : Bool) : Nat :=
  match type, withOpt with
  | .a, false => 16
  | .a, true => 27
  | .aaaa, false => 28
  | .aaaa, true => 39
  | .other _, _ => 0

def maxSectionSize : Nat := 39

theorem sectionSize_le (type : RecordType) (withOpt : Bool) :
    sectionSize type withOpt ≤ maxSectionSize := by
  cases type with
  | a => cases withOpt <;> decide
  | aaaa => cases withOpt <;> decide
  | other code => exact Nat.zero_le _

theorem length_records (answer : Answer) (payloadSize : Option UInt16) :
    (records answer payloadSize).length =
      sectionSize (.ofCode (answerType answer)) payloadSize.isSome := by
  rw [records, List.length_append, length_answerRecord, answerType]
  cases answer.address.family with
  | v4 => cases payloadSize <;> rfl
  | v6 => cases payloadSize <;> rfl

/-! ## Composing -/

/-- Every answer has a response. -/
theorem compose_eq (query : MessageHeader) (answer : Answer) (payloadSize : Option UInt16)
    (flags : ResponseFlags) :
    compose query answer payloadSize flags =
      .ok ⟨headerFor query flags payloadSize.isSome, records answer payloadSize⟩ := by
  have small : answer.address.family.addressSize ≤ 16 := by
    cases answer.address.family <;> decide
  have size := length_answerRecord answer
  have answered : pushAll [] (answerFields answer) = .ok (answerRecord answer) := by
    apply pushAll_eq (answerFields answer) []
    rw [answerRecord] at size
    rw [size, List.length_nil, answerFixedSize, sectionCapacity]
    omega
  cases payloadSize with
  | none =>
    simp only [compose, answered, records, Option.map_none, Option.getD_none, List.append_nil]
    rfl
  | some advertised =>
    have extended : pushAll (answerRecord answer) (optFields advertised) =
        .ok (answerRecord answer ++ optRecord advertised) := by
      apply pushAll_eq (optFields advertised) _
      have opt := length_optRecord advertised
      rw [optRecord, optRecordSize] at opt
      rw [size, opt, answerFixedSize, sectionCapacity]
      omega
    simp only [compose, answered, records, Option.map_some, Option.getD_some]
    simp only [bind, Except.bind, extended]
    rfl

/-! ## Flags -/

variable {mask bit : UInt16}

theorem or_and (first second mask : UInt16) :
    (first ||| second) &&& mask = first &&& mask ||| second &&& mask :=
  UInt16.toBitVec_inj.mp (BitVec.and_or_distrib_right ..)

theorem set_and (bits : UInt16) (outside : bit &&& mask = 0) :
    (bits ||| bit) &&& mask = bits &&& mask := by
  rw [or_and, outside, UInt16.or_zero]

theorem clear_and (bits : UInt16) (outside : ~~~bit &&& mask = mask) :
    (bits &&& ~~~bit) &&& mask = bits &&& mask := by
  rw [UInt16.and_assoc, outside]

/-- The bits that a response never has set, unless the settings decide them. -/
def clearedBits : UInt16 :=
  Flag.truncated ||| Flag.authenticData ||| Flag.checkingDisabled ||| Flag.responseCode

theorem flagsFor_and (query : UInt16) (flags : ResponseFlags)
    (reserved : Flag.reserved &&& mask = 0)
    (authoritative : Flag.authoritative &&& mask = 0 ∧ ~~~Flag.authoritative &&& mask = mask)
    (recursion : Flag.recursionAvailable &&& mask = 0 ∧
      ~~~Flag.recursionAvailable &&& mask = mask) :
    flagsFor query flags &&& mask = (query ||| Flag.response) &&& ~~~clearedBits &&& mask := by
  rcases flags with ⟨byAuthority, withRecursion, marked⟩
  cases byAuthority <;> cases withRecursion <;> cases marked <;>
    simp only [flagsFor, if_true, Bool.false_eq_true, if_false, clear_and _ authoritative.2,
      clear_and _ recursion.2, set_and _ authoritative.1, set_and _ recursion.1,
      set_and _ reserved, clearedBits]

variable (query : UInt16) (flags : ResponseFlags)

theorem flagsFor_response : flagsFor query flags &&& Flag.response = Flag.response := by
  have kept : ~~~clearedBits &&& Flag.response = Flag.response := by decide
  rw [flagsFor_and query flags (by decide) (by decide) (by decide), UInt16.and_assoc, kept]
  calc
    (query ||| Flag.response) &&& Flag.response
      = query &&& Flag.response ||| (-1 &&& Flag.response) := by
        rw [or_and, UInt16.and_self, UInt16.neg_one_and]
    _ = (query ||| -1) &&& Flag.response := (or_and ..).symm
    _ = Flag.response := by rw [UInt16.or_neg_one, UInt16.neg_one_and]

theorem flagsFor_opcode : flagsFor query flags &&& Flag.opcode = query &&& Flag.opcode := by
  have kept : ~~~clearedBits &&& Flag.opcode = Flag.opcode := by decide
  rw [flagsFor_and query flags (by decide) (by decide) (by decide), UInt16.and_assoc, kept,
    set_and _ (by decide)]

theorem flagsFor_recursionDesired :
    flagsFor query flags &&& Flag.recursionDesired = query &&& Flag.recursionDesired := by
  have kept : ~~~clearedBits &&& Flag.recursionDesired = Flag.recursionDesired := by decide
  rw [flagsFor_and query flags (by decide) (by decide) (by decide), UInt16.and_assoc, kept,
    set_and _ (by decide)]

/-- A response is whole, without an error, and says nothing about validation. -/
theorem flagsFor_cleared : flagsFor query flags &&& clearedBits = 0 := by
  have gone : ~~~clearedBits &&& clearedBits = 0 := by decide
  rw [flagsFor_and query flags (by decide) (by decide) (by decide), UInt16.and_assoc, gone,
    UInt16.and_zero]

end Response
end Dns
end DnsResponder
