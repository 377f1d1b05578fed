import DnsResponder.Proofs.Dns.Header
import DnsResponder.Proofs.Dns.Question

namespace DnsResponder
namespace Dns

/-!
# Where the sections of a message are

The header of a message counts what its sections hold and does not say where they start.  A section
starts where the one in front of it ends, so whoever looks for the additional section passes over all
questions first, and then over all records of the two sections between.

The definitions here do that and nothing else.  They follow the format of messages rather than the
responder, which reads one question only: a name may end with a pointer, there may be any number of
questions, and a record is as long as it says.
-/

/-! ## Passing over -/

/-- What stands behind so many octets, if all of them are there. -/
def behind? (size : Nat) (octets : Bytes) : Option Bytes :=
  if size ≤ octets.length then some (octets.drop size) else none

/-- What stands behind a name, with `owed` octets of the current label still to come.  A name ends at
a zero in place of a size, or with the two octets of a pointer. -/
def behindName? : (owed : Nat) → Bytes → Option Bytes
  | _, [] => none
  | owed + 1, _ :: rest => behindName? owed rest
  | 0, octet :: rest =>
    if octet = 0 then some rest
    else if octet.toNat ≤ maxLabelSize then behindName? octet.toNat rest
    else if 0xC0 ≤ octet.toNat then behind? 1 rest
    else none

/-- A type and a class follow the name of a question. -/
def behindQuestion? (octets : Bytes) : Option Bytes :=
  (behindName? 0 octets).bind (behind? 4)

/-- Ten octets follow the name of a record, the last two of which count those of its data. -/
def behindRecord? (octets : Bytes) : Option Bytes := do
  let fixed ← behindName? 0 octets
  let size ← fixed.word? 8
  behind? (10 + size.toNat) fixed

/-- What stands behind so many items, one after the other. -/
def behindAll? (behindOne? : Bytes → Option Bytes) : (count : Nat) → Bytes → Option Bytes
  | 0, octets => some octets
  | count + 1, octets => (behindOne? octets).bind (behindAll? behindOne? count)

/-- The additional section of a message and all that follows, given what stands behind the header. -/
def additionalSection? (header : MessageHeader) (body : Bytes) : Option Bytes :=
  (behindAll? behindQuestion? header.questions.toNat body).bind
    (behindAll? behindRecord? (header.answers.toNat + header.authorities.toNat))

/-- The first record is an extension record: its owner is the root, it has that type, and no octet of
its fixed part is missing. -/
def StartsWithOpt (octets : Bytes) : Prop :=
  optRecordSize ≤ octets.length ∧ octets.take 3 = 0 :: Bytes.ofWord typeOpt

instance (octets : Bytes) : Decidable (StartsWithOpt octets) :=
  inferInstanceAs (Decidable (_ ∧ _))

/-- The additional section of a message starts with an extension record. -/
def CarriesOpt (message : Bytes) : Prop :=
  ∃ header additional, MessageHeader.parse? message = some header ∧ 0 < header.additionals
    ∧ additionalSection? header (message.drop Header.dns.size) = some additional
    ∧ StartsWithOpt additional

/-! ## Names -/

theorem behindName?_owed (owed rest : Bytes) :
    behindName? owed.length (owed ++ rest) = behindName? 0 rest := by
  induction owed with
  | nil => rfl
  | cons octet owed ih => exact ih

/-- A name that is found by labels is passed over with its zero. -/
theorem behindName?_labels (labels : List Label) (rest : Bytes) :
    behindName? 0 (labels.flatMap Label.wire ++ 0 :: rest) = some rest := by
  induction labels with
  | nil => rfl
  | cons label labels ih =>
    have short : label.size.toNat ≤ maxLabelSize := Nat.not_lt.mp label.size_inRange
    rw [List.flatMap_cons, Label.wire, List.append_assoc, List.cons_append, behindName?,
      if_neg label.size_ne_zero, if_pos short, label.toNat_size, behindName?_owed, ih]

/-! ## Items -/

variable {part rest body : Bytes} {size : Nat}

theorem behind?_append (extent : part.length = size) : behind? size (part ++ rest) = some rest := by
  have inside : size ≤ (part ++ rest).length := by
    rw [List.length_append, extent]
    exact Nat.le_add_right ..
  rw [behind?, if_pos inside, List.drop_left' extent]

/-- A question that is decoded by labels, and whose octets are all there, is passed over whole. -/
theorem behindQuestion?_of_decode {data : Bytes} {start : Nat} {question : Question}
    (found : Question.decode data start .byLabels = .ok question)
    (whole : start + question.consumed ≤ data.length) :
    behindQuestion? (data.drop start) = some (data.drop (start + question.consumed)) := by
  rcases Question.of_decode found whole with ⟨name, qtype, qclass, back, cut, rfl, named⟩
  rcases (readName_eq_ok_iff.mp (named [])).admits with ⟨labels, rfl⟩
  rw [← List.drop_drop, cut, List.drop_left' (length_questionOctets ..), questionOctets,
    List.append_assoc, List.cons_append, behindQuestion?, behindName?_labels, Option.bind_some]
  exact behind?_append rfl

/-- A record whose owner is given by a pointer is passed over with its data. -/
theorem behindRecord?_pointer {pointed : UInt8} {fixed data : Bytes} {count : UInt16}
    (eight : fixed.length = 8) (counted : data.length = count.toNat) :
    behindRecord? (0xC0 :: pointed :: (fixed ++ (Bytes.ofWord count ++ (data ++ rest)))) =
      some rest := by
  obtain ⟨high, low, same⟩ : ∃ high low, Bytes.ofWord count = [high, low] := ⟨_, _, rfl⟩
  have number : Bytes.word high low = count := by
    rw [← Bytes.ofWord_inj, Bytes.ofWord_word, same]
  have size : (fixed ++ (Bytes.ofWord count ++ (data ++ rest))).word? 8 = some count := by
    rw [Bytes.word?, List.drop_left' eight, same]
    exact congrArg some number
  have named : behindName? 0
      (0xC0 :: pointed :: (fixed ++ (Bytes.ofWord count ++ (data ++ rest)))) =
        some (fixed ++ (Bytes.ofWord count ++ (data ++ rest))) :=
    behind?_append (show [pointed].length = 1 from rfl)
  have split : fixed ++ (Bytes.ofWord count ++ (data ++ rest)) =
      (fixed ++ Bytes.ofWord count ++ data) ++ rest := by
    simp only [List.append_assoc]
  simp only [behindRecord?, named, Option.bind_eq_bind, Option.bind_some, size]
  rw [split]
  apply behind?_append
  rw [List.length_append, List.length_append, Bytes.length_ofWord, eight, counted]

/-! ## Sections -/

/-- Behind the first question, the other ones and the records are still to be passed over. -/
theorem additionalSection?_of_first {header : MessageHeader} (asked : header.questions ≠ 0)
    (first : behindQuestion? body = some rest) :
    additionalSection? header body =
      (behindAll? behindQuestion? (header.questions.toNat - 1) rest).bind
        (behindAll? behindRecord? (header.answers.toNat + header.authorities.toNat)) := by
  have positive : header.questions.toNat ≠ 0 := fun zero => asked (UInt16.toNat_inj.mp zero)
  rcases Nat.exists_eq_succ_of_ne_zero positive with ⟨count, number⟩
  rw [additionalSection?, number, behindAll?, first]
  rfl

/-- With one question and no records between, the section starts behind the question. -/
theorem additionalSection?_of_only {header : MessageHeader} (one : header.questions = 1)
    (unanswered : header.answers = 0) (unreferred : header.authorities = 0)
    (first : behindQuestion? body = some rest) :
    additionalSection? header body = some rest := by
  have nonzero : header.questions ≠ 0 := by
    rw [one]
    decide
  rw [additionalSection?_of_first nonzero first, one, unanswered, unreferred]
  rfl

/-- Once its additional section is located, a message carries an extension record when it counts one
and the section starts with one. -/
theorem carriesOpt_encode {header : MessageHeader} {additional : Bytes}
    (located : additionalSection? header body = some additional) :
    CarriesOpt (header.encode ++ body) ↔ 0 < header.additionals ∧ StartsWithOpt additional := by
  have parsed := MessageHeader.parse?_encode header body
  have cut : (header.encode ++ body).drop Header.dns.size = body :=
    List.drop_left' header.length_encode
  constructor
  · rintro ⟨found, others, again, counted, placed, starts⟩
    rw [parsed] at again
    cases again
    rw [cut, located] at placed
    cases placed
    exact ⟨counted, starts⟩
  · rintro ⟨counted, starts⟩
    exact ⟨header, additional, parsed, counted, cut.symm ▸ located, starts⟩

/-- What the responder looks for behind a question is an extension record. -/
theorem optFollows_iff {data : Bytes} {offset : Nat} :
    optFollows data offset = true ↔ StartsWithOpt (data.drop offset) := by
  rw [optFollows, Bytes.slice?, StartsWithOpt, List.length_drop]
  by_cases inside : offset + optRecordSize ≤ data.length
  · rw [if_pos inside]
    have enough : optRecordSize ≤ data.length - offset := Nat.le_sub_of_add_le' inside
    have long : (data.drop offset).length = data.length - offset - 11 + 11 := by
      rw [List.length_drop]
      exact (Nat.sub_add_cancel enough).symm
    rcases Bytes.exists_octet _ _ long with ⟨owner, afterOwner, split, left10⟩
    rcases Bytes.exists_word _ afterOwner left10 with ⟨type, back, rfl, -⟩
    have front : (owner :: (Bytes.ofWord type ++ back)).take 3 = owner :: Bytes.ofWord type := rfl
    have read : Bytes.word (UInt8.ofNat (type.toNat / 256)) (UInt8.ofNat type.toNat) = type :=
      Bytes.word_octets type
    rw [split, front, List.cons.injEq, Bytes.ofWord_inj]
    change (owner == 0 && Bytes.word _ _ == typeOpt) = true ↔ _
    rw [read, Bool.and_eq_true, beq_iff_eq, beq_iff_eq]
    exact (and_iff_right enough).symm
  · rw [if_neg inside]
    constructor
    · intro impossible
      cases impossible
    · rintro ⟨enough, -⟩
      simp only [optRecordSize] at enough inside
      omega

end Dns
end DnsResponder
