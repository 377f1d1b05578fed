import DnsResponder.Proofs.Dns.Name
import DnsResponder.Proofs.Dns.Question

namespace DnsResponder
namespace Dns
namespace Question

/-!
# What decoding accepts, and what a key tells of the wire

Decoding a question is exact for the grammar of names, and what it gives for an accepted question is
determined by the octets at its place: the name in its buffer, the octets that it counts, and the
type and the class behind the zero of the name, or a stand-in for both where the data ends before
them.

Two consequences concern what a lookup can rest on.  The two policies find the same question unless a
label holds a zero, and then the policy that stops at zeros finds a shorter name rather than none.
And a key tells its name: although a packed name keeps neither its size nor its end, two questions
that are packed alike asked for the same octets.
-/

variable {data other name : Bytes} {start place : Nat} {policy : NamePolicy}
  {question beside : Question}

/-! ## Accepted questions -/

/-- A question gives back the name that stands at `start` and, when the data goes on that far, the
type and the class behind its zero.  Otherwise it has type zero in the Internet class, and counts
octets as if it were whole. -/
structure Renders (question : Question) (data : Bytes) (start : Nat) (name : Bytes) : Prop where
  packed : question.key.name.octets = name ++ List.replicate (48 - name.length) 0
  consumed : question.consumed = name.length + 5
  whole : start + question.consumed ≤ data.length →
    ∃ rest, data.drop start = questionOctets name question.key.qtype question.key.qclass ++ rest
  cut : data.length < start + question.consumed →
    question.key.qtype = 0 ∧ question.key.qclass = 1

/-- There is only one question that renders a name at a place. -/
theorem Renders.unique (renders : question.Renders data start name)
    (also : beside.Renders data start name) : question = beside := by
  have samePacked : question.key.name = beside.key.name :=
    PackedName.octets_inj.mp (renders.packed.trans also.packed.symm)
  have sameConsumed : question.consumed = beside.consumed :=
    renders.consumed.trans also.consumed.symm
  have sameTail :
      question.key.qtype = beside.key.qtype ∧ question.key.qclass = beside.key.qclass := by
    by_cases whole : start + question.consumed ≤ data.length
    · rcases renders.whole whole with ⟨rest, split⟩
      rcases also.whole (sameConsumed ▸ whole) with ⟨others, again⟩
      have tail := questionOctets_append_inj.mp (split.symm.trans again)
      exact ⟨tail.1, tail.2.1⟩
    · have first := renders.cut (Nat.not_le.mp whole)
      have second := also.cut (sameConsumed ▸ Nat.not_le.mp whole)
      exact ⟨first.1.trans second.1.symm, first.2.trans second.2.symm⟩
  cases question
  cases beside
  rw [Question.mk.injEq]
  refine ⟨?_, sameConsumed⟩
  exact Key.mk.injEq .. ▸ ⟨samePacked, sameTail⟩

/-- A name whose final zero is reached is decoded. -/
theorem exists_renders (reached : policy.Reaches (data.drop start) name 0) :
    ∃ question, decode data start policy = .ok question ∧ question.Renders data start name := by
  rcases reached.next with ⟨rest, split⟩
  refine ⟨_, map_eq_ok_iff.mpr ⟨name, reached.readName_eq, rfl⟩, ?_, rfl, ?_, ?_⟩
  · exact PackedName.padded_ofOctets (Nat.le_succ_of_le reached.short)
  · intro whole
    rcases exists_questionOctets split whole with ⟨qtype, qclass, back, octets, tail⟩
    simp only [tail]
    exact ⟨back, octets⟩
  · intro cut
    have tail : readTail data (start + name.length) = (0, classInternet) :=
      readTail_of_cut (by rw [Nat.add_assoc]; exact cut)
    simp only [tail, classInternet, and_self]

theorem decode_eq_ok_iff : decode data start policy = .ok question ↔
    ∃ name, policy.Reaches (data.drop start) name 0 ∧ question.Renders data start name := by
  constructor
  · intro found
    rcases map_eq_ok_iff.mp found with ⟨name, named, -⟩
    have reached := readName_eq_ok_iff.mp named
    rcases exists_renders reached with ⟨rendered, decoded, renders⟩
    rw [found] at decoded
    cases decoded
    exact ⟨name, reached, renders⟩
  · rintro ⟨name, reached, renders⟩
    rcases exists_renders reached with ⟨rendered, decoded, also⟩
    rw [decoded, renders.unique also]

theorem decode_eq_error_iff {cause : PacketError} : decode data start policy = .error cause ↔
    readName policy (data.drop start) = .error cause :=
  map_eq_error_iff

/-- Decoding accepts the names whose final zero is reached and renders the question there; it reports
the octet that is refused where it is reached; and otherwise it finds no end of a name. -/
theorem decode_by_grammar (data : Bytes) (start : Nat) (policy : NamePolicy) :
    (∀ question, decode data start policy = .ok question ↔
      ∃ name, policy.Reaches (data.drop start) name 0 ∧ question.Renders data start name)
    ∧ (∀ octet, decode data start policy = .error (.badLabelSize octet) ↔
      policy.Refuses octet ∧ ∃ name, policy.Reaches (data.drop start) name octet)
    ∧ (decode data start policy = .error .unterminatedName ↔
      ∀ name stop, policy.Reaches (data.drop start) name stop →
        stop ≠ 0 ∧ ¬ policy.Refuses stop) := by
  refine ⟨fun question => decode_eq_ok_iff, fun octet => ?_, ?_⟩
  · rw [decode_eq_error_iff, readName_eq_badLabelSize_iff]
  · rw [decode_eq_error_iff, readName_eq_unterminatedName_iff]

/-! ## Two policies -/

/-- Up to the first zero of a name by labels, the other policy finds a name too. -/
theorem exists_reaches_toZero (reached : NamePolicy.byLabels.Reaches data name 0) :
    ∃ front, NamePolicy.toZero.Reaches data front 0 ∧ front.length ≤ name.length
      ∧ (front.length = name.length ↔ 0 ∉ name) := by
  rcases reached.next with ⟨rest, rfl⟩
  by_cases held : 0 ∈ name
  · rcases List.eq_append_cons_of_mem held with ⟨front, back, rfl, clean⟩
    have short := reached.short
    have shorter : front.length < (front ++ 0 :: back).length := by
      rw [List.length_append, List.length_cons]
      omega
    have next : ∃ rest', front ++ 0 :: back ++ 0 :: rest = front ++ 0 :: rest' :=
      ⟨back ++ 0 :: rest, by rw [List.append_assoc, List.cons_append]⟩
    refine ⟨front, ⟨clean, by omega, next⟩, Nat.le_of_lt shorter, ?_⟩
    exact iff_of_false (Nat.ne_of_lt shorter) (not_not_intro held)
  · exact ⟨name, ⟨held, reached.short, rest, rfl⟩, Nat.le_refl _, iff_of_true rfl held⟩

/-- A question that is found by labels is found up to a zero as well, and the two are the same unless
its name holds a zero. -/
theorem decode_toZero_of_byLabels (found : decode data start .byLabels = .ok question) :
    ∃ other, decode data start .toZero = .ok other ∧ other.consumed ≤ question.consumed
      ∧ (other = question ↔ 0 ∉ (data.drop start).take (question.consumed - 5)) := by
  rcases decode_eq_ok_iff.mp found with ⟨name, reached, renders⟩
  rcases exists_reaches_toZero reached with ⟨front, ends, shorter, same⟩
  rcases exists_renders ends with ⟨other, decoded, also⟩
  have shown : (data.drop start).take (question.consumed - 5) = name := by
    rcases reached.next with ⟨rest, split⟩
    rw [split, renders.consumed, Nat.add_sub_cancel, List.take_left]
  refine ⟨other, decoded, ?_, ?_⟩
  · rw [renders.consumed, also.consumed]
    exact Nat.add_le_add_right shorter 5
  · rw [shown, ← same]
    constructor
    · rintro rfl
      exact Nat.add_right_cancel (also.consumed.symm.trans renders.consumed)
    · intro size
      -- names of one size that stand at one place are one name
      have one : front = name := by
        rcases ends.next with ⟨rest, split⟩
        rcases reached.next with ⟨others, again⟩
        exact (List.append_inj (split.symm.trans again) size).1
      exact (one ▸ also).unique renders

/-- A zero inside a label ends the name early under the policy that stops at zeros. -/
theorem decode_toZero_of_zero_in_label :
    decode [9, 9, 3, 1, 0, 2, 0, 0, 28, 0, 1] 2 .byLabels =
        .ok ⟨⟨.ofOctets [3, 1, 0, 2], 28, 1⟩, 9⟩
      ∧ ∃ other, decode [9, 9, 3, 1, 0, 2, 0, 0, 28, 0, 1] 2 .toZero = .ok other
        ∧ other.consumed ≤ 9
        ∧ (other = ⟨⟨.ofOctets [3, 1, 0, 2], 28, 1⟩, 9⟩ ↔ (0 : UInt8) ∉ [3, 1, 0, 2]) := by
  have found : decode [9, 9, 3, 1, 0, 2, 0, 0, 28, 0, 1] 2 .byLabels =
      .ok ⟨⟨.ofOctets [3, 1, 0, 2], 28, 1⟩, 9⟩ := by
    decide +kernel
  exact ⟨found, decode_toZero_of_byLabels found⟩

/-! ## Keys and names -/

/-- Reading the octets of a key gives back the name that was asked for. -/
theorem Renders.readName_eq (renders : question.Renders data start name)
    (reached : policy.Reaches (data.drop start) name 0) :
    readName policy question.key.name.octets = .ok name := by
  have padded : question.key.name.octets = name ++ 0 :: List.replicate (47 - name.length) 0 := by
    have size : 48 - name.length = 47 - name.length + 1 := Nat.succ_sub reached.short
    rw [renders.packed, size, List.replicate_succ]
  exact readName_eq_ok_iff.mpr ⟨reached.admits, reached.short, _, padded⟩

/-- Questions whose keys have the same packed name asked for the same octets. -/
theorem same_name_of_same_key (found : decode data start policy = .ok question)
    (again : decode other place policy = .ok beside)
    (same : question.key.name = beside.key.name) :
    question.consumed = beside.consumed ∧
      ∃ name rest others, data.drop start = name ++ 0 :: rest ∧ other.drop place = name ++ 0 :: others
        ∧ question.consumed = name.length + 5 := by
  rcases decode_eq_ok_iff.mp found with ⟨name, reached, renders⟩
  rcases decode_eq_ok_iff.mp again with ⟨spelling, arrived, also⟩
  have read := renders.readName_eq reached
  rw [same, also.readName_eq arrived] at read
  cases read
  rcases reached.next with ⟨rest, split⟩
  rcases arrived.next with ⟨others, beyond⟩
  exact ⟨renders.consumed.trans also.consumed.symm, name, rest, others, split, beyond,
    renders.consumed⟩

/-- A name that ends in a zero octet, in a whole question and in one that is cut behind the name. -/
theorem same_name_before_padding :
    decode [2, 5, 0, 0, 0, 1, 0, 1] 0 .byLabels = .ok ⟨⟨.ofOctets [2, 5, 0], 1, 1⟩, 8⟩
      ∧ decode [7, 2, 5, 0, 0] 1 .byLabels = .ok ⟨⟨.ofOctets [2, 5, 0], 0, 1⟩, 8⟩
      ∧ ∃ name rest others, List.drop 0 [2, 5, 0, 0, 0, 1, 0, 1] = name ++ (0 : UInt8) :: rest
        ∧ List.drop 1 [7, 2, 5, 0, 0] = name ++ (0 : UInt8) :: others ∧ 8 = name.length + 5 := by
  have whole : decode [2, 5, 0, 0, 0, 1, 0, 1] 0 .byLabels =
      .ok ⟨⟨.ofOctets [2, 5, 0], 1, 1⟩, 8⟩ := by
    decide +kernel
  have cut : decode [7, 2, 5, 0, 0] 1 .byLabels = .ok ⟨⟨.ofOctets [2, 5, 0], 0, 1⟩, 8⟩ := by
    decide +kernel
  exact ⟨whole, cut, (same_name_of_same_key whole cut rfl).2⟩

end Question
end Dns
end DnsResponder
