import DnsResponder.Proofs.Bytes
import DnsResponder.Proofs.Dns.Grammar
import DnsResponder.Proofs.Refusal

namespace DnsResponder
namespace Dns

/-!
# What decoding a question depends on

A question is a name, a zero, a type and a class.  Wherever these octets stand, decoding finds the
same question and counts the same octets, and no octet behind them matters.  Decoding also takes a
question that is cut after its name; such a question counts octets that are not there, and is the
only one of which this does not hold.
-/

variable {data name rest : Bytes} {policy : NamePolicy}

/-! ## Names -/

/-- A name ends at a zero, and what follows the zero does not matter. -/
theorem of_readName (found : readName policy data = .ok name) :
    (∃ rest, data = name ++ 0 :: rest) ∧
      ∀ rest, readName policy (name ++ 0 :: rest) = .ok name := by
  have reached := readName_eq_ok_iff.mp found
  refine ⟨reached.next, fun rest => ?_⟩
  exact readName_eq_ok_iff.mpr ⟨reached.admits, reached.short, rest, rfl⟩

/-! ## Questions -/

/-- The octets of a question: its name, the final zero, its type and its class. -/
def questionOctets (name : Bytes) (qtype qclass : UInt16) : Bytes :=
  name ++ 0 :: (Bytes.ofWord qtype ++ Bytes.ofWord qclass)

theorem length_questionOctets (name : Bytes) (qtype qclass : UInt16) :
    (questionOctets name qtype qclass).length = name.length + questionTailSize := by
  rw [questionOctets, List.length_append]
  rfl

/-- Behind one name, the octets of a question tell its type and its class. -/
theorem questionOctets_append_inj {qtype qclass other beside : UInt16} {others : Bytes} :
    questionOctets name qtype qclass ++ rest = questionOctets name other beside ++ others ↔
      qtype = other ∧ qclass = beside ∧ rest = others := by
  rw [questionOctets, questionOctets]
  simp only [List.append_assoc, List.cons_append, List.append_cancel_left_eq, List.cons.injEq,
    true_and, Bytes.ofWord_append_inj]

variable {front back : Bytes} {start : Nat} {qtype qclass : UInt16}

theorem readTail_eq (split : data = front ++ (questionOctets name qtype qclass ++ back))
    (place : front.length = start) : readTail data (start + name.length) = (qtype, qclass) := by
  have tail : data.slice? (start + name.length) questionTailSize =
      some (0 :: (Bytes.ofWord qtype ++ Bytes.ofWord qclass)) := by
    have behind : data = (front ++ name) ++
        ((0 :: (Bytes.ofWord qtype ++ Bytes.ofWord qclass)) ++ back) := by
      rw [split, questionOctets]
      simp only [List.append_assoc]
    exact Bytes.slice?_of_split behind (by rw [List.length_append, place]) rfl
  rw [readTail, tail]
  exact congrArg₂ Prod.mk (Bytes.word_octets qtype) (Bytes.word_octets qclass)

/-- A question is decoded where it stands. -/
theorem Question.decode_eq (split : data = front ++ (questionOctets name qtype qclass ++ back))
    (place : front.length = start)
    (named : ∀ rest, readName policy (name ++ 0 :: rest) = .ok name) :
    decode data start policy =
      .ok ⟨⟨.ofOctets name, qtype, qclass⟩, name.length + questionTailSize⟩ := by
  have shown : data.drop start =
      name ++ 0 :: (Bytes.ofWord qtype ++ Bytes.ofWord qclass ++ back) := by
    rw [split, List.drop_left' place, questionOctets, List.append_assoc]
    rfl
  rw [decode, shown, named]
  simp only [Except.map, readTail_eq split place]

/-- A name with enough octets behind it begins a question. -/
theorem exists_questionOctets (split : data.drop start = name ++ 0 :: rest)
    (whole : start + (name.length + questionTailSize) ≤ data.length) :
    ∃ qtype qclass back, data.drop start = questionOctets name qtype qclass ++ back
      ∧ readTail data (start + name.length) = (qtype, qclass) := by
  have long : rest.length = rest.length - 4 + 4 := by
    have count := congrArg List.length split
    simp only [List.length_drop, List.length_append, List.length_cons] at count
    simp only [questionTailSize] at whole
    omega
  rcases Bytes.exists_word (rest.length - 4 + 2) rest long with ⟨qtype, afterType, rfl, left2⟩
  rcases Bytes.exists_word _ afterType left2 with ⟨qclass, back, rfl, -⟩
  have cut : data.drop start = questionOctets name qtype qclass ++ back := by
    rw [split, questionOctets]
    simp only [List.append_assoc, List.cons_append]
  have inside : start ≤ data.length := Nat.le_trans (Nat.le_add_right ..) whole
  have around : data = data.take start ++ (questionOctets name qtype qclass ++ back) := by
    rw [← cut, List.take_append_drop]
  exact ⟨qtype, qclass, back, cut, readTail_eq around (List.length_take_of_le inside)⟩

/-- A name with too few octets behind it is taken for one of type zero in the Internet class. -/
theorem readTail_of_cut {offset : Nat} (cut : data.length < offset + questionTailSize) :
    readTail data offset = (0, classInternet) := by
  rw [readTail, Bytes.slice?, if_neg (Nat.not_le.mpr cut)]

/-- What is decoded, when all of the octets that it counts are there, stands there. -/
theorem Question.of_decode {question : Question} (found : decode data start policy = .ok question)
    (whole : start + question.consumed ≤ data.length) :
    ∃ name qtype qclass back, data.drop start = questionOctets name qtype qclass ++ back
      ∧ question = ⟨⟨.ofOctets name, qtype, qclass⟩, name.length + questionTailSize⟩
      ∧ ∀ rest, readName policy (name ++ 0 :: rest) = .ok name := by
  rw [decode, map_eq_ok_iff] at found
  rcases found with ⟨name, named, rfl⟩
  rcases of_readName named with ⟨⟨rest, split⟩, again⟩
  rcases exists_questionOctets split whole with ⟨qtype, qclass, back, cut, tail⟩
  refine ⟨name, qtype, qclass, back, cut, ?_, again⟩
  simp only [tail]

/-- A question with a type was not cut: all of the octets that it counts are there. -/
theorem Question.whole_of_decode {question : Question}
    (found : decode data start policy = .ok question) (typed : question.key.qtype ≠ 0) :
    start + question.consumed ≤ data.length := by
  rw [decode, map_eq_ok_iff] at found
  rcases found with ⟨name, named, rfl⟩
  by_contra cut
  rw [Nat.not_le, ← Nat.add_assoc] at cut
  exact typed (congrArg Prod.fst (readTail_of_cut cut))

/-- The longest question that is read has a name of 47 octets. -/
theorem Question.consumed_le {question : Question}
    (found : decode data start policy = .ok question) : question.consumed ≤ 52 := by
  rw [decode, map_eq_ok_iff] at found
  rcases found with ⟨name, named, rfl⟩
  exact Nat.add_le_add_right (readName_eq_ok_iff.mp named).short questionTailSize

/-- A question that was decoded whole is decoded again wherever its octets are put. -/
theorem Question.decode_again {question : Question}
    (found : decode data start policy = .ok question)
    (whole : start + question.consumed ≤ data.length) {copy : Bytes} {place : Nat}
    (split : copy = front ++ ((data.drop start).take question.consumed ++ back))
    (reached : front.length = place) : decode copy place policy = .ok question := by
  rcases of_decode found whole with ⟨name, qtype, qclass, remaining, cut, rfl, named⟩
  rw [cut, List.take_left' (length_questionOctets name qtype qclass)] at split
  exact decode_eq split reached named

/-- A question is refused for what its name is. -/
theorem Question.stopsOnlyFor_decode (data : Bytes) (start : Nat) (policy : NamePolicy) :
    StopsOnlyFor (fun cause => cause.inMessage = true) (decode data start policy) := by
  refine StopsOnlyFor.map (fun cause stopped => ?_) _
  cases stopped ▸ finds_readName policy (data.drop start) with
  | refusal reached refused => rfl
  | nothing unreached => rfl

/-- What is decoded behind some octets does not depend on them. -/
theorem Question.decode_within (split : data = front ++ back) (reached : front.length = start)
    (within : Nat) (policy : NamePolicy) :
    decode data (start + within) policy = decode back within policy := by
  have shown : data.drop (start + within) = back.drop within := by
    rw [split, ← List.drop_drop, List.drop_left' reached]
  have tail (size : Nat) : readTail data (start + within + size) = readTail back (within + size) := by
    rw [readTail, readTail, Nat.add_assoc, Bytes.slice?_behind split reached]
  rw [decode, decode, shown]
  simp only [tail]

theorem optFollows_within (split : data = front ++ back) (reached : front.length = start)
    (within : Nat) : optFollows data (start + within) = optFollows back within := by
  rw [optFollows, optFollows, Bytes.slice?_behind split reached]

theorem optFollows_behind (split : data = front ++ back) (reached : front.length = start) :
    optFollows data start = optFollows back 0 :=
  optFollows_within split reached 0

end Dns
end DnsResponder
