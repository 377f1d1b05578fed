import DnsResponder.Dns.Header
import DnsResponder.Proofs.Bytes

namespace DnsResponder
namespace Dns
namespace MessageHeader

/-!
# Reading back a message header

The six words of a header fill its twelve octets, so writing and reading one are inverse to each
other.
-/

theorem ofView_encode (header : MessageHeader) (offset : Nat) :
    ofView ⟨offset, header.encode, header.length_encode⟩ = header := by
  rcases header with ⟨id, flags, questions, answers, authorities, additionals⟩
  rw [ofView, MessageHeader.mk.injEq]
  exact ⟨Bytes.word_octets id, Bytes.word_octets flags, Bytes.word_octets questions,
    Bytes.word_octets answers, Bytes.word_octets authorities, Bytes.word_octets additionals⟩

theorem exists_of_length (octets : Bytes) (whole : octets.length = Header.dns.size) :
    ∃ header : MessageHeader, octets = header.encode := by
  rcases Bytes.exists_word 10 octets whole with ⟨id, afterId, rfl, left10⟩
  rcases Bytes.exists_word 8 afterId left10 with ⟨flags, afterFlags, rfl, left8⟩
  rcases Bytes.exists_word 6 afterFlags left8 with ⟨questions, afterQuestions, rfl, left6⟩
  rcases Bytes.exists_word 4 afterQuestions left6 with ⟨answers, afterAnswers, rfl, left4⟩
  rcases Bytes.exists_word 2 afterAnswers left4 with ⟨authorities, afterAuthorities, rfl, left2⟩
  rcases Bytes.exists_word 0 afterAuthorities left2 with ⟨additionals, nothing, rfl, left0⟩
  rcases List.eq_nil_of_length_eq_zero left0 with rfl
  refine ⟨⟨id, flags, questions, answers, authorities, additionals⟩, ?_⟩
  simp only [encode, List.append_nil, List.append_assoc]

theorem parse?_encode (header : MessageHeader) (rest : Bytes) :
    parse? (header.encode ++ rest) = some header := by
  have enough : Header.dns.size ≤ (header.encode ++ rest).length := by
    rw [List.length_append, header.length_encode]
    exact Nat.le_add_right ..
  have front : (header.encode ++ rest).take Header.dns.size = header.encode :=
    List.take_left' header.length_encode
  rw [parse?, dif_pos enough]
  simp only [front, ofView_encode]

/-- The header at the front of a message is determined by the message. -/
theorem eq_of_encode_append {first second : MessageHeader} {rest others : Bytes}
    (same : first.encode ++ rest = second.encode ++ others) : first = second := by
  have parsed := congrArg parse? same
  rw [parse?_encode, parse?_encode] at parsed
  exact Option.some.inj parsed

/-- A standard query has none of the bits that tell it from other messages. -/
theorem and_eq_zero_of_standard {query : MessageHeader} {mask : UInt16}
    (standard : query.isStandardQuery = true)
    (inside : (Flag.response ||| Flag.opcode) &&& mask = mask) : query.flags &&& mask = 0 := by
  have none : query.flags &&& (Flag.response ||| Flag.opcode) = 0 := by
    simpa only [isStandardQuery, beq_iff_eq] using standard
  rw [← inside, ← UInt16.and_assoc, none, UInt16.zero_and]

end MessageHeader
end Dns
end DnsResponder
