import DnsResponder.Proofs.Dns.Shown
import Mathlib.Data.List.Basic

namespace DnsResponder
namespace Dns

/-!
# Octets of a question that are looked up

A question is read octet by octet, and its name is shown by stepping from one size to the next in a
buffer.  The definitions that do so match on lists, which cannot miss an octet.  Here the same steps
are taken by offset, and with a stop at each place where an offset could be wrong: a label's octets
are counted down by a difference that has to be one, the type, the class and the owner are looked up
in the slices that hold them, and so are the sizes and the labels of a packed name.

None of the steps stops except for what is wrong with the question.  A slice has the size asked for,
and a position in the buffer is followed only when the label that begins there ends within it.
-/

/-! ## Reading a question -/

/-- The octets before the zero that stands in place of a label's size. -/
def checkedNameByLabels : (room owed : Nat) → Bytes → Except Stop Bytes
  | 0, _, _ => .error (.refused (.packet .unterminatedName))
  | _ + 1, _, [] => .error (.refused (.packet .unterminatedName))
  | room + 1, owed, octet :: rest =>
    if owed = 0 then
      if octet = 0 then .ok []
      else if maxLabelSize < octet.toNat then .error (.refused (.packet (.badLabelSize octet)))
      else (checkedNameByLabels room octet.toNat rest).map (octet :: ·)
    else do
      let left ← Stop.difference owed 1
      (checkedNameByLabels room left rest).map (octet :: ·)

def checkedName (policy : NamePolicy) (data : Bytes) : Except Stop Bytes :=
  match policy with
  | .toZero => Stop.ofRefusal ((nameToZero nameCapacity data).mapError .packet)
  | .byLabels => checkedNameByLabels nameCapacity 0 data

/-- The type and the class after a name, looked up in the octets that hold both. -/
def checkedTail (data : Bytes) (offset : Nat) : Except Stop (UInt16 × UInt16) :=
  match data.slice? offset questionTailSize with
  | some tail => do
    let qtype ← Stop.require (tail.word? 1)
    let qclass ← Stop.require (tail.word? 3)
    return (qtype, qclass)
  | none => .ok (0, classInternet)

def Question.checkedDecode (data : Bytes) (start : Nat) (policy : NamePolicy) :
    Except Stop Question := do
  let name ← checkedName policy (data.drop start)
  let (qtype, qclass) ← checkedTail data (start + name.length)
  return ⟨⟨.ofOctets name, qtype, qclass⟩, name.length + questionTailSize⟩

/-- Whether a whole pseudo-record stands at `offset`, with its owner and its type looked up. -/
def checkedOptFollows (data : Bytes) (offset : Nat) : Except Stop Bool :=
  match data.slice? offset optRecordSize with
  | some record => do
    let owner ← Stop.require record[0]?
    let type ← Stop.require (record.word? 1)
    return owner == 0 && type == typeOpt
  | none => .ok false

/-- A label owes an octet when one is counted. -/
theorem checkedNameByLabels_eq (room owed : Nat) (octets : Bytes) :
    checkedNameByLabels room owed octets =
      Stop.ofRefusal ((nameByLabels room owed octets).mapError .packet) := by
  have carried (octet : UInt8) (found : Except PacketError Bytes) :
      (Stop.ofRefusal (found.mapError .packet)).map (octet :: ·) =
        Stop.ofRefusal ((found.map (octet :: ·)).mapError .packet) := by
    cases found <;> rfl
  induction room generalizing owed octets with
  | zero => rfl
  | succ room ih =>
    cases octets with
    | nil => rfl
    | cons octet rest =>
      cases owed with
      | zero =>
        rw [checkedNameByLabels, if_pos rfl, nameByLabels]
        split
        · rfl
        · split
          · rfl
          · rw [ih, carried]
      | succ owed =>
        have counted : Stop.difference (owed + 1) 1 = .ok owed :=
          Stop.difference_eq (Nat.add_comm owed 1)
        rw [checkedNameByLabels, if_neg (Nat.succ_ne_zero owed), counted, nameByLabels, ← carried,
          ← ih]
        rfl

theorem checkedName_eq (policy : NamePolicy) (octets : Bytes) :
    checkedName policy octets = Stop.ofRefusal ((readName policy octets).mapError .packet) := by
  cases policy with
  | toZero => rfl
  | byLabels => exact checkedNameByLabels_eq _ _ _

theorem checkedTail_eq (data : Bytes) (offset : Nat) :
    checkedTail data offset = .ok (readTail data offset) := by
  rw [checkedTail, readTail]
  cases found : data.slice? offset questionTailSize with
  | none => rfl
  | some tail =>
    rcases Bytes.exists_octet 4 tail (Bytes.length_of_slice? found) with ⟨zero, words, rfl, four⟩
    rcases List.length_eq_four.mp four with ⟨type0, type1, class0, class1, rfl⟩
    rfl

theorem checkedOptFollows_eq (data : Bytes) (offset : Nat) :
    checkedOptFollows data offset = .ok (optFollows data offset) := by
  rw [checkedOptFollows, optFollows]
  cases found : data.slice? offset optRecordSize with
  | none => rfl
  | some record =>
    rcases Bytes.exists_octet 10 record (Bytes.length_of_slice? found) with ⟨owner, rest, rfl, ten⟩
    rcases Bytes.exists_octet 9 rest ten with ⟨type0, rest, rfl, nine⟩
    rcases Bytes.exists_octet 8 rest nine with ⟨type1, rest, rfl, -⟩
    rfl

theorem Question.checkedDecode_eq (data : Bytes) (start : Nat) (policy : NamePolicy) :
    checkedDecode data start policy =
      Stop.ofRefusal ((decode data start policy).mapError .packet) := by
  rw [checkedDecode, decode, checkedName_eq]
  cases readName policy (data.drop start) with
  | error cause => rfl
  | ok name =>
    simp only [Except.mapError, Stop.ofRefusal, bind, Except.bind, checkedTail_eq, Except.map]
    rfl

/-! ## Showing a name -/

namespace PackedName

/-- The labels from a position of the buffer, with their sizes and their octets looked up. -/
def checkedLabels (name : PackedName) (position : Nat) : Except Stop (List Bytes) :=
  if position < nameCapacity then do
    let size ← Stop.require name.octets[position]?
    if size = 0 ∨ nameCapacity < position + 1 + size.toNat then
      return []
    else
      let label ← Stop.require (name.octets.slice? (position + 1) size.toNat)
      let rest ← checkedLabels name (position + 1 + size.toNat)
      return label :: rest
  else .ok []
termination_by nameCapacity - position

def checkedText (name : PackedName) : Except Stop String :=
  (checkedLabels name 0).map fun labels =>
    match labels with
    | [] => "."
    | labels => String.intercalate "." (labels.map Text.Utf8.decodeLossy)

theorem checkedLabels_eq (name : PackedName) (position : Nat) :
    name.checkedLabels position = .ok (unpackLabels 0 [] (name.octets.drop position)) := by
  induction left : nameCapacity - position using Nat.strongRecOn generalizing position with
  | ind left ih =>
    rw [checkedLabels]
    by_cases inside : position < nameCapacity
    · have held : position < name.octets.length := name.size_eq ▸ inside
      obtain ⟨size, found, split⟩ : ∃ size, name.octets[position]? = some size
          ∧ name.octets.drop position = size :: name.octets.drop (position + 1) :=
        ⟨_, List.getElem?_eq_getElem held, List.drop_eq_getElem_cons held⟩
      have behind : (name.octets.drop (position + 1)).length = nameCapacity - (position + 1) := by
        rw [List.length_drop, name.size_eq]
      rw [if_pos inside, found, split]
      by_cases zero : size = 0
      · rw [zero]
        rfl
      · rw [unpackLabels_size zero, behind, List.drop_drop]
        by_cases whole : position + 1 + size.toNat ≤ nameCapacity
        · have label : name.octets.slice? (position + 1) size.toNat =
              some ((name.octets.drop (position + 1)).take size.toNat) :=
            Bytes.slice?_of_le (name.size_eq ▸ whole)
          have next := ih _ (by omega) (position + 1 + size.toNat) rfl
          have going : ¬ (size = 0 ∨ nameCapacity < position + 1 + size.toNat) :=
            not_or.mpr ⟨zero, Nat.not_lt_of_le whole⟩
          rw [if_pos (by omega)]
          simp only [Stop.require, bind, Except.bind, if_neg going, label, next]
          rfl
        · have last : size = 0 ∨ nameCapacity < position + 1 + size.toNat :=
            .inr (Nat.lt_of_not_le whole)
          rw [if_neg (by omega)]
          simp only [Stop.require, bind, Except.bind, if_pos last]
          rfl
    · have beyond : name.octets.drop position = [] :=
        List.drop_eq_nil_of_le (name.size_eq ▸ Nat.le_of_not_lt inside)
      rw [if_neg inside, beyond]
      rfl

theorem checkedText_eq (name : PackedName) : name.checkedText = .ok name.text := by
  rw [checkedText, checkedLabels_eq, List.drop_zero]
  rfl

end PackedName
end Dns
end DnsResponder
