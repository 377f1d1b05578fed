import DnsResponder.Proofs.Dns.Name
import DnsResponder.Proofs.Dns.Question

namespace DnsResponder
namespace Dns

/-!
# Questions for a stored name

An operator writes a name as one text with dots, and a client sends its labels one by one.  What ties
the two is `Spells`, which joins labels and so does not depend on how a text is taken apart.

A name that packs is spelled by labels.  Wherever a question for these labels stands, and whatever
stands around it, decoding finds the key under which the name was stored, in the class of the
question.
-/

/-! ## Labels of a text -/

/-- The text is the labels joined with dots, with a final dot or without one. -/
structure Spells (name : String) (labels : List String) : Prop where
  nonempty : ∀ label ∈ labels, label ≠ ""
  undotted : ∀ label ∈ labels, '.' ∉ label.toList
  joined : name = ".".intercalate labels ∨ name = ".".intercalate labels ++ "."

/-- A label on the wire: the number of its octets, and its octets. -/
def counted (label : String) : Bytes :=
  UInt8.ofNat label.utf8ByteSize :: label.toUTF8.data.toList

namespace PackedName

variable {name : String} {labels : List String} {pieces : List (List Char)}

theorem encode_toList (label : String) :
    Text.Utf8.encode label.toList = label.toUTF8.data.toList := by
  have octets : (Text.Utf8.encode label.toList).toByteArray = label.toUTF8 :=
    String.utf8Encode_toList
  rw [← octets, List.toList_data_toByteArray]

theorem packLabel_toList (label : String) : packLabel label.toList = counted label := by
  rw [packLabel, encode_toList]
  rfl

/-- Labels joined with dots end in a character that is no dot. -/
theorem exists_last (nonempty : ∀ piece ∈ pieces, piece ≠ [])
    (undotted : ∀ piece ∈ pieces, '.' ∉ piece) (some : pieces ≠ []) :
    ∃ front char, ['.'].intercalate pieces = front ++ [char] ∧ char ≠ '.' := by
  induction pieces with
  | nil => exact absurd rfl some
  | cons piece pieces ih =>
    rw [List.forall_mem_cons] at nonempty undotted
    cases pieces with
    | nil =>
      refine ⟨piece.dropLast, piece.getLast nonempty.1, ?_, ?_⟩
      · rw [List.intercalate_singleton, List.dropLast_concat_getLast]
      · intro dot
        exact undotted.1 (dot ▸ List.getLast_mem nonempty.1)
    | cons next later =>
      rcases ih nonempty.2 undotted.2 (List.cons_ne_nil next later) with ⟨front, char, split, other⟩
      refine ⟨piece ++ ['.'] ++ front, char, ?_, other⟩
      rw [List.intercalate_cons_cons, split]
      simp only [List.append_assoc]

/-- The labels that spell a name are the labels it is cut into. -/
theorem labels_of_spells (spells : Spells name labels) :
    PackedName.labels name.toList = labels.map String.toList := by
  have text : (".".intercalate labels).toList = ['.'].intercalate (labels.map String.toList) :=
    String.toList_intercalate
  have undotted : ∀ piece ∈ labels.map String.toList, '.' ∉ piece :=
    List.forall_mem_map.mpr spells.undotted
  have nonempty : ∀ piece ∈ labels.map String.toList, piece ≠ [] :=
    List.forall_mem_map.mpr fun label part none =>
      spells.nonempty label part (String.toList_eq_nil_iff.mp none)
  by_cases root : labels.map String.toList = []
  · rw [root, List.intercalate_nil] at text
    rw [root]
    rcases spells.joined with rfl | rfl
    · rw [text]
      rfl
    · rw [String.toList_append, text]
      rfl
  · rcases exists_last nonempty undotted root with ⟨front, char, split, other⟩
    -- the final dot, if there is one, is not part of the last label
    have joined : withoutFinalDot name.toList = front ++ [char] := by
      rcases spells.joined with rfl | rfl
      · rw [text, split, withoutFinalDot, List.getLast?_concat, if_neg]
        exact fun dot => other (Option.some.inj dot)
      · rw [String.toList_append, text, split, withoutFinalDot]
        exact (if_pos List.getLast?_concat).trans List.dropLast_concat
    have some : front ++ [char] ≠ [] :=
      List.append_ne_nil_of_right_ne_nil front (List.cons_ne_nil char [])
    rw [PackedName.labels, joined, if_neg some, ← split,
      List.splitOn_intercalate '.' undotted root]

theorem exists_spells (packable : Packable name) : ∃ labels, Spells name labels := by
  have strings : ((PackedName.labels name.toList).map String.ofList).map String.toList =
      PackedName.labels name.toList := by
    rw [List.map_map]
    exact List.map_id'' (fun label => String.toList_ofList) _
  have text : (".".intercalate ((PackedName.labels name.toList).map String.ofList)).toList =
      withoutFinalDot name.toList := by
    rw [String.toList_intercalate, strings]
    exact intercalate_labels name.toList
  refine ⟨(PackedName.labels name.toList).map String.ofList, ?_, ?_, ?_⟩
  · rw [List.forall_mem_map]
    intro label part none
    have empty : label = [] := by rw [← String.toList_ofList (l := label), none, String.toList_empty]
    exact absurd (packable.label label part).1 (by rw [empty]; decide)
  · rw [List.forall_mem_map]
    intro label part dot
    rw [String.toList_ofList] at dot
    exact (of_mem_labels part dot).2 rfl
  · by_cases dotted : name.toList.getLast? = some '.'
    · right
      rw [← String.toList_inj, String.toList_append, text, withoutFinalDot, if_pos dotted]
      rcases List.getLast?_eq_some_iff.mp dotted with ⟨front, split⟩
      rw [split, List.dropLast_concat]
      rfl
    · left
      rw [← String.toList_inj, text, withoutFinalDot, if_neg dotted]

end PackedName

/-- A name that packs is spelled by labels, and a question for these labels, wherever it stands, is
decoded to the key of the name in the class that is asked for.  The policy that stops at zeros is
to be relied on for names without a zero character. -/
theorem Key.decoded_as_packed {name : String} {type : RecordType} {key : Key}
    (packed : Key.ofText name type = .ok key) :
    (∃ labels, Spells name labels) ∧
      ∀ labels, Spells name labels →
        ∀ policy, (policy = .toZero → '\x00' ∉ name.toList) →
          ∀ (qclass : UInt16) (front back : Bytes),
            Question.decode
                (front ++ (labels.flatMap counted ++ [0] ++ Bytes.ofWord type.code ++
                  Bytes.ofWord qclass) ++ back)
                front.length policy =
              .ok ⟨{ key with qclass := qclass }, (labels.flatMap counted).length + 5⟩ := by
  rcases Key.ofText_eq_ok_iff.mp packed with ⟨packable, rfl⟩
  refine ⟨PackedName.exists_spells packable, ?_⟩
  intro labels spells policy readable qclass front back
  have wire : PackedName.wireOctets name = labels.flatMap counted := by
    rw [PackedName.wireOctets, PackedName.labels_of_spells spells, List.flatMap_map]
    exact congrArg labels.flatMap (funext PackedName.packLabel_toList)
  have named := PackedName.readName_wireOctets packable readable
  rw [wire] at named
  rw [Key.named, wire]
  have split : front ++ (labels.flatMap counted ++ [0] ++ Bytes.ofWord type.code ++
      Bytes.ofWord qclass) ++ back =
      front ++ (questionOctets (labels.flatMap counted) type.code qclass ++ back) := by
    rw [questionOctets]
    simp only [List.append_assoc, List.cons_append, List.nil_append]
  exact Question.decode_eq split rfl named

/-- A name with a label of two octets in one character, asked for in another class. -/
theorem Key.decoded_in_other_class :
    Key.ofText "ab.é." .aaaa = .ok (Key.named "ab.é" typeAaaa)
      ∧ Spells "ab.é." ["ab", "é"]
      ∧ Question.decode ([7, 0] ++ ([2, 97, 98, 2, 195, 169] ++ [0] ++ Bytes.ofWord 28 ++
          Bytes.ofWord 3) ++ [0, 9]) 2 .toZero =
        .ok ⟨{ Key.named "ab.é" typeAaaa with qclass := 3 }, 11⟩ := by
  have packed : Key.ofText "ab.é." .aaaa = .ok (Key.named "ab.é" typeAaaa) :=
    Key.ofText_eq_ok_iff.mpr ⟨by decide +kernel, by decide +kernel⟩
  have spells : Spells "ab.é." ["ab", "é"] :=
    ⟨by decide +kernel, by decide +kernel, .inr (by decide +kernel)⟩
  have wire : ["ab", "é"].flatMap counted = [2, 97, 98, 2, 195, 169] := by decide +kernel
  have decoded := (Key.decoded_as_packed packed).2 ["ab", "é"] spells .toZero
    (fun _ => by decide +kernel) 3 [7, 0] [0, 9]
  rw [wire] at decoded
  exact ⟨packed, spells, decoded⟩

end Dns
end DnsResponder
