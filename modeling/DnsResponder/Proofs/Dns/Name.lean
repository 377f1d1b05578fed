import DnsResponder.Proofs.Dns.Grammar
import DnsResponder.Proofs.Refusal

namespace DnsResponder

/-!
# Names between operators and the wire

An operator writes a name with dots, a client sends it as labels with their sizes.  Packing a dotted
name and reading the wire form of the same name lead to the same octets, whichever policy reads them,
and different names lead to different octets.  So what is stored under a dotted name is found by
those questions, and only those, that ask for the name.

Labels are told apart by reading them back from their packed form.  A zero octet inside a label is
the one thing on which the policies disagree; no other character has one.
-/

/-! ## Octets of characters -/

namespace Text.Utf8

variable {text : List Char}

theorem encode_injective : Function.Injective encode := by
  intro first second same
  have bytes : first.utf8Encode = second.utf8Encode := congrArg List.toByteArray same
  have decoded := congrArg ByteArray.utf8Decode? bytes
  rw [List.utf8Decode?_utf8Encode, List.utf8Decode?_utf8Encode, Option.some.injEq] at decoded
  exact congrArg Array.toList decoded

theorem zero_ne_ofNat {number : Nat} (large : 0 < number % 256) : 0 ≠ UInt8.ofNat number := by
  intro same
  have zero := congrArg UInt8.toNat same
  rw [UInt8.toNat_ofNat', UInt8.toNat_zero] at zero
  omega

/-- Only the zero character has a zero octet. -/
theorem eq_zero_of_mem_utf8EncodeChar {char : Char} (held : 0 ∈ String.utf8EncodeChar char) :
    char = '\x00' := by
  unfold String.utf8EncodeChar at held
  extract_lets value at held
  split at held
  · next small =>
    have octet : 0 = UInt8.ofNat value := List.mem_singleton.mp held
    by_cases zero : value = 0
    · exact Char.ext (UInt32.toNat_inj.mp zero)
    · exact absurd octet (zero_ne_ofNat (by omega))
  · -- every octet of a longer form has its upper bit set
    exfalso
    split at held
    · simp only [List.mem_cons, List.not_mem_nil, or_false] at held
      rcases held with octet | octet
      all_goals exact zero_ne_ofNat (by omega) octet
    · split at held
      · simp only [List.mem_cons, List.not_mem_nil, or_false] at held
        rcases held with octet | octet | octet
        all_goals exact zero_ne_ofNat (by omega) octet
      · simp only [List.mem_cons, List.not_mem_nil, or_false] at held
        rcases held with octet | octet | octet | octet
        all_goals exact zero_ne_ofNat (by omega) octet

theorem zero_not_mem_encode (clean : '\x00' ∉ text) : 0 ∉ encode text := by
  intro held
  rw [encode, List.mem_flatMap] at held
  rcases held with ⟨char, inside, zero⟩
  rw [eq_zero_of_mem_utf8EncodeChar zero] at inside
  exact clean inside

end Text.Utf8

namespace Dns
namespace PackedName

open Text

/-! ## Labels of a dotted name -/

/-- Two dotted names that differ at most in a final dot. -/
def SameName (first second : String) : Prop :=
  withoutFinalDot first.toList = withoutFinalDot second.toList

instance (first second : String) : Decidable (SameName first second) :=
  inferInstanceAs (Decidable (_ = _))

variable {first second name : String} {label : List Char} {rest : Bytes}

/-- What a piece of a text holds is in the text, and is not the mark at which it was cut. -/
theorem of_mem_splitOn {char mark : Char} {text : List Char} (piece : label ∈ text.splitOn mark)
    (inside : char ∈ label) : char ∈ text ∧ char ≠ mark := by
  induction text generalizing label with
  | nil =>
    rw [List.splitOn_nil, List.mem_singleton] at piece
    rw [piece] at inside
    cases inside
  | cons head tail ih =>
    rw [List.splitOn_cons_eq_if_modifyHead] at piece
    split at piece
    · rw [List.mem_cons] at piece
      rcases piece with rfl | later
      · cases inside
      · exact (ih later inside).imp_left (List.mem_cons_of_mem head)
    · next other =>
      -- the first piece of the tail takes the head on; the others are those of the tail
      cases pieces : tail.splitOn mark with
      | nil => exact absurd pieces (List.splitOn_ne_nil mark tail)
      | cons next later =>
        rw [pieces] at ih piece
        rw [List.modifyHead_cons, List.mem_cons] at piece
        rcases piece with rfl | elsewhere
        · rcases List.mem_cons.mp inside with rfl | behind
          · exact ⟨List.mem_cons_self, fun same => other (beq_iff_eq.mpr same)⟩
          · exact (ih List.mem_cons_self behind).imp_left (List.mem_cons_of_mem head)
        · exact (ih (List.mem_cons_of_mem next elsewhere) inside).imp_left
            (List.mem_cons_of_mem head)

/-- What a label of a name holds is in the name, and is no dot. -/
theorem of_mem_labels {char : Char} (part : label ∈ labels name.toList) (inside : char ∈ label) :
    char ∈ name.toList ∧ char ≠ '.' := by
  rw [labels] at part
  split at part
  · cases part
  · refine (of_mem_splitOn part inside).imp_left fun held => ?_
    rw [withoutFinalDot] at held
    split at held
    · exact List.dropLast_subset name.toList held
    · exact held

/-- The labels of a text, joined with dots, are the text without its final dot. -/
theorem intercalate_labels (text : List Char) :
    ['.'].intercalate (labels text) = withoutFinalDot text := by
  rw [labels]
  split
  · next root => rw [root, List.intercalate_nil]
  · exact List.intercalate_splitOn '.'

/-- Names have the same labels exactly when they are the same up to a final dot. -/
theorem labels_eq_iff : labels first.toList = labels second.toList ↔ SameName first second := by
  constructor
  · intro same
    rw [SameName, ← intercalate_labels, same, intercalate_labels]
  · intro same
    rw [SameName] at same
    rw [labels, labels, same]

/-! ## The packed form -/

/-- The labels of a dotted name on the wire, without the final zero. -/
def wireOctets (name : String) : Bytes :=
  (labels name.toList).flatMap packLabel

/-- A label that is neither empty nor too long for its size. -/
def LabelFits (label : List Char) : Prop :=
  0 < (Utf8.encode label).length ∧ (Utf8.encode label).length ≤ maxLabelSize

/-- A dotted name that has a packed form. -/
structure Packable (name : String) : Prop where
  label : ∀ label ∈ labels name.toList, LabelFits label
  whole : (wireOctets name).length ≤ maxNameSize

instance (label : List Char) : Decidable (LabelFits label) :=
  inferInstanceAs (Decidable (_ ∧ _))

instance (name : String) : Decidable (Packable name) :=
  decidable_of_iff ((∀ label ∈ labels name.toList, LabelFits label)
      ∧ (wireOctets name).length ≤ maxNameSize)
    ⟨fun ⟨label, whole⟩ => ⟨label, whole⟩, fun ⟨label, whole⟩ => ⟨label, whole⟩⟩

theorem wireOctets_congr (same : SameName first second) : wireOctets first = wireOctets second := by
  rw [wireOctets, wireOctets, labels_eq_iff.mpr same]

theorem Packable.congr (same : SameName first second) (packable : Packable first) :
    Packable second where
  label := by
    rw [← labels_eq_iff.mpr same]
    exact packable.label
  whole := by
    rw [← wireOctets_congr same]
    exact packable.whole

/-- Packing labels after others that fit stops at no label exactly when all labels fit, and they fit
together. -/
theorem packLabels_eq_ok_iff {text : List Char} {pieces : List (List Char)} {packed result : Bytes}
    (before : packed.length ≤ maxNameSize) :
    packLabels text packed pieces = .ok result ↔
      (∀ label ∈ pieces, LabelFits label)
        ∧ (packed ++ pieces.flatMap packLabel).length ≤ maxNameSize
        ∧ result = packed ++ pieces.flatMap packLabel := by
  induction pieces generalizing packed with
  | nil =>
    rw [packLabels, List.flatMap_nil, List.append_nil, Except.ok.injEq]
    constructor
    · rintro rfl
      exact ⟨fun label none => absurd none List.not_mem_nil, before, rfl⟩
    · exact fun found => found.2.2.symm
  | cons label pieces ih =>
    have size : (packed ++ packLabel label).length =
        packed.length + 1 + (Utf8.encode label).length := by
      rw [List.length_append, packLabel, List.length_cons]
      omega
    rw [packLabels, List.forall_mem_cons, List.flatMap_cons, ← List.append_assoc]
    by_cases empty : (Utf8.encode label).length = 0
    · rw [if_pos empty]
      constructor
      · intro impossible
        cases impossible
      · intro found
        exact absurd found.1.1.1 (by omega)
    · rw [if_neg empty]
      by_cases long : maxLabelSize < (Utf8.encode label).length
      · rw [if_pos long]
        constructor
        · intro impossible
          cases impossible
        · intro found
          exact absurd found.1.1.2 (by omega)
      · rw [if_neg long]
        by_cases excess : maxNameSize < packed.length + 1 + (Utf8.encode label).length
        · rw [if_pos excess]
          constructor
          · intro impossible
            cases impossible
          · rintro ⟨-, whole, -⟩
            rw [List.length_append, size] at whole
            omega
        · rw [if_neg excess, ih (by omega)]
          have fits : LabelFits label := ⟨by omega, by omega⟩
          constructor
          · exact fun ⟨others, rest⟩ => ⟨⟨fits, others⟩, rest⟩
          · exact fun ⟨⟨_, others⟩, rest⟩ => ⟨others, rest⟩

/-- The packed form of a dotted name is its wire form in the fixed buffer. -/
theorem ofText_eq_ok_iff {packed : PackedName} :
    ofText name = .ok packed ↔ Packable name ∧ packed = ofOctets (wireOctets name) := by
  rw [ofText, map_eq_ok_iff]
  constructor
  · rintro ⟨octets, found, rfl⟩
    rcases (packLabels_eq_ok_iff (Nat.zero_le _)).mp found with ⟨fits, whole, rfl⟩
    exact ⟨⟨fits, whole⟩, rfl⟩
  · rintro ⟨packable, rfl⟩
    refine ⟨wireOctets name, ?_, rfl⟩
    exact (packLabels_eq_ok_iff (Nat.zero_le _)).mpr ⟨packable.label, packable.whole, rfl⟩

/-! ## Reading labels back -/

/-- Labels that fit are labels of a name on the wire. -/
theorem exists_labels {pieces : List (List Char)} (fit : ∀ label ∈ pieces, LabelFits label) :
    ∃ labels : List Label, pieces.flatMap packLabel = labels.flatMap Label.wire
      ∧ pieces.map Utf8.encode = labels.map Label.octets := by
  induction pieces with
  | nil => exact ⟨[], rfl, rfl⟩
  | cons label pieces ih =>
    rw [List.forall_mem_cons] at fit
    rcases ih fit.2 with ⟨labels, wire, octets⟩
    refine ⟨⟨Utf8.encode label, fit.1.1, fit.1.2⟩ :: labels, ?_, ?_⟩
    · rw [List.flatMap_cons, List.flatMap_cons, wire]
      rfl
    · rw [List.map_cons, List.map_cons, octets]

/-- Packed labels are read back up to the zero that ends them. -/
theorem unpackLabels_packed {pieces : List (List Char)} (fit : ∀ label ∈ pieces, LabelFits label) :
    unpackLabels 0 [] (pieces.flatMap packLabel ++ 0 :: rest) = pieces.map Utf8.encode := by
  rcases exists_labels fit with ⟨labels, wire, octets⟩
  rw [wire, octets, unpackLabels_labels]

theorem octets_inj {packed other : PackedName} : packed.octets = other.octets ↔ packed = other := by
  cases packed
  cases other
  rw [PackedName.mk.injEq]

/-- Octets that fit into the buffer are padded with zeros. -/
theorem padded_ofOctets {octets : Bytes} (fits : octets.length ≤ nameCapacity) :
    (ofOctets octets).octets = octets ++ List.replicate (nameCapacity - octets.length) 0 := by
  calc
    (octets ++ List.replicate nameCapacity 0).take nameCapacity
      = octets ++ (List.replicate nameCapacity 0).take (nameCapacity - octets.length) := by
        rw [List.take_append, List.take_of_length_le fits]
    _ = octets ++ List.replicate (nameCapacity - octets.length) 0 := by
        rw [List.take_replicate, Nat.min_eq_left (Nat.sub_le ..)]

/-- A name in its buffer is followed by a zero. -/
theorem octets_ofOctets {octets : Bytes} (short : octets.length ≤ maxNameSize) :
    (ofOctets octets).octets =
      octets ++ 0 :: List.replicate (maxNameSize - octets.length) 0 := by
  have padding : nameCapacity - octets.length = maxNameSize - octets.length + 1 := by
    have capacity : nameCapacity = maxNameSize + 1 := rfl
    omega
  rw [padded_ofOctets (Nat.le_succ_of_le short), padding, List.replicate_succ]

/-- Names with the same packed form are the same up to a final dot. -/
theorem sameName_of_ofOctets_eq (packable : Packable first) (other : Packable second)
    (same : ofOctets (wireOctets first) = ofOctets (wireOctets second)) :
    SameName first second := by
  have octets := congrArg PackedName.octets same
  rw [octets_ofOctets packable.whole, octets_ofOctets other.whole] at octets
  have pieces := congrArg (unpackLabels 0 []) octets
  rw [wireOctets, wireOctets, unpackLabels_packed packable.label,
    unpackLabels_packed other.label] at pieces
  exact labels_eq_iff.mp ((List.map_inj_right fun _ _ same => Utf8.encode_injective same).mp pieces)

/-! ## Reading names from the wire -/

/-- A policy reads a name that has no zero octet, or skips over zeros in labels. -/
def ReadableBy (policy : NamePolicy) (name : String) : Prop :=
  policy = .toZero → '\x00' ∉ name.toList

/-- The wire form of a name is read back as a whole. -/
theorem readName_wireOctets {policy : NamePolicy} (packable : Packable name)
    (readable : ReadableBy policy name) (rest : Bytes) :
    readName policy (wireOctets name ++ 0 :: rest) = .ok (wireOctets name) := by
  refine readName_eq_ok_iff.mpr ⟨?_, packable.whole, rest, rfl⟩
  cases policy with
  | byLabels =>
    rcases exists_labels packable.label with ⟨labels, wire, -⟩
    exact ⟨labels, wire⟩
  | toZero =>
    intro zero
    rw [wireOctets, List.mem_flatMap] at zero
    rcases zero with ⟨label, part, inside⟩
    have fits := packable.label label part
    rw [packLabel, List.mem_cons] at inside
    rcases inside with size | octet
    · exact Label.size_ne_zero ⟨Utf8.encode label, fits.1, fits.2⟩ size.symm
    · refine Utf8.zero_not_mem_encode ?_ octet
      exact fun char => readable rfl (of_mem_labels part char).1

end PackedName

/-! ## Keys -/

namespace Key

open PackedName

variable {first second name : String} {qtype other : UInt16}

/-- The key of a dotted name and the code of a type in the Internet class. -/
def named (name : String) (qtype : UInt16) : Key :=
  ⟨.ofOctets (wireOctets name), qtype, classInternet⟩

theorem ofText_eq_ok_iff {type : RecordType} {key : Key} :
    Key.ofText name type = .ok key ↔ Packable name ∧ key = named name type.code := by
  rw [Key.ofText, map_eq_ok_iff]
  constructor
  · rintro ⟨packed, found, rfl⟩
    rcases PackedName.ofText_eq_ok_iff.mp found with ⟨packable, rfl⟩
    exact ⟨packable, rfl⟩
  · rintro ⟨packable, rfl⟩
    exact ⟨_, PackedName.ofText_eq_ok_iff.mpr ⟨packable, rfl⟩, rfl⟩

theorem ofText_cases (name : String) (type : RecordType) :
    (Packable name ∧ Key.ofText name type = .ok (named name type.code)) ∨
      (¬ Packable name ∧ ∃ cause, Key.ofText name type = .error cause) := by
  by_cases packable : Packable name
  · exact .inl ⟨packable, ofText_eq_ok_iff.mpr ⟨packable, rfl⟩⟩
  · right
    refine ⟨packable, ?_⟩
    cases made : Key.ofText name type with
    | error cause => exact ⟨cause, rfl⟩
    | ok key => exact absurd (ofText_eq_ok_iff.mp made).1 packable

/-- Keys tell names and types apart. -/
theorem named_eq_iff (packable : Packable first) (beside : Packable second) :
    named first qtype = named second other ↔ SameName first second ∧ qtype = other := by
  constructor
  · intro same
    exact ⟨sameName_of_ofOctets_eq packable beside (congrArg Key.name same),
      congrArg Key.qtype same⟩
  · rintro ⟨same, rfl⟩
    rw [named, named, wireOctets_congr same]

end Key
end Dns
end DnsResponder
