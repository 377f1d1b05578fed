import DnsResponder.Proofs.Dns.Spelling
import DnsResponder.Proofs.Text.Utf8

namespace DnsResponder
namespace Dns

/-!
# Names packed and shown

A dotted name has a packed form exactly when it is the root or its labels fit, each by itself and all
of them together.  Showing the packed form gives the name without its final dot, and packing what is
shown gives the packed form again, so a packed name stands for one dotted name up to that dot.

A name without a packed form is refused at the first label, from the left, that cannot be packed
behind the labels before it.  The size that is reported for a name with too many octets is that of the
whole name, with the labels that were not reached.
-/

namespace PackedName

open Text

/-! ## Which names have a packed form -/

/-- Octets of labels on the wire: each label with the octet in front of it. -/
def packedSize : List (List Char) → Nat
  | [] => 0
  | label :: rest => (Utf8.encode label).length + 1 + packedSize rest

/-- The name is the root, or all its labels have from 1 to 63 octets and fit together. -/
def Fits (name : String) : Prop :=
  withoutFinalDot name.toList = [] ∨
    (∀ label ∈ (withoutFinalDot name.toList).splitOn '.',
      1 ≤ (Utf8.encode label).length ∧ (Utf8.encode label).length ≤ 63)
    ∧ packedSize ((withoutFinalDot name.toList).splitOn '.') ≤ 47

variable {name : String} {label : List Char} {pieces front rest : List (List Char)}
  {packed : Bytes} {cause : NameError}

theorem packedSize_cons (label : List Char) (pieces : List (List Char)) :
    packedSize (label :: pieces) = (Utf8.encode label).length + 1 + packedSize pieces := rfl

theorem length_packLabel (label : List Char) :
    (packLabel label).length = (Utf8.encode label).length + 1 := rfl

theorem length_flatMap_packLabel (pieces : List (List Char)) :
    (pieces.flatMap packLabel).length = packedSize pieces := by
  induction pieces with
  | nil => rfl
  | cons label pieces ih =>
    rw [List.flatMap_cons, List.length_append, length_packLabel, ih, packedSize_cons]

theorem wireSize_eq (pieces : List (List Char)) : wireSize pieces = packedSize pieces := by
  induction pieces with
  | nil => rfl
  | cons label pieces ih =>
    rw [packedSize_cons, ← ih]
    rfl

theorem labels_of_root (root : withoutFinalDot name.toList = []) : labels name.toList = [] := by
  rw [labels, if_pos root]

theorem labels_of_not_root (some : withoutFinalDot name.toList ≠ []) :
    labels name.toList = (withoutFinalDot name.toList).splitOn '.' := by
  rw [labels, if_neg some]

theorem labels_ne_nil (some : withoutFinalDot name.toList ≠ []) : labels name.toList ≠ [] := by
  rw [labels_of_not_root some]
  exact List.splitOn_ne_nil '.' _

theorem packable_iff_fits : Packable name ↔ Fits name := by
  have size := length_flatMap_packLabel (labels name.toList)
  by_cases root : withoutFinalDot name.toList = []
  · refine iff_of_true ⟨?_, ?_⟩ (.inl root)
    · intro label part
      rw [labels_of_root root] at part
      cases part
    · rw [wireOctets, size, labels_of_root root]
      exact Nat.zero_le _
  · rw [labels_of_not_root root] at size
    constructor
    · rintro ⟨each, whole⟩
      rw [wireOctets, labels_of_not_root root, size] at whole
      rw [labels_of_not_root root] at each
      exact .inr ⟨each, whole⟩
    · rintro (impossible | ⟨each, whole⟩)
      · exact absurd impossible root
      · refine ⟨?_, ?_⟩
        · rw [labels_of_not_root root]
          exact each
        · rw [wireOctets, labels_of_not_root root, size]
          exact whole

/-! ## Showing a packed name -/

/-- A dotted name as it is shown: without its final dot, and the root as a single dot. -/
def shown (name : String) : String :=
  if withoutFinalDot name.toList = [] then "." else String.ofList (withoutFinalDot name.toList)

/-- A packed name is shown as it was written, up to the final dot. -/
theorem text_ofOctets (packable : Packable name) :
    (ofOctets (wireOctets name)).text = shown name := by
  have unpacked : unpackLabels 0 [] (ofOctets (wireOctets name)).octets =
      (labels name.toList).map Utf8.encode := by
    rw [octets_ofOctets packable.whole, wireOctets, unpackLabels_packed packable.label]
  have decoded : (labels name.toList).map (Utf8.decodeLossy ∘ Utf8.encode) =
      (labels name.toList).map String.ofList :=
    List.map_congr_left fun label _ => Utf8.decodeLossy_encode label
  rw [text, unpacked, shown]
  by_cases root : withoutFinalDot name.toList = []
  · rw [if_pos root, labels_of_root root]
    rfl
  · have some : labels name.toList ≠ [] := labels_ne_nil root
    rw [if_neg root, ← intercalate_labels]
    split
    · next none => exact absurd (List.map_eq_nil_iff.mp none) some
    · have strings : (labels name.toList).map (String.toList ∘ String.ofList) =
          labels name.toList :=
        List.map_id'' (fun label => String.toList_ofList) _
      rw [List.map_map, decoded, ← String.toList_inj, String.toList_intercalate, List.map_map,
        strings, String.toList_ofList, String.toList_ofList]

/-- What is shown of a packed name is the same name: no label of it is empty, so that there is no
other dot at its end. -/
theorem sameName_shown (packable : Packable name) : SameName (shown name) name := by
  rw [SameName, shown]
  by_cases root : withoutFinalDot name.toList = []
  · rw [if_pos root, root]
    rfl
  · have some : labels name.toList ≠ [] := labels_ne_nil root
    have nonempty : ∀ label ∈ labels name.toList, label ≠ [] := by
      rintro label part rfl
      exact absurd (packable.label [] part).1 (Nat.lt_irrefl 0)
    have undotted : ∀ label ∈ labels name.toList, '.' ∉ label :=
      fun label part dot => (of_mem_labels part dot).2 rfl
    rcases exists_last nonempty undotted some with ⟨front, char, split, other⟩
    rw [intercalate_labels] at split
    rw [if_neg root, String.toList_ofList, split, withoutFinalDot, List.getLast?_concat, if_neg]
    exact fun dot => other (Option.some.inj dot)

/-! ## The first label that cannot be packed -/

/-- What is wrong with a label behind labels of `before` octets, in a name of `whole` octets. -/
inductive Offence (name : String) (whole before : Nat) (label : List Char) : NameError → Prop
  | empty (nothing : label = []) : Offence name whole before label (.emptyLabel name)
  | long (above : 63 < (Utf8.encode label).length) :
    Offence name whole before label (.labelTooLong (Utf8.encode label).length)
  | excess (some : label ≠ []) (short : (Utf8.encode label).length ≤ 63)
      (above : 47 < before + ((Utf8.encode label).length + 1)) :
    Offence name whole before label (.nameTooLong whole)

/-- A label of the name, its first one that is wrong behind those before it, is wrong for this
cause. -/
def FirstOffence (name : String) (cause : NameError) : Prop :=
  withoutFinalDot name.toList ≠ [] ∧
    ∃ front label back, (withoutFinalDot name.toList).splitOn '.' = front ++ label :: back
      ∧ (∀ piece ∈ front, 1 ≤ (Utf8.encode piece).length ∧ (Utf8.encode piece).length ≤ 63)
      ∧ packedSize front ≤ 47
      ∧ Offence name (packedSize ((withoutFinalDot name.toList).splitOn '.')) (packedSize front)
          label cause

theorem encode_eq_nil_iff : (Utf8.encode label).length = 0 ↔ label = [] := by
  rw [List.length_eq_zero_iff]
  exact Utf8.encode_injective.eq_iff' rfl

/-- A label fits behind those that are packed, or there is something wrong with it. -/
theorem fits_or_offence (name : String) (whole before : Nat) (label : List Char) :
    (LabelFits label ∧ before + 1 + (Utf8.encode label).length ≤ maxNameSize) ∨
      ∃ cause, Offence name whole before label cause := by
  by_cases nothing : label = []
  · exact .inr ⟨_, .empty nothing⟩
  · by_cases long : 63 < (Utf8.encode label).length
    · exact .inr ⟨_, .long long⟩
    · by_cases above : 47 < before + ((Utf8.encode label).length + 1)
      · exact .inr ⟨_, .excess nothing (Nat.not_lt.mp long) above⟩
      · have some : (Utf8.encode label).length ≠ 0 := mt encode_eq_nil_iff.mp nothing
        refine .inl ⟨⟨Nat.pos_of_ne_zero some, Nat.not_lt.mp long⟩, ?_⟩
        rw [maxNameSize, nameCapacity]
        omega

variable {text : List Char}

theorem packLabels_cons (fits : LabelFits label)
    (room : packed.length + 1 + (Utf8.encode label).length ≤ maxNameSize) :
    packLabels text packed (label :: rest) = packLabels text (packed ++ packLabel label) rest := by
  have some : (Utf8.encode label).length ≠ 0 := Nat.ne_of_gt fits.1
  rw [packLabels, if_neg some, if_neg (Nat.not_lt.mpr fits.2), if_neg (Nat.not_lt.mpr room)]

/-- Labels that fit are passed over. -/
theorem packLabels_append (fit : ∀ piece ∈ front, LabelFits piece)
    (room : packed.length + packedSize front ≤ maxNameSize) :
    packLabels text packed (front ++ rest) =
      packLabels text (packed ++ front.flatMap packLabel) rest := by
  induction front generalizing packed with
  | nil => rw [List.nil_append, List.flatMap_nil, List.append_nil]
  | cons piece front ih =>
    rw [List.forall_mem_cons] at fit
    rw [packedSize_cons] at room
    have further : (packed ++ packLabel piece).length + packedSize front ≤ maxNameSize := by
      rw [List.length_append, length_packLabel]
      omega
    rw [List.cons_append, packLabels_cons fit.1 (by omega), ih fit.2 further, List.flatMap_cons,
      List.append_assoc]

/-- A label that is wrong ends the packing. -/
theorem packLabels_of_offence
    (offence : Offence (String.ofList text) (wireSize (labels text)) packed.length label cause) :
    packLabels text packed (label :: rest) = .error cause := by
  cases offence with
  | empty nothing => rw [packLabels, if_pos (encode_eq_nil_iff.mpr nothing)]
  | long above =>
    have some : (Utf8.encode label).length ≠ 0 := by omega
    have excessive : maxLabelSize < (Utf8.encode label).length := above
    rw [packLabels, if_neg some, if_pos excessive]
  | excess some short above =>
    have fits : ¬ maxLabelSize < (Utf8.encode label).length := Nat.not_lt.mpr short
    have excessive : maxNameSize < packed.length + 1 + (Utf8.encode label).length := by
      rw [maxNameSize, nameCapacity]
      omega
    rw [packLabels, if_neg (mt encode_eq_nil_iff.mp some), if_neg fits, if_pos excessive]

/-- Packing that ends early ended at a label that is wrong, behind labels that fit. -/
theorem exists_offence (before : packed.length ≤ maxNameSize)
    (refused : packLabels text packed pieces = .error cause) :
    ∃ front label back, pieces = front ++ label :: back ∧ (∀ piece ∈ front, LabelFits piece)
      ∧ packed.length + packedSize front ≤ maxNameSize
      ∧ Offence (String.ofList text) (wireSize (labels text)) (packed.length + packedSize front)
          label cause := by
  induction pieces generalizing packed with
  | nil => cases refused
  | cons label pieces ih =>
    rcases fits_or_offence (String.ofList text) (wireSize (labels text)) packed.length label with
      ⟨fits, room⟩ | ⟨found, offence⟩
    · rw [packLabels_cons fits room] at refused
      have grown : (packed ++ packLabel label).length =
          packed.length + 1 + (Utf8.encode label).length := by
        rw [List.length_append, length_packLabel]
        omega
      rcases ih (grown ▸ room) refused with ⟨front, offending, back, rfl, fit, short, offence⟩
      have sum : (packed ++ packLabel label).length + packedSize front =
          packed.length + packedSize (label :: front) := by
        rw [grown, packedSize_cons]
        omega
      rw [sum] at short offence
      exact ⟨label :: front, offending, back, rfl, List.forall_mem_cons.mpr ⟨fits, fit⟩, short,
        offence⟩
    · rw [packLabels_of_offence offence] at refused
      obtain rfl := Except.error.inj refused
      exact ⟨[], label, pieces, rfl, fun _ none => absurd none List.not_mem_nil, before, offence⟩

/-- A name is refused for the first offence in it. -/
theorem ofText_eq_error_iff : ofText name = .error cause ↔ FirstOffence name cause := by
  rw [ofText, map_eq_error_iff]
  have same : String.ofList name.toList = name := String.ofList_toList
  by_cases root : withoutFinalDot name.toList = []
  · rw [labels_of_root root]
    refine iff_of_false ?_ fun first => first.1 root
    intro impossible
    cases impossible
  · have whole : wireSize (labels name.toList) =
        packedSize ((withoutFinalDot name.toList).splitOn '.') := by
      rw [wireSize_eq, labels_of_not_root root]
    constructor
    · intro refused
      rcases exists_offence (Nat.zero_le _) refused with
        ⟨front, label, back, split, fit, short, offence⟩
      rw [List.length_nil, Nat.zero_add] at short offence
      rw [same, whole] at offence
      rw [labels_of_not_root root] at split
      exact ⟨root, front, label, back, split, fit, short, offence⟩
    · rintro ⟨-, front, label, back, split, fit, short, offence⟩
      have room : ([] : Bytes).length + packedSize front ≤ maxNameSize := by
        rw [List.length_nil, Nat.zero_add]
        exact short
      rw [labels_of_not_root root, split, packLabels_append fit room, List.nil_append]
      apply packLabels_of_offence
      rw [length_flatMap_packLabel, same, whole]
      exact offence

/-- The second label is the first offence, and the third is counted all the same. -/
example : ofText ("a." ++ String.ofList (List.replicate 46 'b') ++ ".é") =
    .error (.nameTooLong 52) := by
  decide +kernel

end PackedName

/-! ## Keys -/

/-- A name makes a key exactly when it fits.  The key shows the name without its final dot, what is
shown makes the key again, and other names make the key only if they are the same name.  A name that
does not fit is refused for the first offence in it. -/
theorem Key.shown_as_packed (name : String) (type : RecordType) :
    ((∃ key, Key.ofText name type = .ok key) ↔ PackedName.Fits name)
    ∧ (∀ key, Key.ofText name type = .ok key →
      key.name.text = PackedName.shown name
      ∧ Key.ofText key.name.text type = .ok key
      ∧ ∀ other made, Key.ofText other type = .ok made →
        (made = key ↔ PackedName.SameName other name))
    ∧ ∀ cause, Key.ofText name type = .error cause ↔ PackedName.FirstOffence name cause := by
  refine ⟨?_, ?_, ?_⟩
  · rw [← PackedName.packable_iff_fits]
    constructor
    · rintro ⟨key, made⟩
      exact (ofText_eq_ok_iff.mp made).1
    · exact fun packable => ⟨_, ofText_eq_ok_iff.mpr ⟨packable, rfl⟩⟩
  · intro key made
    rcases ofText_eq_ok_iff.mp made with ⟨packable, rfl⟩
    have shows : (named name type.code).name.text = PackedName.shown name :=
      PackedName.text_ofOctets packable
    have same := PackedName.sameName_shown packable
    refine ⟨shows, ?_, ?_⟩
    · have again : PackedName.Packable (PackedName.shown name) := packable.congr same.symm
      rw [shows]
      refine ofText_eq_ok_iff.mpr ⟨again, ?_⟩
      exact (named_eq_iff packable again).mpr ⟨same.symm, rfl⟩
    · intro other found packed
      rcases ofText_eq_ok_iff.mp packed with ⟨beside, rfl⟩
      rw [named_eq_iff beside packable]
      exact and_iff_left rfl
  · intro cause
    rw [Key.ofText, map_eq_error_iff]
    exact PackedName.ofText_eq_error_iff

/-- A name with a final dot and a letter of two octets, and one with neither. -/
theorem Key.shown_without_final_dot :
    Key.ofText "ab.é." .a = .ok (Key.named "ab.é." typeA)
      ∧ (Key.named "ab.é." typeA).name.text = PackedName.shown "ab.é."
      ∧ Key.ofText (Key.named "ab.é." typeA).name.text .a = .ok (Key.named "ab.é." typeA)
      ∧ Key.ofText "ab.e" .a = .ok (Key.named "ab.e" typeA)
      ∧ (Key.named "ab.e" typeA = Key.named "ab.é." typeA ↔
        PackedName.SameName "ab.e" "ab.é.") := by
  have made : Key.ofText "ab.é." .a = .ok (Key.named "ab.é." typeA) :=
    Key.ofText_eq_ok_iff.mpr ⟨by decide +kernel, rfl⟩
  have other : Key.ofText "ab.e" .a = .ok (Key.named "ab.e" typeA) :=
    Key.ofText_eq_ok_iff.mpr ⟨by decide +kernel, rfl⟩
  rcases (Key.shown_as_packed "ab.é." .a).2.1 _ made with ⟨shows, again, alike⟩
  exact ⟨made, shows, again, other, alike _ _ other⟩

end Dns
end DnsResponder
