import DnsResponder.Proofs.Dns.Decoding
import DnsResponder.Proofs.Log
import DnsResponder.Proofs.Text.Zeros

namespace DnsResponder
namespace Dns

/-!
# What a log line shows of a question

A log line shows the name that was asked for, label by label, in whatever octets a client chose.  A
sink takes no text with the zero character, so a line stays back when one of these labels holds a
zero octet.

A packed name is shown as labels even if the policy that read it does not know of labels.  Read by
labels, it shows a zero when the name holds one.  Read up to a zero, the name holds none; but its last
label may be shorter than its size says, and is then filled up from the padding behind the name.
Unless it runs past the end of the buffer, and is not shown at all, it brings zeros into the line.
-/

variable {name part rest : Bytes} {labels : List Label} {size : UInt8} {owed : Nat}

namespace PackedName

/-! ## Labels in a buffer -/

/-- A label that runs past the end is no label. -/
theorem unpackLabels_short (short : rest.length < owed) (current : Bytes) :
    unpackLabels owed current rest = [] := by
  induction rest generalizing owed current with
  | nil => rfl
  | cons octet rest ih =>
    rw [List.length_cons] at short
    cases owed with
    | zero => exact absurd short (Nat.not_lt_zero _)
    | succ owed =>
      cases owed with
      | zero => omega
      | succ owed => exact ih (by omega) _

theorem unpackLabels_size (nonzero : size ≠ 0) (rest : Bytes) :
    unpackLabels 0 [] (size :: rest) =
      if size.toNat ≤ rest.length then
        rest.take size.toNat :: unpackLabels 0 [] (rest.drop size.toNat)
      else [] := by
  have positive : 0 < size.toNat := by
    rw [Nat.pos_iff_ne_zero]
    exact fun zero => nonzero (UInt8.toNat_inj.mp zero)
  rw [unpackLabels, if_neg nonzero]
  split
  · next whole =>
    have counted : (rest.take size.toNat).length = size.toNat := List.length_take_of_le whole
    have some : rest.take size.toNat ≠ [] := List.ne_nil_of_length_pos (by omega)
    have split := @unpackLabels_owed _ (rest.drop size.toNat) some []
    rwa [List.take_append_drop, counted, List.nil_append] at split
  · next cut => exact unpackLabels_short (Nat.lt_of_not_le cut) []

/-- Octets without a zero are whole labels and, perhaps, a label that is cut. -/
theorem exists_labels_cut (clean : 0 ∉ name) (short : name.length ≤ 64) :
    ∃ (labels : List Label) (cut : Bytes), name = labels.flatMap Label.wire ++ cut
      ∧ (cut = [] ∨ ∃ size part, cut = size :: part ∧ part.length < size.toNat) := by
  induction counted : name.length using Nat.strongRecOn generalizing name with
  | ind count ih =>
    cases name with
    | nil => exact ⟨[], [], rfl, .inl rfl⟩
    | cons size rest =>
      rw [List.mem_cons, not_or] at clean
      rw [List.length_cons] at short counted
      by_cases cut : rest.length < size.toNat
      · exact ⟨[], size :: rest, rfl, .inr ⟨size, rest, rfl, cut⟩⟩
      · have whole : (rest.take size.toNat).length = size.toNat :=
          List.length_take_of_le (Nat.le_of_not_lt cut)
        have inRange : ¬ maxLabelSize < size.toNat := by
          have bound : maxLabelSize = 63 := rfl
          omega
        rcases Label.exists_wire_eq whole (Ne.symm clean.1) inRange with ⟨label, wire⟩
        have behind : (rest.drop size.toNat).length < count := by
          rw [List.length_drop]
          omega
        rcases ih _ behind (fun zero => clean.2 (List.mem_of_mem_drop zero)) (by omega) rfl with
          ⟨labels, tail, split, ends⟩
        refine ⟨label :: labels, tail, ?_, ends⟩
        rw [List.flatMap_cons, wire, List.append_assoc, ← split, List.cons_append,
          List.take_append_drop]

end PackedName

/-! ## Zeros in labels -/

/-- The names that a policy finds and that are shown with a zero.  Up to a zero, these are the names
whose last label is cut and ends, with the padding, within the buffer. -/
def NamePolicy.ShowsZero : NamePolicy → Bytes → Prop
  | .byLabels, name => 0 ∈ name
  | .toZero, name => ∃ (labels : List Label) (size : UInt8) (part : Bytes),
      name = labels.flatMap Label.wire ++ size :: part ∧ part.length < size.toNat
        ∧ (labels.flatMap Label.wire).length + 1 + size.toNat ≤ 48

namespace PackedName

theorem zero_mem_labels_iff :
    0 ∈ labels.flatMap Label.wire ↔ ∃ label ∈ labels.map Label.octets, 0 ∈ label := by
  rw [List.mem_flatMap]
  simp only [List.mem_map, exists_exists_and_eq_and]
  refine exists_congr fun label => and_congr_right fun _ => ?_
  rw [Label.wire, List.mem_cons]
  exact or_iff_right fun zero => label.size_ne_zero zero.symm

/-- A cut label is shown, and with zeros, exactly if it ends within the buffer. -/
theorem zero_shown_of_cut (clean : 0 ∉ name) (short : name.length ≤ 47)
    (split : name = labels.flatMap Label.wire ++ size :: part) (cut : part.length < size.toNat) :
    (∃ label ∈ unpackLabels 0 [] (ofOctets name).octets, 0 ∈ label) ↔
      (labels.flatMap Label.wire).length + 1 + size.toNat ≤ 48 := by
  have nonzero : size ≠ 0 := by
    rintro rfl
    exact Nat.not_lt_zero _ cut
  have parts : name.length = (labels.flatMap Label.wire).length + (part.length + 1) := by
    rw [split, List.length_append, List.length_cons]
  obtain ⟨room, padding⟩ : ∃ room, room = 48 - name.length := ⟨_, rfl⟩
  have octets : (ofOctets name).octets =
      labels.flatMap Label.wire ++ size :: (part ++ List.replicate room 0) := by
    rw [padded_ofOctets (Nat.le_succ_of_le short), padding]
    nth_rewrite 1 [split]
    rw [List.append_assoc, List.cons_append]
    rfl
  have front : ¬ ∃ label ∈ labels.map Label.octets, 0 ∈ label := by
    rw [← zero_mem_labels_iff]
    exact fun zero => clean (split ▸ List.mem_append_left _ zero)
  rw [octets, unpackLabels_append, unpackLabels_size nonzero, List.length_append,
    List.length_replicate]
  split
  · next whole =>
    refine iff_of_true ⟨_, List.mem_append_right _ List.mem_cons_self, ?_⟩ (by omega)
    rw [List.take_append, List.take_of_length_le (Nat.le_of_lt cut), List.take_replicate,
      List.mem_append, List.mem_replicate]
    exact .inr ⟨by omega, rfl⟩
  · next beyond =>
    rw [List.append_nil]
    exact iff_of_false front (by omega)

/-- Of the names that a policy finds, those are shown with a zero of which `ShowsZero` says so. -/
theorem zero_shown_iff {policy : NamePolicy} (admits : policy.Admits name)
    (short : name.length ≤ 47) :
    (∃ label ∈ unpackLabels 0 [] (ofOctets name).octets, 0 ∈ label) ↔ policy.ShowsZero name := by
  cases policy with
  | byLabels =>
    rcases admits with ⟨labels, rfl⟩
    rw [octets_ofOctets short, unpackLabels_labels]
    exact zero_mem_labels_iff.symm
  | toZero =>
    rcases exists_labels_cut admits (by omega) with ⟨labels, cut, split, ends⟩
    constructor
    · intro shown
      rcases ends with rfl | ⟨size, part, rfl, behind⟩
      · -- whole labels show nothing but what is in the name
        rw [octets_ofOctets short, split, List.append_nil, unpackLabels_labels,
          ← zero_mem_labels_iff] at shown
        exact absurd (split ▸ List.mem_append_left _ shown) admits
      · have within := (zero_shown_of_cut admits short split behind).mp shown
        exact ⟨labels, size, part, split, behind, within⟩
    · rintro ⟨labels, size, part, split, behind, within⟩
      exact (zero_shown_of_cut admits short split behind).mpr within

/-! ## Lines -/

/-- A name can be shown unless one of its labels holds a zero. -/
theorem isDeliverable_text {name : PackedName} :
    Log.isDeliverable name.text = true ↔ ¬ ∃ label ∈ unpackLabels 0 [] name.octets, 0 ∈ label := by
  have dot : Log.isDeliverable "." = true := by decide
  rw [text]
  split
  · next root =>
    rw [root]
    exact iff_of_true dot fun ⟨_, member, _⟩ => absurd member List.not_mem_nil
  · rw [Log.isDeliverable_intercalate dot, List.all_map, List.all_eq_true]
    simp only [Function.comp_apply, Log.isDeliverable_iff, Text.Utf8.zero_mem_decodeLossy_iff,
      not_exists, not_and]

end PackedName

/-- The type in a line does not keep it back. -/
theorem Key.isDeliverable_text (key : Key) :
    Log.isDeliverable key.text = Log.isDeliverable key.name.text := by
  have blank : Log.isDeliverable " " = true := by decide
  have opening : Log.isDeliverable "TYPE" = true := by decide
  have type : Log.isDeliverable key.recordType.text = true := by
    cases key.recordType with
    | a => decide
    | aaaa => decide
    | other code =>
      have split : (RecordType.other code).text = "TYPE" ++ code.toNat.repr := rfl
      rw [split, Log.isDeliverable_append, opening, Log.isDeliverable_repr]
      rfl
  rw [Key.text, Log.isDeliverable_append, Log.isDeliverable_append, blank, type, Bool.and_true,
    Bool.and_true]

/-- A question can be shown in a line unless its name shows a zero. -/
theorem Question.Renders.isDeliverable_text {question : Question} {data : Bytes} {start : Nat}
    {policy : NamePolicy} (renders : question.Renders data start name)
    (reached : policy.Reaches (data.drop start) name 0) :
    Log.isDeliverable question.key.text = true ↔ ¬ policy.ShowsZero name := by
  have packed : question.key.name.octets = (PackedName.ofOctets name).octets := by
    rw [renders.packed, PackedName.padded_ofOctets (Nat.le_succ_of_le reached.short)]
    rfl
  rw [question.key.isDeliverable_text, PackedName.isDeliverable_text, packed,
    PackedName.zero_shown_iff reached.admits reached.short]

end Dns
end DnsResponder
