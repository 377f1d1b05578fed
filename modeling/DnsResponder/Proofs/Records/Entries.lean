import DnsResponder.Proofs.Records
import Mathlib.Data.List.Nodup

namespace DnsResponder

/-!
# How many entries the tables have

A table is seen through lookups, but its size counts entries.  The two agree because no key has two
entries: an insertion that replaces a record removes the old entry first.  So what an operation does
to the size can be told from what a lookup found before.
-/

namespace Table

variable {width : Nat} {table : Table width} {key : Dns.Key}

def keys (table : Table width) : List Dns.Key :=
  table.entries.map Prod.fst

theorem length_keys : table.keys.length = table.size :=
  List.length_map _

/-- No key has two entries. -/
def Distinct (table : Table width) : Prop :=
  table.keys.Nodup

theorem distinct_empty : Distinct (⟨[]⟩ : Table width) :=
  List.nodup_nil

theorem isSome_find? : (table.find? key).isSome = true ↔ key ∈ table.keys := by
  rcases table with ⟨entries⟩
  induction entries with
  | nil => exact ⟨fun none => absurd none Bool.false_ne_true, fun none => absurd none List.not_mem_nil⟩
  | cons entry rest ih =>
    rw [find?_cons, keys, List.map_cons, List.mem_cons]
    by_cases same : key = entry.1
    · rw [if_pos same]
      exact ⟨fun _ => .inl same, fun _ => rfl⟩
    · rw [if_neg same, or_iff_right same]
      exact ih

theorem keys_erase : (table.erase key).keys = table.keys.filter (· != key) := by
  rw [keys, keys, List.filter_map, erase]
  congr 1
  apply List.filter_congr
  intro entry _
  simp only [Function.comp_apply, bne, ne_eq, decide_not, Bool.beq_eq_decide_eq]

theorem Distinct.erase (distinct : table.Distinct) : (table.erase key).Distinct := by
  rw [Distinct, keys_erase]
  exact distinct.filter _

theorem Distinct.size_erase (distinct : table.Distinct) (key : Dns.Key) : table.size =
    if (table.find? key).isSome then (table.erase key).size + 1 else (table.erase key).size := by
  rw [if_congr isSome_find? rfl rfl, ← length_keys, ← length_keys, keys_erase,
    ← distinct.erase_eq_filter, List.length_erase]
  split
  · next present => exact (Nat.sub_add_cancel (List.length_pos_of_mem present)).symm
  · rfl

theorem Distinct.insert (distinct : table.Distinct) (record : Record width) :
    (table.insert key record).Distinct := by
  refine List.nodup_cons.mpr ⟨?_, distinct.erase⟩
  intro held
  have present : key ∈ (table.erase key).keys := held
  rw [keys_erase, List.mem_filter, bne_self_eq_false] at present
  exact absurd present.2 Bool.false_ne_true

theorem Distinct.size_insert (distinct : table.Distinct) (record : Record width) :
    (table.insert key record).size =
      if (table.find? key).isSome then table.size else table.size + 1 := by
  have counted : (table.insert key record).size = (table.erase key).size + 1 := rfl
  rw [counted, distinct.size_erase key]
  split <;> rfl

end Table

namespace Records

variable {records : Records} {key : Dns.Key}

/-- No key has two entries in either table. -/
structure Distinct (records : Records) : Prop where
  a : records.a.Distinct
  aaaa : records.aaaa.Distinct

theorem distinct_empty : Distinct {} where
  a := Table.distinct_empty
  aaaa := Table.distinct_empty

theorem Distinct.insertA (distinct : records.Distinct) (record : Record 32) :
    (records.insertA key record).2.Distinct where
  a := distinct.a.insert record
  aaaa := distinct.aaaa

theorem Distinct.insertAaaa (distinct : records.Distinct) (record : Record 128) :
    (records.insertAaaa key record).2.Distinct where
  a := distinct.a
  aaaa := distinct.aaaa.insert record

theorem Distinct.size_insertA (distinct : records.Distinct) (type : key.qtype = Dns.typeA)
    (record : Record 32) : (records.insertA key record).2.size =
      if (records.held? key).isSome then records.size else records.size + 1 := by
  have inserted : (records.a.insert key record).size =
      if (records.held? key).isSome then records.a.size else records.a.size + 1 := by
    rw [held?_of_a type, Option.isSome_map]
    exact distinct.a.size_insert record
  have total : (records.insertA key record).2.size =
      (records.a.insert key record).size + records.aaaa.size := rfl
  rw [total, inserted, size]
  split <;> omega

theorem Distinct.size_insertAaaa (distinct : records.Distinct) (type : key.qtype = Dns.typeAaaa)
    (record : Record 128) : (records.insertAaaa key record).2.size =
      if (records.held? key).isSome then records.size else records.size + 1 := by
  have inserted : (records.aaaa.insert key record).size =
      if (records.held? key).isSome then records.aaaa.size else records.aaaa.size + 1 := by
    rw [held?_of_aaaa type, Option.isSome_map]
    exact distinct.aaaa.size_insert record
  have total : (records.insertAaaa key record).2.size =
      records.a.size + (records.aaaa.insert key record).size := rfl
  rw [total, inserted, size]
  split <;> omega

theorem remove_of_a (type : key.qtype = Dns.typeA) : records.remove key =
    ((records.a.find? key).isSome, { records with a := records.a.erase key }) := by
  have selected : key.recordType = .a := congrArg Dns.RecordType.ofCode type
  rw [Records.remove, selected]

theorem remove_of_aaaa (type : key.qtype = Dns.typeAaaa) : records.remove key =
    ((records.aaaa.find? key).isSome, { records with aaaa := records.aaaa.erase key }) := by
  have selected : key.recordType = .aaaa := congrArg Dns.RecordType.ofCode type
  rw [Records.remove, selected]

/-- Types without a table have nothing to remove. -/
theorem remove_other (notA : key.qtype ≠ Dns.typeA) (notAaaa : key.qtype ≠ Dns.typeAaaa) :
    records.remove key = (false, records) := by
  have selected : key.recordType = .other key.qtype := Dns.RecordType.ofCode_other notA notAaaa
  rw [Records.remove, selected]

/-- Removing tells whether something was held, and leaves one entry less if so. -/
theorem Distinct.remove (distinct : records.Distinct) (key : Dns.Key) :
    (records.remove key).1 = (records.held? key).isSome
      ∧ (records.remove key).2.Distinct
      ∧ records.size = if (records.held? key).isSome then (records.remove key).2.size + 1
        else (records.remove key).2.size := by
  by_cases isA : key.qtype = Dns.typeA
  · rw [held?_of_a isA, Option.isSome_map, remove_of_a isA]
    refine ⟨rfl, ⟨distinct.a.erase, distinct.aaaa⟩, ?_⟩
    simp only [size]
    rw [distinct.a.size_erase key]
    split <;> omega
  · by_cases isAaaa : key.qtype = Dns.typeAaaa
    · rw [held?_of_aaaa isAaaa, Option.isSome_map, remove_of_aaaa isAaaa]
      refine ⟨rfl, ⟨distinct.a, distinct.aaaa.erase⟩, ?_⟩
      simp only [size]
      rw [distinct.aaaa.size_erase key]
      split <;> omega
    · rw [held?_other isA isAaaa, remove_other isA isAaaa]
      exact ⟨rfl, distinct, rfl⟩

end Records

end DnsResponder
