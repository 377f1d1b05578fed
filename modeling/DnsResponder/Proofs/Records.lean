import DnsResponder.Proofs.Refusal
import DnsResponder.Records

namespace DnsResponder

/-!
# What is resolved is stored

The two tables are told apart by the type of a key.  `Records.Holds` says what is stored under a key,
whichever table that is in, and resolving a key answers just that, with the time to live adjusted to
the query.
-/

theorem Dns.RecordType.ofCode_other {code : UInt16} (notA : code ≠ Dns.typeA)
    (notAaaa : code ≠ Dns.typeAaaa) : Dns.RecordType.ofCode code = .other code := by
  rw [Dns.RecordType.ofCode, if_neg notA, if_neg notAaaa]

namespace Records

/-- An address and its time to live, stored under a key in the table that the key's type selects. -/
def Holds (records : Records) (key : Dns.Key) (address : Address) (ttl : UInt32) : Prop :=
  match address with
  | .v4 value => key.qtype = Dns.typeA ∧ records.a.find? key = some ⟨value, ttl⟩
  | .v6 value => key.qtype = Dns.typeAaaa ∧ records.aaaa.find? key = some ⟨value, ttl⟩

variable {records : Records} {key : Dns.Key} {queryId : UInt16} {spread : Bool} {answer : Answer}

/-- What is stored is resolved. -/
theorem Holds.resolve {address : Address} {ttl : UInt32} (held : records.Holds key address ttl) :
    records.resolve key queryId spread = .ok ⟨address, effectiveTtl ttl queryId spread⟩ := by
  cases address with
  | v4 value =>
    rcases held with ⟨type, found⟩
    have selected : key.recordType = .a := congrArg Dns.RecordType.ofCode type
    simp only [Records.resolve, selected, found]
    rfl
  | v6 value =>
    rcases held with ⟨type, found⟩
    have selected : key.recordType = .aaaa := congrArg Dns.RecordType.ofCode type
    simp only [Records.resolve, selected, found]
    rfl

/-- What is resolved is stored. -/
theorem holds_of_resolve (resolved : records.resolve key queryId spread = .ok answer) :
    ∃ ttl, records.Holds key answer.address ttl
      ∧ answer.ttl = effectiveTtl ttl queryId spread := by
  by_cases a : key.qtype = Dns.typeA
  · have selected : key.recordType = .a := congrArg Dns.RecordType.ofCode a
    cases found : records.a.find? key with
    | none =>
      simp only [resolve, selected, found] at resolved
      cases resolved
    | some record =>
      simp only [resolve, selected, found] at resolved
      cases resolved
      exact ⟨record.ttl, ⟨a, found⟩, rfl⟩
  · by_cases aaaa : key.qtype = Dns.typeAaaa
    · have selected : key.recordType = .aaaa := congrArg Dns.RecordType.ofCode aaaa
      cases found : records.aaaa.find? key with
      | none =>
        simp only [resolve, selected, found] at resolved
        cases resolved
      | some record =>
        simp only [resolve, selected, found] at resolved
        cases resolved
        exact ⟨record.ttl, ⟨aaaa, found⟩, rfl⟩
    · have selected : key.recordType = .other key.qtype := Dns.RecordType.ofCode_other a aaaa
      simp only [resolve, selected] at resolved
      cases resolved

theorem stopsOnlyFor_resolve (records : Records) (key : Dns.Key) (queryId : UInt16)
    (spread : Bool) :
    StopsOnlyFor Refusal.OfLookup (records.resolve key queryId spread) := by
  rw [resolve]
  split
  · split
    · exact stopsOnlyFor_ok _
    · exact stopsOnlyFor_error trivial
  · split
    · exact stopsOnlyFor_ok _
    · exact stopsOnlyFor_error trivial
  · exact stopsOnlyFor_error trivial

/-- Only keys with a type are resolved. -/
theorem typed_of_resolve (resolved : records.resolve key queryId spread = .ok answer) :
    key.qtype ≠ 0 := by
  rcases holds_of_resolve resolved with ⟨ttl, held, -⟩
  intro untyped
  cases found : answer.address with
  | v4 value =>
    rw [found] at held
    exact absurd (untyped.symm.trans held.1) (by decide)
  | v6 value =>
    rw [found] at held
    exact absurd (untyped.symm.trans held.1) (by decide)

theorem Holds.answerType {address : Address} {ttl : UInt32} (held : records.Holds key address ttl) :
    key.qtype = match address.family with
      | .v4 => Dns.typeA
      | .v6 => Dns.typeAaaa := by
  cases address with
  | v4 value => exact held.1
  | v6 value => exact held.1

/-! ## One view of both tables -/

/-- The address and the time to live under a key, whichever table they are in. -/
def held? (records : Records) (key : Dns.Key) : Option (Address × UInt32) :=
  if key.qtype = Dns.typeA then
    (records.a.find? key).map fun record => (.v4 record.address, record.ttl)
  else if key.qtype = Dns.typeAaaa then
    (records.aaaa.find? key).map fun record => (.v6 record.address, record.ttl)
  else none

theorem holds_of_held? {address : Address} {ttl : UInt32}
    (found : records.held? key = some (address, ttl)) : records.Holds key address ttl := by
  rw [held?] at found
  split at found
  · next a =>
    rcases Option.map_eq_some_iff.mp found with ⟨record, stored, same⟩
    cases same
    exact ⟨a, stored⟩
  · split at found
    · next aaaa =>
      rcases Option.map_eq_some_iff.mp found with ⟨record, stored, same⟩
      cases same
      exact ⟨aaaa, stored⟩
    · cases found

theorem held?_of_a (type : key.qtype = Dns.typeA) :
    records.held? key =
      (records.a.find? key).map fun record => (.v4 record.address, record.ttl) :=
  if_pos type

theorem held?_of_aaaa (type : key.qtype = Dns.typeAaaa) :
    records.held? key =
      (records.aaaa.find? key).map fun record => (.v6 record.address, record.ttl) := by
  have notA : key.qtype ≠ Dns.typeA := by
    rw [type]
    decide
  rw [held?, if_neg notA, if_pos type]

theorem held?_other (notA : key.qtype ≠ Dns.typeA) (notAaaa : key.qtype ≠ Dns.typeAaaa) :
    records.held? key = none := by
  rw [held?, if_neg notA, if_neg notAaaa]

theorem held?_congr {changed : Records}
    (a : key.qtype = Dns.typeA → changed.a.find? key = records.a.find? key)
    (aaaa : key.qtype = Dns.typeAaaa → changed.aaaa.find? key = records.aaaa.find? key) :
    changed.held? key = records.held? key := by
  by_cases isA : key.qtype = Dns.typeA
  · rw [held?_of_a isA, held?_of_a isA, a isA]
  · by_cases isAaaa : key.qtype = Dns.typeAaaa
    · rw [held?_of_aaaa isAaaa, held?_of_aaaa isAaaa, aaaa isAaaa]
    · rw [held?_other isA isAaaa, held?_other isA isAaaa]

variable {other : Dns.Key}

theorem held?_insertA (record : Record 32) :
    (records.insertA key record).2.held? other =
      if other = key ∧ other.qtype = Dns.typeA then some (.v4 record.address, record.ttl)
      else records.held? other := by
  have found : (records.insertA key record).2.a.find? other =
      if other = key then some record else records.a.find? other :=
    Table.find?_insert ..
  by_cases replaced : other = key ∧ other.qtype = Dns.typeA
  · rw [if_pos replaced, held?_of_a replaced.2, found, if_pos replaced.1]
    rfl
  · rw [if_neg replaced]
    refine held?_congr (fun isA => ?_) (fun _ => rfl)
    rw [found, if_neg fun same => replaced ⟨same, isA⟩]

theorem held?_insertAaaa (record : Record 128) :
    (records.insertAaaa key record).2.held? other =
      if other = key ∧ other.qtype = Dns.typeAaaa then some (.v6 record.address, record.ttl)
      else records.held? other := by
  have found : (records.insertAaaa key record).2.aaaa.find? other =
      if other = key then some record else records.aaaa.find? other :=
    Table.find?_insert ..
  by_cases replaced : other = key ∧ other.qtype = Dns.typeAaaa
  · rw [if_pos replaced, held?_of_aaaa replaced.2, found, if_pos replaced.1]
    rfl
  · rw [if_neg replaced]
    refine held?_congr (fun _ => rfl) (fun isAaaa => ?_)
    rw [found, if_neg fun same => replaced ⟨same, isAaaa⟩]

theorem held?_remove :
    (records.remove key).2.held? other = if other = key then none else records.held? other := by
  by_cases isA : key.qtype = Dns.typeA
  · have selected : key.recordType = .a := congrArg Dns.RecordType.ofCode isA
    have found : (records.remove key).2.a.find? other =
        if other = key then none else records.a.find? other := by
      rw [remove, selected]
      exact Table.find?_erase ..
    have beside : (records.remove key).2.aaaa = records.aaaa := by
      rw [remove, selected]
    by_cases same : other = key
    · rw [if_pos same] at found ⊢
      rw [same] at found ⊢
      rw [held?_of_a isA, found]
      rfl
    · rw [if_neg same] at found ⊢
      exact held?_congr (fun _ => found) (fun _ => congrArg (·.find? other) beside)
  · by_cases isAaaa : key.qtype = Dns.typeAaaa
    · have selected : key.recordType = .aaaa := congrArg Dns.RecordType.ofCode isAaaa
      have found : (records.remove key).2.aaaa.find? other =
          if other = key then none else records.aaaa.find? other := by
        rw [remove, selected]
        exact Table.find?_erase ..
      have beside : (records.remove key).2.a = records.a := by
        rw [remove, selected]
      by_cases same : other = key
      · rw [if_pos same] at found ⊢
        rw [same] at found ⊢
        rw [held?_of_aaaa isAaaa, found]
        rfl
      · rw [if_neg same] at found ⊢
        exact held?_congr (fun _ => congrArg (·.find? other) beside) (fun _ => found)
    · have selected : key.recordType = .other key.qtype := Dns.RecordType.ofCode_other isA isAaaa
      have unchanged : (records.remove key).2 = records := by
        rw [remove, selected]
      rw [unchanged]
      by_cases same : other = key
      · rw [if_pos same, same, held?_other isA isAaaa]
      · rw [if_neg same]

theorem held?_empty : held? {} key = none := by
  rw [held?]
  split
  · rfl
  · split <;> rfl

/-- What a lookup answers to what is held. -/
def answerFor (held : Option (Address × UInt32)) (queryId : UInt16) (spread : Bool) :
    Except Refusal Answer :=
  match held with
  | some (address, ttl) => .ok ⟨address, effectiveTtl ttl queryId spread⟩
  | none => .error .noRecord

theorem resolve_eq (queryId : UInt16) (spread : Bool) : records.resolve key queryId spread =
    if key.qtype = Dns.typeA ∨ key.qtype = Dns.typeAaaa then
      answerFor (records.held? key) queryId spread
    else .error (.unsupportedType key.qtype) := by
  by_cases isA : key.qtype = Dns.typeA
  · have selected : key.recordType = .a := congrArg Dns.RecordType.ofCode isA
    rw [if_pos (.inl isA), held?_of_a isA, resolve, selected]
    cases records.a.find? key <;> rfl
  · by_cases isAaaa : key.qtype = Dns.typeAaaa
    · have selected : key.recordType = .aaaa := congrArg Dns.RecordType.ofCode isAaaa
      rw [if_pos (.inr isAaaa), held?_of_aaaa isAaaa, resolve, selected]
      cases records.aaaa.find? key <;> rfl
    · have selected : key.recordType = .other key.qtype := Dns.RecordType.ofCode_other isA isAaaa
      rw [if_neg (not_or.mpr ⟨isA, isAaaa⟩), resolve, selected]

end Records
end DnsResponder
