import DnsResponder.Address.Basic
import DnsResponder.Dns.Key
import DnsResponder.Refusal

namespace DnsResponder

/-!
# Address records

Two tables, one for each type of address, hold at most one record under each key.  `Table.find?` is
the view through which a table is seen: what an operation does is what it does to `find?`, and
entries have no order that an answer could show.

`resolve` turns a key into the answer that the response carries, with its time to live already
adjusted.
-/

/-- An address and how long it may be kept. -/
structure Record (width : Nat) where
  address : BitVec width
  ttl : UInt32
deriving DecidableEq

/-! ## One table -/

/-- The records of one type. -/
structure Table (width : Nat) where
  entries : List (Dns.Key × Record width) := []

namespace Table

variable {width : Nat}

def find? (table : Table width) (key : Dns.Key) : Option (Record width) :=
  table.entries.lookup key

def erase (table : Table width) (key : Dns.Key) : Table width :=
  ⟨table.entries.filter fun entry => entry.1 ≠ key⟩

/-- The table with a record under a key, in place of any other. -/
def insert (table : Table width) (key : Dns.Key) (record : Record width) : Table width :=
  ⟨(key, record) :: (table.erase key).entries⟩

def size (table : Table width) : Nat :=
  table.entries.length

@[simp]
theorem find?_empty (key : Dns.Key) : (⟨[]⟩ : Table width).find? key = none := rfl

/-- The first entry decides, or the rest does. -/
theorem find?_cons (entry : Dns.Key × Record width) (rest : List (Dns.Key × Record width))
    (key : Dns.Key) :
    (⟨entry :: rest⟩ : Table width).find? key =
      if key = entry.1 then some entry.2 else (⟨rest⟩ : Table width).find? key := by
  obtain ⟨held, record⟩ := entry
  simp only [find?, List.lookup_cons]
  by_cases same : key = held
  · simp [same]
  · simp [same, beq_eq_false_iff_ne.mpr same]

@[simp]
theorem find?_erase (table : Table width) (erased key : Dns.Key) :
    (table.erase erased).find? key = if key = erased then none else table.find? key := by
  obtain ⟨entries⟩ := table
  induction entries with
  | nil => simp [erase]
  | cons entry rest ih =>
    simp only [erase, List.filter_cons] at ih ⊢
    grind [find?_cons]

@[simp]
theorem find?_insert (table : Table width) (inserted key : Dns.Key) (record : Record width) :
    (table.insert inserted record).find? key =
      if key = inserted then some record else table.find? key := by
  rw [insert, find?_cons]
  by_cases same : key = inserted
  · simp [same]
  · exact (if_neg same).trans ((find?_erase table inserted key).trans (by simp [same]))

end Table

/-! ## The two tables -/

/-- All records, each type in its own table. -/
structure Records where
  a : Table 32 := {}
  aaaa : Table 128 := {}

namespace Records

/-- The records with an IPv4 address under a key, and the record that it replaces. -/
def insertA (records : Records) (key : Dns.Key) (record : Record 32) :
    Option (Record 32) × Records :=
  (records.a.find? key, { records with a := records.a.insert key record })

/-- The records with an IPv6 address under a key, and the record that it replaces. -/
def insertAaaa (records : Records) (key : Dns.Key) (record : Record 128) :
    Option (Record 128) × Records :=
  (records.aaaa.find? key, { records with aaaa := records.aaaa.insert key record })

/-- The records without the one under a key in the table that the key's type selects, and whether
there was one.  Types without a table have no records. -/
def remove (records : Records) (key : Dns.Key) : Bool × Records :=
  match key.recordType with
  | .a => ((records.a.find? key).isSome, { records with a := records.a.erase key })
  | .aaaa => ((records.aaaa.find? key).isSome, { records with aaaa := records.aaaa.erase key })
  | .other _ => (false, records)

/-- No records: what is left when both tables are emptied. -/
def clear (_ : Records) : Records :=
  {}

def size (records : Records) : Nat :=
  records.a.size + records.aaaa.size

end Records

/-! ## Answers -/

/-- The address that answers a question, with the time to live that goes out. -/
structure Answer where
  address : Address
  ttl : UInt32
deriving DecidableEq

/-- The time to live sent for a stored one.  When it is spread, the upper half of the stored time is
the window, and the query's identifier picks the place in it; times below two have no such window. -/
def effectiveTtl (ttl : UInt32) (queryId : UInt16) (spread : Bool) : UInt32 :=
  if !spread || ttl < 2 then ttl
  else queryId.toUInt32 % (ttl / 2) + ttl / 2

def Record.answer {width : Nat} (record : Record width) (wrap : BitVec width → Address)
    (queryId : UInt16) (spread : Bool) : Answer :=
  ⟨wrap record.address, effectiveTtl record.ttl queryId spread⟩

/-- Look a key up in the table that its type selects. -/
def Records.resolve (records : Records) (key : Dns.Key) (queryId : UInt16) (spread : Bool) :
    Except Refusal Answer :=
  match key.recordType with
  | .a =>
    match records.a.find? key with
    | some record => .ok (record.answer .v4 queryId spread)
    | none => .error .noRecord
  | .aaaa =>
    match records.aaaa.find? key with
    | some record => .ok (record.answer .v6 queryId spread)
    | none => .error .noRecord
  | .other code => .error (.unsupportedType code)

end DnsResponder
