import DnsResponder.Text.Quoted
import DnsResponder.Text.Utf8

namespace DnsResponder
namespace Dns

/-!
# Lookup keys

A record is stored and looked up under a name, a type and a class.  The name is packed as it stands
in a question: each label preceded by its size, without the final zero, padded with zeros to a fixed
capacity.  Names are compared octet by octet, so case matters.

`PackedName.ofText` packs a dotted name and `PackedName.text` shows a packed name with dots.  Packing
refuses a name at its first offending label, and what it reports about a name that is too long is
the size the whole name would have.
-/

/-- Octets of the packed name; a name's final zero must appear within them. -/
def nameCapacity : Nat := 48

def maxNameSize : Nat := nameCapacity - 1

def maxLabelSize : Nat := 63

def classInternet : UInt16 := 1

def typeA : UInt16 := 1

def typeAaaa : UInt16 := 28

/-- The type code of the pseudo-record that carries a client's extensions. -/
def typeOpt : UInt16 := 41

/-! ## Types -/

/-- The types with a table of records, and all others. -/
inductive RecordType
  | a
  | aaaa
  | other (code : UInt16)
deriving DecidableEq

namespace RecordType

def ofCode (code : UInt16) : RecordType :=
  if code = typeA then .a else if code = typeAaaa then .aaaa else .other code

def code : RecordType → UInt16
  | .a => typeA
  | .aaaa => typeAaaa
  | .other code => code

/-- The type as zone files write it. -/
def text : RecordType → String
  | .a => "A"
  | .aaaa => "AAAA"
  | .other code => s!"TYPE{code.toNat}"

def fieldText : RecordType → String
  | .a => "A"
  | .aaaa => "Aaaa"
  | .other code => s!"Other({code.toNat})"

@[simp]
theorem code_ofCode (code : UInt16) : (ofCode code).code = code := by
  unfold ofCode
  split
  · simp_all [RecordType.code]
  · split <;> simp_all [RecordType.code]

end RecordType

/-! ## Names -/

/-- Why a dotted name has no packed form. -/
inductive NameError
  | emptyLabel (name : String)
  | labelTooLong (size : Nat)
  | nameTooLong (size : Nat)
deriving DecidableEq

def NameError.message : NameError → String
  | .emptyLabel name => "empty label in " ++ Text.Quoted.text name
  | .labelTooLong size => s!"label of {size} bytes exceeds {maxLabelSize}"
  | .nameTooLong size => s!"name of {size} wire bytes exceeds {maxNameSize}"

/-- A name in its fixed buffer. -/
structure PackedName where
  octets : Bytes
  size_eq : octets.length = nameCapacity
deriving DecidableEq

namespace PackedName

/-- Octets in the fixed buffer: cut to its capacity, or padded with zeros. -/
def ofOctets (octets : Bytes) : PackedName where
  octets := (octets ++ List.replicate nameCapacity 0).take nameCapacity
  size_eq := by simp

/-- A dotted name without its final dot, if it has one. -/
def withoutFinalDot (name : List Char) : List Char :=
  if name.getLast? = some '.' then name.dropLast else name

/-- The labels of a dotted name; the root has none. -/
def labels (name : List Char) : List (List Char) :=
  if withoutFinalDot name = [] then [] else (withoutFinalDot name).splitOn '.'

/-- One label on the wire: its size and its octets. -/
def packLabel (label : List Char) : Bytes :=
  let octets := Text.Utf8.encode label
  UInt8.ofNat octets.length :: octets

/-- The size of a name's labels on the wire. -/
def wireSize (labels : List (List Char)) : Nat :=
  labels.foldr (fun label size => (Text.Utf8.encode label).length + 1 + size) 0

/-- Pack labels after those already packed.  The first label that is empty, too long, or that no
longer fits ends the packing. -/
def packLabels (name : List Char) (packed : Bytes) :
    List (List Char) → Except NameError Bytes
  | [] => .ok packed
  | label :: rest =>
    let size := (Text.Utf8.encode label).length
    if size = 0 then .error (.emptyLabel (String.ofList name))
    else if maxLabelSize < size then .error (.labelTooLong size)
    else if maxNameSize < packed.length + 1 + size then
      .error (.nameTooLong (wireSize (labels name)))
    else packLabels name (packed ++ packLabel label) rest

/-- The packed form of a dotted name.  A final dot is ignored; the root may be written with it or as
the empty name. -/
def ofText (name : String) : Except NameError PackedName :=
  (packLabels name.toList [] (labels name.toList)).map ofOctets

/-- The labels of packed octets, with `owed` octets of the current label still to come.  A zero size
ends the name, and a label that runs past the end is no label. -/
def unpackLabels (owed : Nat) (current : Bytes) : Bytes → List Bytes
  | [] => []
  | octet :: rest =>
    match owed with
    | 0 => if octet = 0 then [] else unpackLabels octet.toNat [] rest
    | 1 => (current ++ [octet]) :: unpackLabels 0 [] rest
    | owed + 2 => unpackLabels (owed + 1) (current ++ [octet]) rest

/-- A packed name with dots, and the root as a single dot. -/
def text (name : PackedName) : String :=
  match unpackLabels 0 [] name.octets with
  | [] => "."
  | labels => String.intercalate "." (labels.map Text.Utf8.decodeLossy)

end PackedName

/-! ## Keys -/

/-- What a record is stored and looked up under. -/
structure Key where
  name : PackedName
  qtype : UInt16
  qclass : UInt16
deriving DecidableEq

namespace Key

/-- The key of a dotted name and a type in the Internet class. -/
def ofText (name : String) (type : RecordType) : Except NameError Key :=
  (PackedName.ofText name).map fun packed => ⟨packed, type.code, classInternet⟩

/-- The type of the records that the key selects. -/
def recordType (key : Key) : RecordType :=
  .ofCode key.qtype

/-- The key as log lines show it: name and type. -/
def text (key : Key) : String :=
  key.name.text ++ " " ++ key.recordType.text

def fieldText (key : Key) : String :=
  "QueryKey \x7b qname: " ++ Text.Quoted.text key.name.text ++ ", qtype: " ++
    key.recordType.fieldText ++ ", qclass: " ++ toString key.qclass.toNat ++ " \x7d"

end Key
end Dns
end DnsResponder
