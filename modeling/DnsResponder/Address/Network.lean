import DnsResponder.Address.Text

namespace DnsResponder

/-!
# Networks

A network is an address with the number of its leading bits that count.  Two addresses lie in the
same network when these bits agree.  A network may be written with host bits set; `canonical` clears
them.
-/

/-- An address of `width` bits and how many of its leading bits count. -/
structure Network (width : Nat) where
  address : BitVec width
  size : Nat
  size_le : size ≤ width
deriving DecidableEq

namespace Network

variable {width : Nat}

/-- The network of an address and a length, when the family has that many bits. -/
def of? (address : BitVec width) (size : Nat) : Option (Network width) :=
  if fits : size ≤ width then some ⟨address, size, fits⟩ else none

/-- The leading `size` bits set. -/
def mask (width size : Nat) : BitVec width :=
  BitVec.allOnes width <<< (width - size)

def base (network : Network width) : BitVec width :=
  network.address &&& mask width network.size

/-- The network with its host bits cleared. -/
def canonical (network : Network width) : Network width :=
  { network with address := network.base }

/-- Whether the leading bits of `address` are the network's. -/
def contains (network : Network width) (address : BitVec width) : Bool :=
  address &&& mask width network.size == network.base

/-- The length that a netmask of the form ones-then-zeros stands for. -/
def maskSize? (netmask : BitVec width) : Option Nat :=
  (List.range (width + 1)).find? fun size => mask width size == netmask

@[simp]
theorem base_canonical (network : Network width) : network.canonical.base = network.base := by
  simp [canonical, base, BitVec.and_assoc]

@[simp]
theorem canonical_canonical (network : Network width) :
    network.canonical.canonical = network.canonical := by
  simp only [canonical, base, BitVec.and_assoc, BitVec.and_self]

end Network

/-- A network of either family. -/
inductive Block
  | v4 (network : Network 32)
  | v6 (network : Network 128)
deriving DecidableEq

namespace Block

def text : Block → String
  | .v4 network => Address.textV4 network.address ++ "/" ++ toString network.size
  | .v6 network => Address.textV6 network.address ++ "/" ++ toString network.size

/-- The block of an address and a length, when the family has that many bits. -/
def of? (address : Address) (size : Nat) : Option Block :=
  match address with
  | .v4 value => (Network.of? value size).map .v4
  | .v6 value => (Network.of? value size).map .v6

/-- The block that lies `index` blocks of the same length after the one of an address. -/
def nth? (start : Address) (size index : Nat) : Option Block :=
  match start with
  | .v4 value => of? (.v4 (value + BitVec.ofNat 32 (index <<< (32 - size)))) size
  | .v6 value => of? (.v6 (value + BitVec.ofNat 128 (index <<< (128 - size)))) size

/-- A length in decimals, of at most 255 before the family's own limit. -/
def parseSize? (text : List Char) : Option Nat :=
  (Text.readNumeral 255 text).toOption

/-- The address before a single slash, and what follows it. -/
def parts? (text : List Char) : Option (List Char × Option (List Char)) :=
  match text.splitOn '/' with
  | [address] => some (address, none)
  | [address, size] => some (address, some size)
  | _ => none

/-- An IPv4 block: an address alone, or followed by a length or a netmask. -/
def parseV4? (text : List Char) : Option (Network 32) := do
  let (address, size) ← parts? text
  let value ← Address.parseV4? address
  match size with
  | none => Network.of? value 32
  | some size =>
    match Address.parseV4? size with
    | some netmask => Network.of? value (← Network.maskSize? netmask)
    | none => Network.of? value (← parseSize? size)

/-- An IPv6 block: an address alone or followed by a length. -/
def parseV6? (text : List Char) : Option (Network 128) := do
  let (address, size) ← parts? text
  let value ← Address.parseV6? address
  match size with
  | none => Network.of? value 128
  | some size => Network.of? value (← parseSize? size)

/-- A block of either family; the two notations have no text in common. -/
def parse? (text : List Char) : Option Block :=
  ((parseV4? text).map .v4).or ((parseV6? text).map .v6)

end Block
end DnsResponder
