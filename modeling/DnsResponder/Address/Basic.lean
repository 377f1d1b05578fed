import DnsResponder.Bytes

namespace DnsResponder

/-!
# Internet addresses

An address is a number of its family's width, 32 bits for IPv4 and 128 for IPv6.  On the wire it is
the octets of that number, most significant first.
-/

/-- The two address families. -/
inductive Family
  | v4
  | v6
deriving DecidableEq

def Family.addressSize : Family → Nat
  | .v4 => 4
  | .v6 => 16

/-- An address with its family. -/
inductive Address
  | v4 (value : BitVec 32)
  | v6 (value : BitVec 128)
deriving DecidableEq

namespace Address

/-- The number written by octets, cut to `width` bits. -/
def ofOctets (width : Nat) (octets : Bytes) : BitVec width :=
  BitVec.ofNat width octets.toNat

def octetsV4 (value : BitVec 32) : Bytes :=
  Bytes.ofNat 4 value.toNat

def octetsV6 (value : BitVec 128) : Bytes :=
  Bytes.ofNat 16 value.toNat

/-- The octets of an address, as they stand on the wire. -/
def octets : Address → Bytes
  | .v4 value => octetsV4 value
  | .v6 value => octetsV6 value

/-- The address that `octets` write in a family. -/
def read (family : Family) (octets : Bytes) : Address :=
  match family with
  | .v4 => .v4 (ofOctets 32 octets)
  | .v6 => .v6 (ofOctets 128 octets)

def ofOctets? (octets : Bytes) : Option Address :=
  if octets.length = 4 then some (read .v4 octets)
  else if octets.length = 16 then some (read .v6 octets)
  else none

def family : Address → Family
  | .v4 _ => .v4
  | .v6 _ => .v6

@[simp]
theorem length_octets (address : Address) : address.octets.length = address.family.addressSize := by
  cases address <;> simp [octets, octetsV4, octetsV6, family, Family.addressSize]

@[simp]
theorem family_read (kind : Family) (octets : Bytes) : (read kind octets).family = kind := by
  cases kind <;> rfl

end Address
end DnsResponder
