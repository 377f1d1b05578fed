namespace DnsResponder

/-!
# Octets and numbers in network byte order

Every packet, name and address of this library is a list of octets in transmission order.  Numbers
are written most significant octet first, in a fixed number of octets; `ofNat` and `toNat` are the
two directions.  Reading and writing at an offset is partial and says so: `slice?`, `word?` and
`patch?` answer `none` when any octet they would touch lies outside the list, so an access outside
the data is a value one can reason about and never a default.
-/

/-- Octets in transmission order. -/
abbrev Bytes := List UInt8

namespace Bytes

/-! ## Numbers -/

/-- The number written by `octets`, most significant octet first. -/
def toNat (octets : Bytes) : Nat :=
  octets.foldl (fun total octet => total * 256 + octet.toNat) 0

/-- The last `size` base-256 digits of a number, most significant first. -/
def ofNat : (size : Nat) → Nat → Bytes
  | 0, _ => []
  | size + 1, number => ofNat size (number / 256) ++ [UInt8.ofNat number]

@[simp]
theorem length_ofNat (size number : Nat) : (ofNat size number).length = size := by
  induction size generalizing number with
  | zero => rfl
  | succ size ih => simp [ofNat, ih]

def word (high low : UInt8) : UInt16 :=
  UInt16.ofNat (high.toNat * 256 + low.toNat)

def ofWord (value : UInt16) : Bytes :=
  ofNat 2 value.toNat

def ofLong (value : UInt32) : Bytes :=
  ofNat 4 value.toNat

@[simp]
theorem length_ofWord (value : UInt16) : (ofWord value).length = 2 :=
  length_ofNat 2 value.toNat

@[simp]
theorem length_ofLong (value : UInt32) : (ofLong value).length = 4 :=
  length_ofNat 4 value.toNat

/-! ## Access at an offset -/

/-- The `size` octets from `offset`, if all of them exist. -/
def slice? (data : Bytes) (offset size : Nat) : Option Bytes :=
  if offset + size ≤ data.length then some ((data.drop offset).take size) else none

/-- The 16-bit word at `offset`, if both of its octets exist. -/
def word? (data : Bytes) (offset : Nat) : Option UInt16 :=
  match data.drop offset with
  | high :: low :: _ => some (word high low)
  | _ => none

/-- `data` with `octets` written over its own from `offset`, if all of these exist. -/
def patch? (data : Bytes) (offset : Nat) (octets : Bytes) : Option Bytes :=
  if offset + octets.length ≤ data.length then
    some (data.take offset ++ octets ++ data.drop (offset + octets.length))
  else
    none

/-- Exchange the `size` octets at `offset` with the `size` octets right after them. -/
def swapAdjacent? (data : Bytes) (offset size : Nat) : Option Bytes := do
  let first ← data.slice? offset size
  let second ← data.slice? (offset + size) size
  data.patch? offset (second ++ first)

theorem slice?_of_le {data : Bytes} {offset size : Nat} (inside : offset + size ≤ data.length) :
    data.slice? offset size = some ((data.drop offset).take size) :=
  if_pos inside

/-- A slice has the size asked for. -/
theorem length_of_slice? {data part : Bytes} {offset size : Nat}
    (found : data.slice? offset size = some part) : part.length = size := by
  simp only [slice?, Option.ite_none_right_eq_some, Option.some.injEq] at found
  obtain ⟨inside, rfl⟩ := found
  simp only [List.length_take, List.length_drop]
  omega

/-- Writing over octets keeps their number. -/
theorem length_of_patch? {data octets written : Bytes} {offset : Nat}
    (found : data.patch? offset octets = some written) : written.length = data.length := by
  simp only [patch?, Option.ite_none_right_eq_some, Option.some.injEq] at found
  obtain ⟨inside, rfl⟩ := found
  simp only [List.length_append, List.length_take, List.length_drop]
  omega

end Bytes

end DnsResponder
