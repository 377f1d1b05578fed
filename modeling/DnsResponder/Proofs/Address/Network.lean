import DnsResponder.Address.Network

namespace DnsResponder

/-!
# Networks with their host bits cleared

A network that has no host bits set is determined by its length and any address in it.  So of the
networks that contain an address there is at most one of each length, and the longest is unique.
-/

namespace Network

variable {width : Nat} {first second network : Network width} {address : BitVec width}

/-- No host bits are set. -/
def IsCanonical (network : Network width) : Prop :=
  network.canonical = network

theorem isCanonical_canonical (network : Network width) : network.canonical.IsCanonical :=
  network.canonical_canonical

theorem IsCanonical.address_eq (canonical : network.IsCanonical) :
    network.address = network.base := by
  have same : network.base = network.address := congrArg Network.address canonical
  exact same.symm

theorem contains_iff :
    network.contains address = true ↔ address &&& mask width network.size = network.base := by
  rw [contains, beq_iff_eq]

/-- Clearing host bits changes nothing about what is contained. -/
@[simp]
theorem contains_canonical : network.canonical.contains address = network.contains address := by
  unfold contains
  rw [base_canonical]
  rfl

/-- Networks of one length with an address in common are the same. -/
theorem eq_of_contains (firstCanonical : first.IsCanonical) (secondCanonical : second.IsCanonical)
    (size : first.size = second.size) (inFirst : first.contains address = true)
    (inSecond : second.contains address = true) : first = second := by
  have addresses : first.address = second.address := by
    calc
      first.address = first.base := firstCanonical.address_eq
      _ = address &&& mask width first.size := (contains_iff.mp inFirst).symm
      _ = address &&& mask width second.size := by rw [size]
      _ = second.base := contains_iff.mp inSecond
      _ = second.address := secondCanonical.address_eq.symm
  rcases first with ⟨firstAddress, firstSize, firstFits⟩
  rcases second with ⟨secondAddress, secondSize, secondFits⟩
  rw [Network.mk.injEq]
  exact ⟨addresses, size⟩

end Network

/-! ## Either family -/

namespace Block

/-- The block with its host bits cleared. -/
def canonical : Block → Block
  | .v4 network => .v4 network.canonical
  | .v6 network => .v6 network.canonical

def family : Block → Family
  | .v4 _ => .v4
  | .v6 _ => .v6

/-- How many leading bits count. -/
def size : Block → Nat
  | .v4 network => network.size
  | .v6 network => network.size

end Block
end DnsResponder
