import DnsResponder.Proofs.Address.Network
import DnsResponder.Proofs.Served

namespace DnsResponder

/-!
# The first hit is the longest match

A lookup scans the networks of a family and takes the first that contains the address.  That this is
the longest one rests on the order of the list, and that the scan may stop after `maxNetworks`
entries on its length.  `Orderly` is what taking networks into service and out of it keeps: few
entries, none twice, none with host bits set, the longest first.
-/

namespace NetworkList

variable {width : Nat}

/-- What holds of the networks of a family at all times. -/
structure Orderly (networks : NetworkList width) : Prop where
  few : networks.length ≤ maxNetworks
  distinct : networks.Nodup
  canonical : ∀ network ∈ networks, network.IsCanonical
  sorted : networks.Pairwise fun earlier later => later.size ≤ earlier.size

variable {networks : NetworkList width} {network found : Network width} {address : BitVec width}

theorem orderly_nil : Orderly ([] : NetworkList width) where
  few := Nat.zero_le _
  distinct := List.nodup_nil
  canonical := by
    intro network none
    cases none
  sorted := List.Pairwise.nil

/-! ## Taking a network into service -/

theorem perm_place (network : Network width) (networks : NetworkList width) :
    (place network networks).Perm (network :: networks) := by
  induction networks with
  | nil => exact List.Perm.refl _
  | cons entry rest ih =>
    rw [place]
    split
    · exact List.Perm.refl _
    · exact (ih.cons entry).trans (List.Perm.swap network entry rest)

/-- The new network stands behind all that are at least as long, and before the shorter ones. -/
theorem sorted_place (network : Network width)
    (sorted : networks.Pairwise fun earlier later => later.size ≤ earlier.size) :
    (place network networks).Pairwise fun earlier later => later.size ≤ earlier.size := by
  induction networks with
  | nil => exact List.pairwise_singleton _ network
  | cons entry rest ih =>
    rcases List.pairwise_cons.mp sorted with ⟨shorter, sortedRest⟩
    rw [place]
    split
    · next before =>
      refine List.pairwise_cons.mpr ⟨?_, sorted⟩
      intro other member
      rcases List.mem_cons.mp member with rfl | behind
      · exact Nat.le_of_lt before
      · exact Nat.le_trans (shorter other behind) (Nat.le_of_lt before)
    · next notBefore =>
      refine List.pairwise_cons.mpr ⟨?_, ih sortedRest⟩
      intro other member
      rcases (mem_place network other rest).mp member with rfl | behind
      · exact Nat.le_of_not_lt notBefore
      · exact shorter other behind

theorem Orderly.place (orderly : networks.Orderly) (new : network.canonical ∉ networks)
    (room : networks.length < maxNetworks) : (place network.canonical networks).Orderly where
  few := by
    rw [length_place]
    exact room
  distinct := by
    rw [(perm_place network.canonical networks).nodup_iff]
    exact List.nodup_cons.mpr ⟨new, orderly.distinct⟩
  canonical := by
    intro other member
    rcases (mem_place network.canonical other networks).mp member with rfl | before
    · exact network.isCanonical_canonical
    · exact orderly.canonical other before
  sorted := sorted_place network.canonical orderly.sorted

/-- What taking a network into service can come to. -/
theorem Orderly.insert_cases (orderly : networks.Orderly) (network : Network width) :
    (network.canonical ∈ networks ∧ insert networks network = .ok (false, networks))
    ∨ (network.canonical ∉ networks ∧ maxNetworks ≤ networks.length
      ∧ insert networks network = .error .full)
    ∨ (network.canonical ∉ networks ∧ networks.length < maxNetworks
      ∧ insert networks network = .ok (true, NetworkList.place network.canonical networks)
      ∧ (NetworkList.place network.canonical networks).Orderly) := by
  by_cases present : network.canonical ∈ networks
  · exact .inl ⟨present, if_pos present⟩
  · by_cases full : maxNetworks ≤ networks.length
    · exact .inr (.inl ⟨present, full, (if_neg present).trans (if_pos full)⟩)
    · have room := Nat.lt_of_not_le full
      exact .inr (.inr ⟨present, room, (if_neg present).trans (if_neg full),
        orderly.place present room⟩)

/-! ## Taking a network out of service -/

theorem Orderly.remove (orderly : networks.Orderly) (network : Network width) :
    (remove networks network).2.Orderly where
  few := Nat.le_trans length_remove_le orderly.few
  distinct := orderly.distinct.filter _
  canonical := fun other member => orderly.canonical other (List.mem_filter.mp member).1
  sorted := orderly.sorted.filter _

theorem mem_remove {other : Network width} :
    other ∈ (remove networks network).2 ↔ other ≠ network.canonical ∧ other ∈ networks := by
  rw [remove, List.mem_filter, decide_eq_true_iff]
  exact and_comm

/-! ## Lookup -/

/-- A network contains the address, and every other one that does is shorter. -/
def IsLongest (networks : NetworkList width) (address : BitVec width) (found : Network width) :
    Prop :=
  found ∈ networks ∧ found.contains address = true
    ∧ ∀ other ∈ networks, other.contains address = true → other ≠ found → other.size < found.size

theorem IsLongest.unique {another : Network width} (longest : networks.IsLongest address found)
    (also : networks.IsLongest address another) : found = another := by
  by_cases same : found = another
  · exact same
  · have shorter := longest.2.2 another also.1 also.2.1 (Ne.symm same)
    have longer := also.2.2 found longest.1 longest.2.1 same
    omega

theorem Orderly.isLongest (orderly : networks.Orderly)
    (hit : longestMatch? networks address = some found) : networks.IsLongest address found := by
  rw [longestMatch?, List.take_of_length_le orderly.few, List.find?_eq_some_iff_append] at hit
  rcases hit with ⟨inside, before, behind, split, missed⟩
  have member : found ∈ networks := by
    rw [split]
    exact List.mem_append_right before List.mem_cons_self
  refine ⟨member, inside, ?_⟩
  intro other listed alsoInside different
  have notLonger : other.size ≤ found.size := by
    have sorted := orderly.sorted
    rw [split] at listed sorted
    rcases List.mem_append.mp listed with early | late
    · have miss := missed other early
      rw [alsoInside] at miss
      cases miss
    · rcases List.mem_cons.mp late with rfl | later
      · exact absurd rfl different
      · exact (List.pairwise_cons.mp (List.pairwise_append.mp sorted).2.1).1 other later
  -- two networks of one length around the address would be the same
  have notAsLong : other.size ≠ found.size := by
    intro size
    apply different
    exact Network.eq_of_contains (orderly.canonical other listed) (orderly.canonical found member)
      size alsoInside inside
  omega

/-- What is found is the longest of the networks that contain the address. -/
theorem Orderly.longestMatch?_eq_some_iff (orderly : networks.Orderly) :
    longestMatch? networks address = some found ↔ networks.IsLongest address found := by
  constructor
  · exact orderly.isLongest
  · intro longest
    have present : (longestMatch? networks address).isSome = true :=
      (isSome_longestMatch? orderly.few address).mpr ⟨found, longest.1, longest.2.1⟩
    rcases Option.isSome_iff_exists.mp present with ⟨hit, taken⟩
    rw [taken, (orderly.isLongest taken).unique longest]

end NetworkList

/-! ## Both families -/

namespace Served

/-- The networks of both families are as they should be. -/
structure Orderly (served : Served) : Prop where
  v4 : served.v4.Orderly
  v6 : served.v6.Orderly

theorem orderly_empty : Orderly {} where
  v4 := NetworkList.orderly_nil
  v6 := NetworkList.orderly_nil

variable {served : Served} {address : Address} {found : Block}

theorem mem_blocks_v4 {network : Network 32} : .v4 network ∈ served.blocks ↔ network ∈ served.v4 := by
  simp only [blocks, List.mem_append, List.mem_map, Block.v4.injEq, exists_eq_right, reduceCtorEq,
    and_false, exists_false, or_false]

theorem mem_blocks_v6 {network : Network 128} :
    .v6 network ∈ served.blocks ↔ network ∈ served.v6 := by
  simp only [blocks, List.mem_append, List.mem_map, Block.v6.injEq, exists_eq_right, reduceCtorEq,
    and_false, exists_false, false_or]

/-- A block covers the address, and every other one in a collection that does is shorter. -/
def IsLongest (held : Block → Prop) (address : Address) (found : Block) : Prop :=
  held found ∧ found.covers address = true
    ∧ ∀ other, held other → other.covers address = true → other ≠ found → other.size < found.size

section Family

variable {width : Nat} {wrap : Network width → Block} {value : BitVec width}
  {networks : NetworkList width}

/-- How the networks of an address's family stand among the blocks. -/
structure Wraps (wrap : Network width → Block) (value : BitVec width) (address : Address) : Prop where
  injective : Function.Injective wrap
  covers : ∀ network, (wrap network).covers address = network.contains value
  size : ∀ network, (wrap network).size = network.size
  only : ∀ block : Block, block.covers address = true → ∃ network, block = wrap network

theorem wraps_v4 (value : BitVec 32) : Wraps .v4 value (.v4 value) where
  injective := fun _ _ => Block.v4.inj
  covers := fun _ => rfl
  size := fun _ => rfl
  only := by
    rintro (network | network) covered
    · exact ⟨network, rfl⟩
    · cases covered

theorem wraps_v6 (value : BitVec 128) : Wraps .v6 value (.v6 value) where
  injective := fun _ _ => Block.v6.inj
  covers := fun _ => rfl
  size := fun _ => rfl
  only := by
    rintro (network | network) covered
    · cases covered
    · exact ⟨network, rfl⟩

/-- The longest network of the address's family is the longest block of all. -/
theorem Wraps.isLongest_iff (wraps : Wraps wrap value address)
    (held : ∀ network, wrap network ∈ served.blocks ↔ network ∈ networks) :
    (∃ network, networks.IsLongest value network ∧ wrap network = found) ↔
      IsLongest (· ∈ served.blocks) address found := by
  constructor
  · rintro ⟨network, ⟨member, inside, longest⟩, rfl⟩
    refine ⟨(held network).mpr member, (wraps.covers network).trans inside, ?_⟩
    intro block listed covered different
    rcases wraps.only block covered with ⟨other, rfl⟩
    rw [wraps.covers] at covered
    rw [wraps.size, wraps.size]
    exact longest other ((held other).mp listed) covered fun same => different (congrArg wrap same)
  · rintro ⟨member, covered, longest⟩
    rcases wraps.only found covered with ⟨network, rfl⟩
    rw [wraps.covers] at covered
    refine ⟨network, ⟨(held network).mp member, covered, ?_⟩, rfl⟩
    intro other listed inside different
    have shorter := longest (wrap other) ((held other).mpr listed)
      ((wraps.covers other).trans inside) fun same => different (wraps.injective same)
    rwa [wraps.size, wraps.size] at shorter

end Family

/-- What is found is the longest of the blocks that cover the address. -/
theorem Orderly.longestMatch?_eq_some_iff (orderly : served.Orderly) :
    served.longestMatch? address = some found ↔ IsLongest (· ∈ served.blocks) address found := by
  cases address with
  | v4 value =>
    rw [← (wraps_v4 value).isLongest_iff fun _ => mem_blocks_v4, longestMatch?,
      Option.map_eq_some_iff]
    simp only [orderly.v4.longestMatch?_eq_some_iff]
  | v6 value =>
    rw [← (wraps_v6 value).isLongest_iff fun _ => mem_blocks_v6, longestMatch?,
      Option.map_eq_some_iff]
    simp only [orderly.v6.longestMatch?_eq_some_iff]

/-- Nothing is found when no block covers the address. -/
theorem Orderly.longestMatch?_eq_none_iff (orderly : served.Orderly) :
    served.longestMatch? address = none ↔
      ∀ block ∈ served.blocks, block.covers address = false := by
  have bounded : served.Bounded := ⟨orderly.v4.few, orderly.v6.few⟩
  have found := contains_iff bounded address
  rw [contains] at found
  rw [← Option.not_isSome_iff_eq_none, found]
  simp only [not_exists, not_and, Bool.not_eq_true]

end Served
end DnsResponder
