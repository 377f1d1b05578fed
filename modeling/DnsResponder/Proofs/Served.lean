import DnsResponder.Proofs.Refusal
import DnsResponder.Served

namespace DnsResponder

/-!
# Which addresses are served

A lookup only sees as many networks of a family as a list may hold.  Lists never grow beyond that, so
an address is found exactly when some network in service covers it.
-/

/-- Whether a block is of the family of an address and contains it. -/
def Block.covers : Block → Address → Bool
  | .v4 network, .v4 value => network.contains value
  | .v6 network, .v6 value => network.contains value
  | _, _ => false

namespace NetworkList

variable {width : Nat} {networks changed : NetworkList width} {network : Network width}
  {added : Bool}

theorem length_of_insert (inserted : insert networks network = .ok (added, changed))
    (bounded : networks.length ≤ maxNetworks) : changed.length ≤ maxNetworks := by
  unfold insert at inserted
  extract_lets canonical at inserted
  split at inserted
  · cases inserted
    exact bounded
  · split at inserted
    · cases inserted
    · next room =>
      cases inserted
      rw [length_place]
      omega

theorem length_remove_le : (remove networks network).2.length ≤ networks.length :=
  List.length_filter_le ..

theorem isSome_longestMatch? (bounded : networks.length ≤ maxNetworks) (address : BitVec width) :
    (longestMatch? networks address).isSome = true ↔
      ∃ network ∈ networks, network.contains address = true := by
  rw [longestMatch?, List.take_of_length_le bounded, List.find?_isSome]

end NetworkList

namespace Served

/-- No family has more networks than its list may hold. -/
structure Bounded (served : Served) : Prop where
  v4 : served.v4.length ≤ maxNetworks
  v6 : served.v6.length ≤ maxNetworks

variable {served changed : Served} {added : Bool}

/-- An address is found when a network in service covers it. -/
theorem contains_iff (bounded : served.Bounded) (address : Address) :
    served.contains address = true ↔ ∃ block ∈ served.blocks, block.covers address = true := by
  cases address with
  | v4 value =>
    rw [contains, longestMatch?, Option.isSome_map, NetworkList.isSome_longestMatch? bounded.v4]
    constructor
    · rintro ⟨network, held, inside⟩
      exact ⟨.v4 network, List.mem_append_left _ (List.mem_map_of_mem held), inside⟩
    · rintro ⟨block, held, inside⟩
      rcases List.mem_append.mp held with four | six
      · rcases List.mem_map.mp four with ⟨network, listed, rfl⟩
        exact ⟨network, listed, inside⟩
      · rcases List.mem_map.mp six with ⟨network, -, rfl⟩
        cases inside
  | v6 value =>
    rw [contains, longestMatch?, Option.isSome_map, NetworkList.isSome_longestMatch? bounded.v6]
    constructor
    · rintro ⟨network, held, inside⟩
      exact ⟨.v6 network, List.mem_append_right _ (List.mem_map_of_mem held), inside⟩
    · rintro ⟨block, held, inside⟩
      rcases List.mem_append.mp held with four | six
      · rcases List.mem_map.mp four with ⟨network, -, rfl⟩
        cases inside
      · rcases List.mem_map.mp six with ⟨network, listed, rfl⟩
        exact ⟨network, listed, inside⟩

/-- An address that no network in service covers is not found. -/
theorem contains_eq_false {address : Address}
    (outside : ∀ block ∈ served.blocks, block.covers address = false) :
    served.contains address = false := by
  have missed {width : Nat} {networks : NetworkList width} {value : BitVec width}
      (apart : ∀ network ∈ networks, network.contains value = false) :
      NetworkList.longestMatch? networks value = none := by
    apply List.find?_eq_none.mpr
    intro network taken
    rw [apart network (List.mem_of_mem_take taken)]
    exact Bool.false_ne_true
  cases address with
  | v4 value =>
    rw [contains, longestMatch?, missed]
    · rfl
    · exact fun network held =>
        outside (.v4 network) (List.mem_append_left _ (List.mem_map_of_mem held))
  | v6 value =>
    rw [contains, longestMatch?, missed]
    · rfl
    · exact fun network held =>
        outside (.v6 network) (List.mem_append_right _ (List.mem_map_of_mem held))

theorem Bounded.insert {block : Block} (bounded : served.Bounded)
    (inserted : served.insert block = .ok (added, changed)) : changed.Bounded := by
  cases block with
  | v4 network =>
    rcases map_eq_ok_iff.mp inserted with ⟨⟨new, networks⟩, found, same⟩
    cases same
    exact ⟨NetworkList.length_of_insert found bounded.v4, bounded.v6⟩
  | v6 network =>
    rcases map_eq_ok_iff.mp inserted with ⟨⟨new, networks⟩, found, same⟩
    cases same
    exact ⟨bounded.v4, NetworkList.length_of_insert found bounded.v6⟩

theorem insert_of_insertText {text : String}
    (inserted : served.insertText text = .ok (added, changed)) :
    ∃ block, served.insert block = .ok (added, changed) := by
  unfold Served.insertText at inserted
  extract_lets written at inserted
  split at inserted
  · next block _ => exact ⟨block, inserted⟩
  · cases inserted

theorem Bounded.remove (bounded : served.Bounded) (block : Block) :
    (served.remove block).2.Bounded := by
  cases block with
  | v4 network => exact ⟨Nat.le_trans NetworkList.length_remove_le bounded.v4, bounded.v6⟩
  | v6 network => exact ⟨bounded.v4, Nat.le_trans NetworkList.length_remove_le bounded.v6⟩

end Served
end DnsResponder
