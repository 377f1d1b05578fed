import DnsResponder.Proofs.Served.LongestMatch
import DnsResponder.Proofs.Transcript
import Mathlib.Data.Finset.Card

namespace DnsResponder
namespace Served

/-!
# Served networks as a set of blocks

Taking blocks into service and out of it can be told without lists and their order: what is in
service is a set of blocks with their host bits cleared, and each family has room for `maxNetworks`
of them.  `Change.onSet` says so.  The lists answer every history of changes as the set does and hold
the same blocks, and a lookup is determined by the set alone, however it came about.
-/

/-- A change of what is served. -/
inductive Change
  | insert (block : Block)
  | remove (block : Block)

/-- What a change is answered. -/
inductive Told
  | inserted (new : Bool)
  | refused (cause : ServeError)
  | removed (present : Bool)
deriving DecidableEq

def Change.run (change : Change) (served : Served) : Told × Served :=
  match change with
  | .insert block =>
    match served.insert block with
    | .ok (new, changed) => (.inserted new, changed)
    | .error cause => (.refused cause, served)
  | .remove block => (.removed (served.remove block).1, (served.remove block).2)

/-- The blocks of one family in a set. -/
def ofFamily (blocks : Finset Block) (family : Family) : Finset Block :=
  blocks.filter fun block => block.family = family

/-- What a change does to a set of blocks.  A block that is there already is found even when its
family is full. -/
def Change.onSet (change : Change) (blocks : Finset Block) : Told × Finset Block :=
  match change with
  | .insert block =>
    if block.canonical ∈ blocks then (.inserted false, blocks)
    else if maxNetworks ≤ (ofFamily blocks block.family).card then (.refused .full, blocks)
    else (.inserted true, Insert.insert block.canonical blocks)
  | .remove block => (.removed (decide (block.canonical ∈ blocks)), blocks.erase block.canonical)

/-- What is served after a history of changes. -/
def after (changes : List Change) : Served :=
  (transcript Change.run changes {}).2

/-- The set of blocks after a history of changes. -/
def setAfter (changes : List Change) : Finset Block :=
  (transcript Change.onSet changes ∅).2

/-! ## Counting a family -/

variable {served changed : Served}

theorem nodup_blocks (orderly : served.Orderly) : served.blocks.Nodup := by
  refine List.nodup_append.mpr ⟨?_, ?_, ?_⟩
  · exact orderly.v4.distinct.map fun _ _ => Block.v4.inj
  · exact orderly.v6.distinct.map fun _ _ => Block.v6.inj
  · intro first four second six
    rcases List.mem_map.mp four with ⟨network, -, rfl⟩
    rcases List.mem_map.mp six with ⟨other, -, rfl⟩
    exact Block.noConfusion

/-- How many networks of a family are in service. -/
def count (served : Served) : Family → Nat
  | .v4 => served.v4.length
  | .v6 => served.v6.length

theorem card_ofFamily (orderly : served.Orderly) (family : Family) :
    (ofFamily served.blocks.toFinset family).card = served.count family := by
  have listed : ofFamily served.blocks.toFinset family =
      (served.blocks.filter fun block => block.family = family).toFinset := by
    ext block
    simp only [ofFamily, Finset.mem_filter, List.mem_toFinset, List.mem_filter, decide_eq_true_eq]
  rw [listed, List.toFinset_card_of_nodup ((nodup_blocks orderly).filter _), blocks,
    List.filter_append, List.filter_map, List.filter_map, List.length_append, List.length_map,
    List.length_map]
  cases family with
  | v4 => simp [Function.comp_def, Block.family, count]
  | v6 => simp [Function.comp_def, Block.family, count]

/-! ## One change -/

/-- What taking a block into service can come to. -/
theorem Orderly.insert_cases (orderly : served.Orderly) (block : Block) :
    (block.canonical ∈ served.blocks ∧ served.insert block = .ok (false, served))
    ∨ (block.canonical ∉ served.blocks ∧ maxNetworks ≤ served.count block.family
      ∧ served.insert block = .error .full)
    ∨ (block.canonical ∉ served.blocks ∧ served.count block.family < maxNetworks
      ∧ ∃ changed, served.insert block = .ok (true, changed) ∧ changed.Orderly
        ∧ ∀ other, other ∈ changed.blocks ↔ other = block.canonical ∨ other ∈ served.blocks) := by
  cases block with
  | v4 network =>
    rcases orderly.v4.insert_cases network with
      ⟨present, same⟩ | ⟨absent, full, refused⟩ | ⟨absent, room, placed, kept⟩
    · exact .inl ⟨mem_blocks_v4.mpr present, by rw [Served.insert, same]; rfl⟩
    · exact .inr (.inl ⟨mt mem_blocks_v4.mp absent, full, by rw [Served.insert, refused]; rfl⟩)
    · refine .inr (.inr ⟨mt mem_blocks_v4.mp absent, room,
        { served with v4 := NetworkList.place network.canonical served.v4 },
        by rw [Served.insert, placed]; rfl, ⟨kept, orderly.v6⟩, ?_⟩)
      rintro (other | other)
      · simp only [mem_blocks_v4, NetworkList.mem_place, Block.canonical, Block.v4.injEq]
      · simp only [mem_blocks_v6, Block.canonical, reduceCtorEq, false_or]
  | v6 network =>
    rcases orderly.v6.insert_cases network with
      ⟨present, same⟩ | ⟨absent, full, refused⟩ | ⟨absent, room, placed, kept⟩
    · exact .inl ⟨mem_blocks_v6.mpr present, by rw [Served.insert, same]; rfl⟩
    · exact .inr (.inl ⟨mt mem_blocks_v6.mp absent, full, by rw [Served.insert, refused]; rfl⟩)
    · refine .inr (.inr ⟨mt mem_blocks_v6.mp absent, room,
        { served with v6 := NetworkList.place network.canonical served.v6 },
        by rw [Served.insert, placed]; rfl, ⟨orderly.v4, kept⟩, ?_⟩)
      rintro (other | other)
      · simp only [mem_blocks_v4, Block.canonical, reduceCtorEq, false_or]
      · simp only [mem_blocks_v6, NetworkList.mem_place, Block.canonical, Block.v6.injEq]

/-- Taking a block out of service removes it and no other. -/
theorem Orderly.remove (orderly : served.Orderly) (block : Block) :
    (served.remove block).1 = decide (block.canonical ∈ served.blocks)
      ∧ (served.remove block).2.Orderly
      ∧ ∀ other, other ∈ (served.remove block).2.blocks ↔
          other ≠ block.canonical ∧ other ∈ served.blocks := by
  cases block with
  | v4 network =>
    refine ⟨decide_eq_decide.mpr mem_blocks_v4.symm, ⟨orderly.v4.remove network, orderly.v6⟩, ?_⟩
    rintro (other | other)
    · rw [mem_blocks_v4, mem_blocks_v4, Block.canonical, ne_eq, Block.v4.injEq]
      exact NetworkList.mem_remove
    · rw [mem_blocks_v6, mem_blocks_v6]
      exact (and_iff_right Block.noConfusion).symm
  | v6 network =>
    refine ⟨decide_eq_decide.mpr mem_blocks_v6.symm, ⟨orderly.v4, orderly.v6.remove network⟩, ?_⟩
    rintro (other | other)
    · rw [mem_blocks_v4, mem_blocks_v4]
      exact (and_iff_right Block.noConfusion).symm
    · rw [mem_blocks_v6, mem_blocks_v6, Block.canonical, ne_eq, Block.v6.injEq]
      exact NetworkList.mem_remove

/-- The lists are as they should be and hold the blocks of the set. -/
structure Mirrors (served : Served) (blocks : Finset Block) : Prop where
  orderly : served.Orderly
  same : served.blocks.toFinset = blocks

variable {blocks : Finset Block}

theorem Mirrors.mem_iff (mirrors : served.Mirrors blocks) {block : Block} :
    block ∈ blocks ↔ block ∈ served.blocks := by
  rw [← mirrors.same, List.mem_toFinset]

/-- Lists and sets answer a change alike and stay alike. -/
theorem Mirrors.change (mirrors : served.Mirrors blocks) (change : Change) :
    Matches Mirrors (change.run served) (change.onSet blocks) := by
  cases change with
  | insert block =>
    have count : (ofFamily blocks block.family).card = served.count block.family := by
      rw [← mirrors.same]
      exact card_ofFamily mirrors.orderly block.family
    rcases mirrors.orderly.insert_cases block with
      ⟨present, kept⟩ | ⟨absent, full, refused⟩ | ⟨absent, room, changed, placed, orderly, members⟩
    · rw [Change.run, kept, Change.onSet, if_pos (mirrors.mem_iff.mpr present)]
      exact ⟨rfl, mirrors⟩
    · rw [Change.run, refused, Change.onSet, if_neg (mt mirrors.mem_iff.mp absent),
        if_pos (count ▸ full)]
      exact ⟨rfl, mirrors⟩
    · rw [Change.run, placed, Change.onSet, if_neg (mt mirrors.mem_iff.mp absent),
        if_neg (Nat.not_le.mpr (count ▸ room))]
      refine ⟨rfl, orderly, ?_⟩
      ext other
      rw [List.mem_toFinset, members, Finset.mem_insert, mirrors.mem_iff]
  | remove block =>
    rcases mirrors.orderly.remove block with ⟨told, orderly, members⟩
    rw [Change.run, Change.onSet]
    refine ⟨?_, orderly, ?_⟩
    · simp only [told, mirrors.mem_iff]
    · ext other
      rw [List.mem_toFinset, members, Finset.mem_erase, mirrors.mem_iff]

/-! ## Whole histories -/

theorem mirrors_after (changes : List Change) :
    (transcript Change.run changes {}).1 = (transcript Change.onSet changes ∅).1
      ∧ (after changes).Mirrors (setAfter changes) :=
  matches_transcript (fun change _ _ mirrors => mirrors.change change) changes ⟨orderly_empty, rfl⟩

/-- After any history of changes the lists are orderly and hold just the blocks that the set holds,
having answered each change as the set did.  A lookup finds the longest of the blocks that cover the
address, and nothing when there is none; so histories that end in the same blocks answer every lookup
alike. -/
theorem serves_as_set (changes : List Change) :
    (transcript Change.run changes {}).1 = (transcript Change.onSet changes ∅).1
    ∧ (after changes).Orderly
    ∧ (after changes).blocks.toFinset = setAfter changes
    ∧ (∀ address : Address,
      (∀ found, (after changes).longestMatch? address = some found ↔
        IsLongest (· ∈ setAfter changes) address found)
      ∧ ((after changes).longestMatch? address = none ↔
        ∀ block ∈ setAfter changes, block.covers address = false))
    ∧ ∀ others : List Change,
      (after others).blocks.toFinset = (after changes).blocks.toFinset →
        ∀ address : Address,
          (after others).longestMatch? address = (after changes).longestMatch? address
          ∧ (after others).contains address = (after changes).contains address := by
  rcases mirrors_after changes with ⟨told, mirrors⟩
  have held : (· ∈ setAfter changes) = (· ∈ (after changes).blocks) := by
    funext block
    exact propext mirrors.mem_iff
  refine ⟨told, mirrors.orderly, mirrors.same, ?_, ?_⟩
  · intro address
    refine ⟨fun found => ?_, ?_⟩
    · rw [held]
      exact mirrors.orderly.longestMatch?_eq_some_iff
    · simp only [mirrors.mem_iff]
      exact mirrors.orderly.longestMatch?_eq_none_iff
  · intro others same address
    have orderly := (mirrors_after others).2.orderly
    have alike : (· ∈ (after others).blocks) = (· ∈ (after changes).blocks) := by
      funext block
      rw [← List.mem_toFinset, same, List.mem_toFinset]
    have found : (after others).longestMatch? address = (after changes).longestMatch? address := by
      apply Option.ext
      intro block
      rw [orderly.longestMatch?_eq_some_iff, mirrors.orderly.longestMatch?_eq_some_iff, alike]
    exact ⟨found, congrArg Option.isSome found⟩

/-- 10.0.0.0/8 and 10.1.0.0/16, the latter written with host bits set, end in the same blocks in
either order, and an address in both is found in the longer one. -/
theorem serves_alike_in_either_order :
    let wide : Block := .v4 ⟨0x0A000000, 8, by decide⟩
    let narrow : Block := .v4 ⟨0x0A010203, 16, by decide⟩
    let first := after [.insert wide, .insert narrow]
    let second := after [.insert narrow, .insert wide]
    second.blocks.toFinset = first.blocks.toFinset
    ∧ second.longestMatch? (.v4 0x0A010909) = first.longestMatch? (.v4 0x0A010909)
    ∧ first.longestMatch? (.v4 0x0A010909) = some narrow.canonical := by
  intro wide narrow first second
  have same : second.blocks.toFinset = first.blocks.toFinset := by decide
  exact ⟨same, ((serves_as_set _).2.2.2.2 _ same (.v4 0x0A010909)).1, by decide⟩

end Served
end DnsResponder
