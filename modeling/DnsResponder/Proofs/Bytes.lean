import Mathlib.Algebra.Group.Nat.Defs
import Mathlib.Data.List.Induction
import DnsResponder.Address.Basic

namespace DnsResponder
namespace Bytes

/-!
# Octets put together from parts

A frame is read and written at offsets, but what it means is a sequence of fields.  The lemmas here
lead from one to the other.  Wherever a part stands in a longer list, reading at its offset finds
that part, and writing over it replaces the part and leaves its neighbours as they were.

Numbers are written in a fixed number of octets, so each field of a header has a size that does not
depend on its value, and every list of that size is some field.
-/

variable {data front part back : Bytes} {offset size : Nat}

/-! ## Reading and writing a part -/

/-- Reading where a part stands finds it. -/
theorem slice?_of_split (split : data = front ++ (part ++ back)) (start : front.length = offset)
    (extent : part.length = size) : data.slice? offset size = some part := by
  subst split start extent
  have inside : front.length + part.length ≤ (front ++ (part ++ back)).length := by
    simp only [List.length_append]
    omega
  rw [slice?_of_le inside, List.drop_left, List.take_left]

theorem slice?_behind (split : data = front ++ back) (start : front.length = offset) (within : Nat) :
    data.slice? (offset + within) size = back.slice? within size := by
  subst split start
  have inside : front.length + within + size ≤ (front ++ back).length ↔
      within + size ≤ back.length := by
    rw [List.length_append, Nat.add_assoc, Nat.add_le_add_iff_left]
  rw [slice?, slice?, ← List.drop_drop, List.drop_left]
  exact if_congr inside rfl rfl

theorem split_of_slice? (found : data.slice? offset size = some part) :
    ∃ front back, data = front ++ (part ++ back) ∧ front.length = offset := by
  simp only [slice?, Option.ite_none_right_eq_some, Option.some.injEq] at found
  rcases found with ⟨inside, rfl⟩
  refine ⟨data.take offset, (data.drop offset).drop size, ?_, ?_⟩
  · rw [List.take_append_drop, List.take_append_drop]
  · exact List.length_take_of_le (Nat.le_trans (Nat.le_add_right offset size) inside)

/-- A front of the data holds the octets between two offsets exactly when it reaches so far. -/
theorem slice?_of_front (isFront : front <+: data) (start size : Nat) :
    front.slice? start size =
      if start + size ≤ front.length then some (data.extract start (start + size)) else none := by
  rcases isFront with ⟨rest, rfl⟩
  rw [slice?]
  split
  · next inside =>
    have started : start ≤ front.length := Nat.le_trans (Nat.le_add_right start size) inside
    have enough : size ≤ (front.drop start).length := by
      rw [List.length_drop]
      omega
    rw [List.extract_eq_take_drop, Nat.add_sub_cancel_left,
      List.drop_append_of_le_length started, List.take_append_of_le_length enough]
  · rfl

/-- A front of the data and the octets behind it are a longer front. -/
theorem take_append_extract (data : Bytes) (start size : Nat) :
    data.take start ++ data.extract start (start + size) = data.take (start + size) := by
  rw [List.extract_eq_take_drop, Nat.add_sub_cancel_left, List.take_add]

theorem patch?_of_split {old new : Bytes} (split : data = front ++ (old ++ back))
    (start : front.length = offset) (same : new.length = old.length) :
    data.patch? offset new = some (front ++ (new ++ back)) := by
  subst split start
  have inside : front.length + new.length ≤ (front ++ (old ++ back)).length := by
    simp only [List.length_append]
    omega
  rw [patch?, if_pos inside, List.take_left, ← List.drop_drop, List.drop_left, same, List.drop_left,
    List.append_assoc]

theorem swapAdjacent?_of_split {first second : Bytes}
    (split : data = front ++ (first ++ (second ++ back))) (start : front.length = offset)
    (firstSize : first.length = size) (secondSize : second.length = size) :
    data.swapAdjacent? offset size = some (front ++ (second ++ (first ++ back))) := by
  have atFirst : data.slice? offset size = some first := slice?_of_split split start firstSize
  have atSecond : data.slice? (offset + size) size = some second :=
    slice?_of_split (split.trans (List.append_assoc ..).symm)
      (by rw [List.length_append, start, firstSize]) secondSize
  have written : data.patch? offset (second ++ first) = some (front ++ (second ++ first ++ back)) :=
    patch?_of_split (split.trans (congrArg (front ++ ·) (List.append_assoc first ..).symm)) start
      (by simp only [List.length_append, firstSize, secondSize])
  simp only [swapAdjacent?, atFirst, atSecond, Option.bind_eq_bind, Option.bind_some, written,
    List.append_assoc]

/-- Two lists that differ in a part of one size are a write apart. -/
theorem patch?_between {old new written : Bytes} (split : data = front ++ (old ++ back))
    (result : written = front ++ (new ++ back)) (start : front.length = offset)
    (same : new.length = old.length) : data.patch? offset new = some written := by
  rw [result]
  exact patch?_of_split split start same

/-- Two lists that differ in the order of two neighbours of one size are an exchange apart. -/
theorem swapAdjacent?_between {first second written : Bytes}
    (split : data = front ++ (first ++ (second ++ back)))
    (result : written = front ++ (second ++ (first ++ back))) (start : front.length = offset)
    (firstSize : first.length = size) (secondSize : second.length = size) :
    data.swapAdjacent? offset size = some written := by
  rw [result]
  exact swapAdjacent?_of_split split start firstSize secondSize

/-- A part can be replaced by one of its size without a change of any other octet. -/
theorem getElem?_around {other : Bytes} (same : part.length = other.length) {place : Nat}
    (outside : place < front.length ∨ front.length + part.length ≤ place) :
    (front ++ (part ++ back))[place]? = (front ++ (other ++ back))[place]? := by
  rcases outside with inFront | behind
  · rw [List.getElem?_append_left inFront, List.getElem?_append_left inFront]
  · have before : front.length ≤ place := Nat.le_trans (Nat.le_add_right ..) behind
    have passed : part.length ≤ place - front.length := Nat.le_sub_of_add_le' behind
    rw [List.getElem?_append_right before, List.getElem?_append_right before,
      List.getElem?_append_right passed, List.getElem?_append_right (same ▸ passed), same]

/-- Writing changes no octet beside those written over. -/
theorem getElem?_of_patch? {new written : Bytes} (patched : data.patch? offset new = some written)
    {place : Nat} (outside : place < offset ∨ offset + new.length ≤ place) :
    written[place]? = data[place]? := by
  simp only [patch?, Option.ite_none_right_eq_some, Option.some.injEq] at patched
  rcases patched with ⟨inside, rfl⟩
  have start : (data.take offset).length = offset := List.length_take_of_le (by omega)
  have extent : new.length = ((data.drop offset).take new.length).length := by
    rw [List.length_take, List.length_drop]
    omega
  have split : data = data.take offset ++ ((data.drop offset).take new.length
      ++ data.drop (offset + new.length)) := by
    rw [← List.drop_drop, List.take_append_drop, List.take_append_drop]
  conv => rhs; rw [split]
  rw [List.append_assoc]
  exact getElem?_around extent (start.symm ▸ outside)

/-! ## Reading and writing inside a part -/

variable {within : Nat} {written : Bytes}

theorem slice?_inside {found : Bytes} (split : data = front ++ (part ++ back))
    (start : front.length = offset) (inside : part.slice? within size = some found) :
    data.slice? (offset + within) size = some found := by
  rcases split_of_slice? inside with ⟨before, after, rfl, atWithin⟩
  have splitWithin : data = (front ++ before) ++ (found ++ (after ++ back)) := by
    rw [split]
    simp only [List.append_assoc]
  exact slice?_of_split splitWithin (by rw [List.length_append, start, atWithin])
    (length_of_slice? inside)

theorem patch?_inside {new : Bytes} (split : data = front ++ (part ++ back))
    (start : front.length = offset) (inside : part.patch? within new = some written) :
    data.patch? (offset + within) new = some (front ++ (written ++ back)) := by
  simp only [patch?, Option.ite_none_right_eq_some, Option.some.injEq] at inside
  rcases inside with ⟨fits, rfl⟩
  have cut : part = part.take within ++ ((part.drop within).take new.length
      ++ part.drop (within + new.length)) := by
    rw [← List.drop_drop, List.take_append_drop, List.take_append_drop]
  have atWithin : (part.take within).length = within :=
    List.length_take_of_le (Nat.le_trans (Nat.le_add_right _ _) fits)
  have splitWithin : data = (front ++ part.take within) ++ ((part.drop within).take new.length
      ++ (part.drop (within + new.length) ++ back)) := by
    rw [split]
    conv => lhs; rw [cut]
    simp only [List.append_assoc]
  have same : new.length = ((part.drop within).take new.length).length := by
    rw [List.length_take, List.length_drop]
    omega
  rw [patch?_of_split splitWithin (by rw [List.length_append, start, atWithin]) same]
  simp only [List.append_assoc]

theorem swapAdjacent?_inside (split : data = front ++ (part ++ back))
    (start : front.length = offset) (inside : part.swapAdjacent? within size = some written) :
    data.swapAdjacent? (offset + within) size = some (front ++ (written ++ back)) := by
  simp only [swapAdjacent?, Option.bind_eq_bind, Option.bind_eq_some_iff] at inside
  rcases inside with ⟨first, atFirst, second, atSecond, replaced⟩
  have here := slice?_inside split start atFirst
  have there := slice?_inside split start atSecond
  rw [← Nat.add_assoc] at there
  simp only [swapAdjacent?, here, there, Option.bind_eq_bind, Option.bind_some]
  exact patch?_inside split start replaced

/-! ## Numbers of a fixed size -/

theorem toNat_append_singleton (octets : Bytes) (octet : UInt8) :
    toNat (octets ++ [octet]) = toNat octets * 256 + octet.toNat := by
  simp only [toNat, List.foldl_append, List.foldl_cons, List.foldl_nil]

/-- So many octets write a number below so many powers of 256. -/
theorem toNat_lt (octets : Bytes) : toNat octets < 256 ^ octets.length := by
  induction octets using List.reverseRecOn with
  | nil => decide
  | append_singleton octets octet ih =>
    have small : octet.toNat < 256 := octet.toNat_lt
    rw [toNat_append_singleton, List.length_append, List.length_singleton, Nat.pow_succ]
    omega

/-- Every list of octets is the number that it writes. -/
theorem ofNat_toNat (octets : Bytes) : ofNat octets.length (toNat octets) = octets := by
  induction octets using List.reverseRecOn with
  | nil => rfl
  | append_singleton octets octet ih =>
    have small : octet.toNat < 256 := octet.toNat_lt
    have front : (toNat octets * 256 + octet.toNat) / 256 = toNat octets := by omega
    have last : UInt8.ofNat (toNat octets * 256 + octet.toNat) = octet := by
      apply UInt8.toNat_inj.mp
      rw [UInt8.toNat_ofNat']
      omega
    rw [List.length_append, List.length_singleton, toNat_append_singleton, ofNat, front, last, ih]

theorem toNat_ofNat (size number : Nat) (fits : number < 256 ^ size) :
    toNat (ofNat size number) = number := by
  induction size generalizing number with
  | zero =>
    have none : number = 0 := by simpa only [Nat.pow_zero, Nat.lt_one_iff] using fits
    rw [none]
    rfl
  | succ size ih =>
    have smaller : number / 256 < 256 ^ size := by
      rw [Nat.div_lt_iff_lt_mul (by decide), ← Nat.pow_succ]
      exact fits
    rw [ofNat, toNat_append_singleton, ih _ smaller, UInt8.toNat_ofNat']
    omega

theorem ofWord_eq (value : UInt16) :
    ofWord value = [UInt8.ofNat (value.toNat / 256), UInt8.ofNat value.toNat] := rfl

@[simp]
theorem ofWord_word (high low : UInt8) : ofWord (word high low) = [high, low] := by
  have highSmall : high.toNat < 256 := high.toNat_lt
  have lowSmall : low.toNat < 256 := low.toNat_lt
  have number : (word high low).toNat = high.toNat * 256 + low.toNat := by
    rw [word, UInt16.toNat_ofNat']
    omega
  rw [ofWord_eq, number]
  congr 1
  · apply UInt8.toNat_inj.mp
    rw [UInt8.toNat_ofNat']
    omega
  · congr 1
    apply UInt8.toNat_inj.mp
    rw [UInt8.toNat_ofNat']
    omega

theorem word_octets (value : UInt16) :
    word (UInt8.ofNat (value.toNat / 256)) (UInt8.ofNat value.toNat) = value := by
  have small : value.toNat < 65536 := value.toNat_lt
  apply UInt16.toNat_inj.mp
  rw [word, UInt16.toNat_ofNat', UInt8.toNat_ofNat', UInt8.toNat_ofNat']
  omega

@[simp]
theorem ofWord_inj {first second : UInt16} : ofWord first = ofWord second ↔ first = second := by
  constructor
  · intro same
    rw [ofWord_eq, ofWord_eq, List.cons.injEq, List.cons.injEq] at same
    rw [← word_octets first, same.1, same.2.1, word_octets second]
  · exact congrArg ofWord

theorem ofWord_append_inj {first second : UInt16} {rest others : Bytes} :
    ofWord first ++ rest = ofWord second ++ others ↔ first = second ∧ rest = others := by
  rw [List.append_eq_append_iff_of_size_eq_left (by rw [length_ofWord, length_ofWord]), ofWord_inj]

/-! ## Cutting a field off the front -/

theorem exists_octet (size : Nat) (octets : Bytes) (long : octets.length = size + 1) :
    ∃ octet rest, octets = octet :: rest ∧ rest.length = size := by
  cases octets with
  | nil => cases long
  | cons octet rest => exact ⟨octet, rest, rfl, Nat.succ.inj long⟩

theorem exists_word (size : Nat) (octets : Bytes) (long : octets.length = size + 2) :
    ∃ value rest, octets = ofWord value ++ rest ∧ rest.length = size := by
  rcases exists_octet (size + 1) octets long with ⟨high, afterHigh, rfl, oneLess⟩
  rcases exists_octet size afterHigh oneLess with ⟨low, rest, rfl, twoLess⟩
  exact ⟨word high low, rest, by rw [ofWord_word]; rfl, twoLess⟩

theorem exists_part (count size : Nat) (octets : Bytes) (long : octets.length = count + size) :
    ∃ part rest, octets = part ++ rest ∧ part.length = count ∧ rest.length = size :=
  ⟨octets.take count, octets.drop count, (List.take_append_drop ..).symm,
    List.length_take_of_le (by omega), by rw [List.length_drop]; omega⟩

end Bytes

namespace Address

theorem octets_read (kind : Family) (octets : Bytes) (whole : octets.length = kind.addressSize) :
    (read kind octets).octets = octets := by
  have small := Bytes.toNat_lt octets
  have again := Bytes.ofNat_toNat octets
  rw [whole] at small again
  cases kind with
  | v4 =>
    rw [read, Address.octets, octetsV4, ofOctets, BitVec.toNat_ofNat,
      Nat.mod_eq_of_lt (show octets.toNat < 2 ^ 32 from small)]
    exact again
  | v6 =>
    rw [read, Address.octets, octetsV6, ofOctets, BitVec.toNat_ofNat,
      Nat.mod_eq_of_lt (show octets.toNat < 2 ^ 128 from small)]
    exact again

theorem exists_v4 (size : Nat) (octets : Bytes) (long : octets.length = 4 + size) :
    ∃ (value : BitVec 32) (rest : Bytes), octets = octetsV4 value ++ rest ∧ rest.length = size := by
  rcases Bytes.exists_part 4 size octets long with ⟨part, rest, rfl, whole, short⟩
  exact ⟨ofOctets 32 part, rest, congrArg (· ++ rest) (octets_read .v4 part whole).symm, short⟩

theorem exists_v6 (size : Nat) (octets : Bytes) (long : octets.length = 16 + size) :
    ∃ (value : BitVec 128) (rest : Bytes), octets = octetsV6 value ++ rest ∧ rest.length = size := by
  rcases Bytes.exists_part 16 size octets long with ⟨part, rest, rfl, whole, short⟩
  exact ⟨ofOctets 128 part, rest, congrArg (· ++ rest) (octets_read .v6 part whole).symm, short⟩

theorem read_octets (address : Address) : read address.family address.octets = address := by
  cases address with
  | v4 value =>
    rw [family, octets, read, octetsV4, ofOctets, Bytes.toNat_ofNat 4 _ value.isLt,
      BitVec.ofNat_toNat, BitVec.setWidth_eq]
  | v6 value =>
    rw [family, octets, read, octetsV6, ofOctets, Bytes.toNat_ofNat 16 _ value.isLt,
      BitVec.ofNat_toNat, BitVec.setWidth_eq]

theorem octets_inj {first second : Address} (same : first.family = second.family) :
    first.octets = second.octets ↔ first = second := by
  constructor
  · intro equal
    rw [← read_octets first, equal, same, read_octets second]
  · exact congrArg octets

theorem octetsV4_inj {first second : BitVec 32} :
    octetsV4 first = octetsV4 second ↔ first = second :=
  (@octets_inj (.v4 first) (.v4 second) rfl).trans (by rw [Address.v4.injEq])

theorem octetsV6_inj {first second : BitVec 128} :
    octetsV6 first = octetsV6 second ↔ first = second :=
  (@octets_inj (.v6 first) (.v6 second) rfl).trans (by rw [Address.v6.injEq])

theorem octetsV4_append_inj {first second : BitVec 32} {rest others : Bytes} :
    octetsV4 first ++ rest = octetsV4 second ++ others ↔ first = second ∧ rest = others := by
  have sizes : (octetsV4 first).length = (octetsV4 second).length := rfl
  rw [List.append_eq_append_iff_of_size_eq_left sizes, octetsV4_inj]

theorem octetsV6_append_inj {first second : BitVec 128} {rest others : Bytes} :
    octetsV6 first ++ rest = octetsV6 second ++ others ↔ first = second ∧ rest = others := by
  have sizes : (octetsV6 first).length = (octetsV6 second).length := by
    rw [octetsV6, octetsV6, Bytes.length_ofNat, Bytes.length_ofNat]
  rw [List.append_eq_append_iff_of_size_eq_left sizes, octetsV6_inj]

end Address
end DnsResponder
