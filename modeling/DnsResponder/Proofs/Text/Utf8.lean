import DnsResponder.Text.Utf8

namespace DnsResponder
namespace Text
namespace Utf8

/-!
# Text is read as it was written

The octets of a text are cut into its characters and nothing else.  A character of one octet is
complete at once.  The first octet of a longer form says how many octets follow and, where it could
begin an overlong form, a surrogate or a number that is no code point, restricts the second; a
character has none of these forms, so each of its octets is taken.  Both readings therefore give the
text back: there is no fault for one to replace and the other to give up on.
-/

variable {octet : UInt8} {rest : Bytes} {value owed low high number : Nat}

/-! ## One octet -/

/-- An octet that completes no character leaves one pending. -/
theorem pieces_first {pending : Pending} (begun : beginning octet = .inr pending) :
    pieces none (octet :: rest) = pieces (some pending) rest := by
  simp only [pieces, step, start, begun, List.nil_append]

theorem pieces_next (taken : low ≤ octet.toNat ∧ octet.toNat ≤ high) :
    pieces (some ⟨value, owed + 2, low, high⟩) (octet :: rest) =
      pieces (some ⟨value * 64 + (octet.toNat - 128), owed + 1, 128, 191⟩) rest := by
  have more : ¬ owed + 2 ≤ 1 := by omega
  simp only [pieces, step, if_pos taken, if_neg more, List.nil_append]
  rfl

/-- The last octet that is owed completes the character. -/
theorem pieces_last (taken : low ≤ octet.toNat ∧ octet.toNat ≤ high) :
    pieces (some ⟨value, 1, low, high⟩) (octet :: rest) =
      some (Char.ofNat (value * 64 + (octet.toNat - 128))) :: pieces none rest := by
  simp only [pieces, step, if_pos taken, Nat.le_refl, if_true, List.singleton_append]

theorem toNat_octet (small : number < 256) : (UInt8.ofNat number).toNat = number :=
  UInt8.toNat_ofNat_of_lt' small

/-- An octet behind the first one carries six bits. -/
theorem toNat_tail (number : Nat) : (UInt8.ofNat (number % 64 + 128)).toNat = number % 64 + 128 :=
  toNat_octet (by omega)

/-! ## First octets -/

theorem beginning_two (large : 128 ≤ number) (small : number < 2048) :
    beginning (UInt8.ofNat (number / 64 % 32 + 192)) = .inr ⟨number / 64, 1, 128, 191⟩ := by
  have octet : (UInt8.ofNat (number / 64 % 32 + 192)).toNat = number / 64 + 192 := by
    rw [toNat_octet (by omega)]
    omega
  simp only [beginning, octet]
  rw [if_neg (by omega), if_neg (by omega), if_pos (by omega), Nat.add_sub_cancel]

/-- A form of three octets is neither overlong nor a surrogate when its number is not. -/
theorem beginning_three (large : 2048 ≤ number) (small : number < 65536)
    (plain : number < 55296 ∨ 57344 ≤ number) :
    ∃ low high, beginning (UInt8.ofNat (number / 4096 % 16 + 224)) =
        .inr ⟨number / 4096, 2, low, high⟩
      ∧ low ≤ number / 64 % 64 + 128 ∧ number / 64 % 64 + 128 ≤ high := by
  have octet : (UInt8.ofNat (number / 4096 % 16 + 224)).toNat = number / 4096 + 224 := by
    rw [toNat_octet (by omega)]
    omega
  simp only [beginning, octet]
  rw [if_neg (by omega), if_neg (by omega), if_neg (by omega)]
  by_cases lowest : number / 4096 + 224 = 224
  · have zero : number / 4096 = 0 := by omega
    rw [if_pos lowest, zero]
    exact ⟨_, _, rfl, by omega, by omega⟩
  · rw [if_neg lowest]
    by_cases beforeSurrogates : number / 4096 + 224 = 237
    · have thirteen : number / 4096 = 13 := by omega
      rw [if_pos beforeSurrogates, thirteen]
      exact ⟨_, _, rfl, by omega, by omega⟩
    · rw [if_neg beforeSurrogates, if_pos (by omega), Nat.add_sub_cancel]
      exact ⟨_, _, rfl, by omega, by omega⟩

/-- A form of four octets is neither overlong nor too large when its number is not. -/
theorem beginning_four (large : 65536 ≤ number) (small : number < 1114112) :
    ∃ low high, beginning (UInt8.ofNat (number / 262144 % 8 + 240)) =
        .inr ⟨number / 262144, 3, low, high⟩
      ∧ low ≤ number / 4096 % 64 + 128 ∧ number / 4096 % 64 + 128 ≤ high := by
  have octet : (UInt8.ofNat (number / 262144 % 8 + 240)).toNat = number / 262144 + 240 := by
    rw [toNat_octet (by omega)]
    omega
  simp only [beginning, octet]
  rw [if_neg (by omega), if_neg (by omega), if_neg (by omega), if_neg (by omega), if_neg (by omega),
    if_neg (by omega)]
  by_cases lowest : number / 262144 + 240 = 240
  · have zero : number / 262144 = 0 := by omega
    rw [if_pos lowest, zero]
    exact ⟨_, _, rfl, by omega, by omega⟩
  · rw [if_neg lowest]
    by_cases highest : number / 262144 + 240 ≤ 243
    · rw [if_pos highest, Nat.add_sub_cancel]
      exact ⟨_, _, rfl, by omega, by omega⟩
    · have four : number / 262144 = 4 := by omega
      rw [if_neg highest, if_pos (by omega), four]
      exact ⟨_, _, rfl, by omega, by omega⟩

/-! ## Characters and texts -/

/-- The octets of a character are cut off as this character. -/
theorem pieces_utf8EncodeChar (char : Char) (rest : Bytes) :
    pieces none (String.utf8EncodeChar char ++ rest) = some char :: pieces none rest := by
  obtain ⟨number, shown⟩ : ∃ number, number = char.val.toNat := ⟨_, rfl⟩
  have back : Char.ofNat number = char := by
    rw [shown]
    exact Char.ofNat_toNat char
  have valid : number < 55296 ∨ 57344 ≤ number ∧ number < 1114112 := by
    rw [shown]
    exact char.valid.imp_right fun above => ⟨Nat.succ_le_of_lt above.1, above.2⟩
  rw [String.utf8EncodeChar, ← shown]
  split
  · next one =>
    have octet : (UInt8.ofNat number).toNat = number := toNat_octet (by omega)
    have begun : beginning (UInt8.ofNat number) = .inl (some char) := by
      rw [beginning, octet, ← back]
      exact if_pos one
    simp only [List.singleton_append, pieces, step, start, begun]
  · split
    · next two =>
      have large : 128 ≤ number := by omega
      have begun := beginning_two large (by omega)
      have last := toNat_tail number
      simp only [List.cons_append, List.nil_append]
      rw [pieces_first begun, pieces_last (by omega), last]
      have sum : number / 64 * 64 + (number % 64 + 128 - 128) = number := by omega
      rw [sum, back]
    · split
      · next three =>
        have large : 2048 ≤ number := by omega
        rcases beginning_three large (by omega) (by omega) with
          ⟨low, high, begun, above, below⟩
        have second := toNat_tail (number / 64)
        have last := toNat_tail number
        simp only [List.cons_append, List.nil_append]
        rw [pieces_first begun, pieces_next (by omega), pieces_last (by omega), second, last]
        have sum : (number / 4096 * 64 + (number / 64 % 64 + 128 - 128)) * 64
            + (number % 64 + 128 - 128) = number := by omega
        rw [sum, back]
      · have large : 65536 ≤ number := by omega
        rcases beginning_four large (by omega) with
          ⟨low, high, begun, above, below⟩
        have second := toNat_tail (number / 4096)
        have third := toNat_tail (number / 64)
        have last := toNat_tail number
        simp only [List.cons_append, List.nil_append]
        rw [pieces_first begun, pieces_next (by omega), pieces_next (by omega),
          pieces_last (by omega), second, third, last]
        have sum : ((number / 262144 * 64 + (number / 4096 % 64 + 128 - 128)) * 64
            + (number / 64 % 64 + 128 - 128)) * 64 + (number % 64 + 128 - 128) = number := by omega
        rw [sum, back]

/-- A text is cut into its characters, without a fault. -/
theorem pieces_encode (text : List Char) : pieces none (encode text) = text.map some := by
  induction text with
  | nil => rfl
  | cons char text ih =>
    have octets : encode (char :: text) = String.utf8EncodeChar char ++ encode text :=
      List.flatMap_cons
    rw [octets, pieces_utf8EncodeChar, ih, List.map_cons]

theorem decodeLossy_encode (text : List Char) : decodeLossy (encode text) = String.ofList text := by
  rw [decodeLossy, pieces_encode, List.map_map]
  exact congrArg String.ofList (List.map_id text)

end Utf8
end Text
end DnsResponder
