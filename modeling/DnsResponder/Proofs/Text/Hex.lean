import DnsResponder.Proofs.Refusal
import DnsResponder.Text.Hex

namespace DnsResponder
namespace Text
namespace Hex

/-!
# Which texts are hexadecimal

A text is hexadecimal when its characters are digits and their number is even, and then it stands for
the octets whose halves the digits stand for.  Decoding looks at the octets of the text and not at its
characters, and takes each octet for the character of the same number.  It finds the digits of the
text all the same, and no others: a character beyond ASCII begins with an octet that is the number of
no digit.
-/

/-- A character is the digit of a value, in lower or in upper case. -/
def Denotes (c : Char) (value : Nat) : Prop :=
  "0123456789abcdef".toList[value]? = some c ∨ "0123456789ABCDEF".toList[value]? = some c
deriving Decidable

/-- The values of the digits of octets, two for each. -/
def halves (octets : Bytes) : List Nat :=
  octets.flatMap fun octet => [octet.toNat / 16, octet.toNat % 16]

/-! ## Digits -/

section Digits

variable {c : Char} {octet : UInt8} {value position : Nat}

/-- What is read as a digit is a character of ASCII. -/
theorem toNat_lt_of_digitValue? (found : digitValue? 16 c = some value) : c.toNat < 128 := by
  have read := (Option.filter_eq_some_iff.mp found).1
  split at read
  · next decimal =>
    have last : c.toNat ≤ 57 := decimal.2
    omega
  · split at read
    · next lower =>
      have last : c.toNat ≤ 102 := lower.2
      omega
    · split at read
      · next upper =>
        have last : c.toNat ≤ 70 := upper.2
        omega
      · cases read

theorem lt_of_digitValue? (found : digitValue? 16 c = some value) : value < 16 :=
  of_decide_eq_true (Option.filter_eq_some_iff.mp found).2

/-- Reading a digit is looking it up. -/
theorem denotes_iff : Denotes c value ↔ digitValue? 16 c = some value := by
  constructor
  · have lowerRow : ∀ digit ∈ "0123456789abcdef".toList.zipIdx,
        digitValue? 16 digit.1 = some digit.2 := by
      decide
    have upperRow : ∀ digit ∈ "0123456789ABCDEF".toList.zipIdx,
        digitValue? 16 digit.1 = some digit.2 := by
      decide
    rintro (lower | upper)
    · exact lowerRow (c, value) (List.mk_mem_zipIdx_iff_getElem?.mpr lower)
    · exact upperRow (c, value) (List.mk_mem_zipIdx_iff_getElem?.mpr upper)
  · intro found
    have ascii : ∀ number < 128, ∀ value ∈ digitValue? 16 (Char.ofNat number),
        Denotes (Char.ofNat number) value := by
      decide +kernel
    have here := ascii c.toNat (toNat_lt_of_digitValue? found)
    rw [Char.ofNat_toNat] at here
    exact here value found

end Digits

/-! ## Halves of octets -/

section Halves

variable {octets : Bytes} {octet : UInt8} {values : List Nat}

theorem halves_cons (octet : UInt8) (octets : Bytes) :
    halves (octet :: octets) = octet.toNat / 16 :: octet.toNat % 16 :: halves octets :=
  List.flatMap_cons

theorem length_halves (octets : Bytes) : (halves octets).length = 2 * octets.length := by
  induction octets with
  | nil => rfl
  | cons octet octets ih =>
    rw [halves_cons, List.length_cons, List.length_cons, ih, List.length_cons, Nat.mul_succ]

/-- Two halves make one octet. -/
theorem halves_of_pair {high low : Nat} (first : high < 16) (second : low < 16) (octets : Bytes) :
    halves (UInt8.ofNat (high * 16 + low) :: octets) = high :: low :: halves octets := by
  have number : (UInt8.ofNat (high * 16 + low)).toNat = high * 16 + low :=
    UInt8.toNat_ofNat_of_lt' (by rw [UInt8.size]; omega)
  have quotient : (high * 16 + low) / 16 = high := by omega
  have remainder : (high * 16 + low) % 16 = low := by omega
  rw [halves_cons, number, quotient, remainder]

theorem exists_halves : ∀ {values : List Nat}, values.length % 2 = 0 →
    (∀ value ∈ values, value < 16) → ∃ octets, halves octets = values
  | [], _, _ => ⟨[], rfl⟩
  | high :: low :: rest, even, small => by
    rw [List.length_cons, List.length_cons, Nat.add_assoc, Nat.add_mod_right] at even
    rw [List.forall_mem_cons, List.forall_mem_cons] at small
    rcases exists_halves even small.2.2 with ⟨octets, rfl⟩
    exact ⟨_, halves_of_pair small.1 small.2.1 octets⟩

end Halves

/-! ## Decoding -/

section Decoding

variable {text : List Char} {octets frame : Bytes} {octet : UInt8} {c : Char} {values : List Nat}
  {value position : Nat}

/-- The value of an octet that is the number of a digit. -/
def octetValue? (octet : UInt8) : Option Nat :=
  digitValue? 16 (Char.ofNat octet.toNat)

theorem digit_eq_ok_iff : digit octet position = .ok value ↔ octetValue? octet = some value := by
  rw [digit, octetValue?]
  split
  · next found => rw [found, Except.ok.injEq, Option.some.injEq]
  · next missing =>
    rw [missing]
    exact ⟨nofun, nofun⟩

/-- An even number of octets is decoded when each is the number of a digit. -/
theorem decodePairs_eq_ok_iff (even : octets.length % 2 = 0) :
    decodePairs position octets = .ok frame ↔
      octets.map octetValue? = (halves frame).map some := by
  induction position, octets using decodePairs.induct generalizing frame with
  | case1 position high low rest ih =>
    rw [List.length_cons, List.length_cons, Nat.add_assoc, Nat.add_mod_right] at even
    rw [decodePairs, List.map_cons, List.map_cons]
    constructor
    · intro decoded
      rcases bind_eq_ok_iff.mp decoded with ⟨first, highRead, decoded⟩
      rcases bind_eq_ok_iff.mp decoded with ⟨second, lowRead, decoded⟩
      rcases bind_eq_ok_iff.mp decoded with ⟨others, restRead, made⟩
      cases made
      rw [digit_eq_ok_iff] at highRead lowRead
      rw [halves_of_pair (lt_of_digitValue? highRead) (lt_of_digitValue? lowRead), highRead,
        lowRead, (ih even).mp restRead]
      rfl
    · intro written
      cases frame with
      | nil => cases written
      | cons octet frame =>
        rw [halves_cons, List.map_cons, List.map_cons, List.cons.injEq, List.cons.injEq] at written
        rcases written with ⟨first, second, rest⟩
        have whole : octet.toNat / 16 * 16 + octet.toNat % 16 = octet.toNat := by omega
        rw [digit_eq_ok_iff.mpr first, digit_eq_ok_iff.mpr second, (ih even).mpr rest]
        simp only [bind, Except.bind, pure, Except.pure, whole, UInt8.ofNat_toNat]
  | case2 octets position short =>
    match octets with
    | [] =>
      rw [decodePairs]
      · cases frame with
        | nil => exact ⟨fun _ => rfl, fun _ => rfl⟩
        | cons octet frame => exact ⟨nofun, nofun⟩
      · exact short
    | [octet] => cases even
    | high :: low :: rest => exact absurd rfl (short high low rest)

theorem octetValue?_ofNat (ascii : c.toNat < 128) :
    octetValue? (UInt8.ofNat c.toNat) = digitValue? 16 c := by
  have number : (UInt8.ofNat c.toNat).toNat = c.toNat :=
    UInt8.toNat_ofNat_of_lt' (Nat.lt_trans ascii (by decide))
  rw [octetValue?, number, Char.ofNat_toNat]

/-- An octet above those of ASCII is the number of no digit. -/
theorem octetValue?_eq_none (large : 128 ≤ octet.toNat) : octetValue? octet = none := by
  have small : octet.toNat < 256 := octet.toNat_lt
  have valid : octet.toNat.isValidChar := .inl (by omega)
  have number : (Char.ofNat octet.toNat).toNat = octet.toNat := by
    rw [Char.ofNat, dif_pos valid]
    rfl
  cases found : octetValue? octet with
  | none => rfl
  | some value =>
    have ascii := toNat_lt_of_digitValue? found
    omega

/-- A character beyond ASCII begins with an octet that is the number of no digit. -/
theorem exists_first (large : ¬ c.toNat < 128) :
    ∃ first rest, String.utf8EncodeChar c = first :: rest ∧ octetValue? first = none := by
  have beyond (number : Nat) (above : 128 ≤ number) (small : number < 256) :
      octetValue? (UInt8.ofNat number) = none := by
    apply octetValue?_eq_none
    rwa [UInt8.toNat_ofNat_of_lt' small]
  have single : ¬ c.val.toNat ≤ 127 := fun small => large (Nat.lt_succ_of_le small)
  rw [String.utf8EncodeChar, if_neg single]
  split
  · exact ⟨_, _, rfl, beyond _ (by omega) (by omega)⟩
  · split
    · exact ⟨_, _, rfl, beyond _ (by omega) (by omega)⟩
    · exact ⟨_, _, rfl, beyond _ (by omega) (by omega)⟩

/-- The octets of a text are the numbers of digits when its characters are, and then of the same
ones. -/
theorem octetValues_encode (text : List Char) (values : List Nat) :
    (Utf8.encode text).map octetValue? = values.map some ↔
      text.map (digitValue? 16) = values.map some := by
  induction text generalizing values with
  | nil => exact Iff.rfl
  | cons c text ih =>
    have split : Utf8.encode (c :: text) = String.utf8EncodeChar c ++ Utf8.encode text :=
      List.flatMap_cons
    rw [split, List.map_append, List.map_cons]
    by_cases ascii : c.toNat < 128
    · have single : String.utf8EncodeChar c = [UInt8.ofNat c.toNat] :=
        if_pos (Nat.le_of_lt_succ ascii)
      rw [single, List.map_singleton, List.singleton_append, octetValue?_ofNat ascii]
      cases values with
      | nil => exact ⟨nofun, nofun⟩
      | cons value values => rw [List.map_cons, List.cons.injEq, List.cons.injEq, ih]
    · rcases exists_first ascii with ⟨first, rest, octets, missing⟩
      have none : digitValue? 16 c = none := by
        rw [Option.eq_none_iff_forall_ne_some]
        exact fun value found => ascii (toNat_lt_of_digitValue? found)
      rw [octets, List.map_cons, List.cons_append, missing, none]
      cases values with
      | nil => exact ⟨nofun, nofun⟩
      | cons value values => exact ⟨nofun, nofun⟩

/-- Digits of octets are twice as many as the octets. -/
theorem length_of_digits {α : Type} {digits : List α} {read : α → Option Nat}
    (written : digits.map read = (halves frame).map some) : digits.length = 2 * frame.length := by
  rw [← length_halves, ← List.length_map (f := read), written, List.length_map]

/-- A text is decoded when its characters are the digits of the halves of octets. -/
theorem decode_eq_ok_iff :
    decode text = .ok frame ↔ text.map (digitValue? 16) = (halves frame).map some := by
  rw [← octetValues_encode, decode]
  split
  · next odd =>
    refine ⟨nofun, fun written => ?_⟩
    have size := length_of_digits written
    omega
  · next even => exact decodePairs_eq_ok_iff (by omega)

/-- Digits have values, which are halves. -/
theorem exists_values (digits : ∀ c ∈ text, ∃ value, Denotes c value) :
    ∃ values : List Nat,
      text.map (digitValue? 16) = values.map some ∧ ∀ value ∈ values, value < 16 := by
  induction text with
  | nil => exact ⟨[], rfl, nofun⟩
  | cons c text ih =>
    rw [List.forall_mem_cons] at digits
    rcases digits.1 with ⟨value, denotes⟩
    rcases ih digits.2 with ⟨values, read, small⟩
    have here := denotes_iff.mp denotes
    refine ⟨value :: values, ?_, List.forall_mem_cons.mpr ⟨lt_of_digitValue? here, small⟩⟩
    rw [List.map_cons, List.map_cons, here, read]

/-- A text is decoded when its characters are digits and their number is even. -/
theorem exists_decode_iff : (∃ frame, decode text = .ok frame) ↔
    text.length % 2 = 0 ∧ ∀ c ∈ text, ∃ value, Denotes c value := by
  constructor
  · rintro ⟨frame, decoded⟩
    have written := decode_eq_ok_iff.mp decoded
    have size := length_of_digits written
    refine ⟨by omega, fun c member => ?_⟩
    have read : digitValue? 16 c ∈ (halves frame).map some :=
      written ▸ List.mem_map_of_mem member
    rcases List.mem_map.mp read with ⟨value, -, found⟩
    exact ⟨value, denotes_iff.mpr found.symm⟩
  · rintro ⟨even, digits⟩
    rcases exists_values digits with ⟨values, read, small⟩
    have size : values.length = text.length := by
      rw [← List.length_map (f := digitValue? 16), read, List.length_map]
    rcases exists_halves (size ▸ even) small with ⟨frame, rfl⟩
    exact ⟨frame, decode_eq_ok_iff.mpr read⟩

end Decoding

end Hex
end Text
end DnsResponder
