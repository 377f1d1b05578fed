import DnsResponder.Dns.Question

namespace DnsResponder
namespace Dns

/-!
# The grammar of names

A name on the wire is a run of octets and the zero that ends it.  The two policies differ in what
they let stand in the run: any octet but a zero, or whole labels, each of them a size from 1 to 63
and as many octets, zeros among them.

`NamePolicy.Reaches` says with no reference to the reading how far such a run goes and which octet
comes next.  Reading is exact for it.  A zero that is reached ends the name; by labels, an octet
above 63 that is reached in place of a size is refused; and data in which neither is reached within
the capacity holds no terminated name.
-/

/-! ## Labels -/

/-- A label of a name: from 1 to 63 octets, whatever they are. -/
structure Label where
  octets : Bytes
  nonempty : 0 < octets.length
  short : octets.length ≤ 63
deriving DecidableEq

namespace Label

/-- The octet in front of a label, which says how many octets the label has. -/
def size (label : Label) : UInt8 :=
  UInt8.ofNat label.octets.length

/-- A label on the wire. -/
def wire (label : Label) : Bytes :=
  label.size :: label.octets

theorem toNat_size (label : Label) : label.size.toNat = label.octets.length :=
  UInt8.toNat_ofNat_of_lt' (Nat.lt_of_le_of_lt label.short (by decide))

theorem size_ne_zero (label : Label) : label.size ≠ 0 := by
  intro zero
  have number := congrArg UInt8.toNat zero
  rw [toNat_size, UInt8.toNat_zero] at number
  exact absurd label.nonempty (by omega)

theorem size_inRange (label : Label) : ¬ maxLabelSize < label.size.toNat := by
  rw [toNat_size]
  exact Nat.not_lt.mpr label.short

/-- A size in range and as many octets are a label. -/
theorem exists_wire_eq {octet : UInt8} {body : Bytes} (counted : body.length = octet.toNat)
    (nonzero : octet ≠ 0) (inRange : ¬ maxLabelSize < octet.toNat) :
    ∃ label : Label, label.wire = octet :: body := by
  have positive : 0 < octet.toNat := by
    rw [Nat.pos_iff_ne_zero]
    exact fun zero => nonzero (UInt8.toNat_inj.mp zero)
  have size : UInt8.ofNat body.length = octet := by rw [counted, UInt8.ofNat_toNat]
  rw [← counted] at positive inRange
  have short : body.length ≤ 63 := Nat.not_lt.mp inRange
  exact ⟨⟨body, positive, short⟩, congrArg (· :: body) size⟩

end Label

namespace PackedName

theorem unpackLabels_owed {owed rest : Bytes} (some : owed ≠ []) (current : Bytes) :
    unpackLabels owed.length current (owed ++ rest) =
      (current ++ owed) :: unpackLabels 0 [] rest := by
  induction owed generalizing current with
  | nil => exact absurd rfl some
  | cons octet owed ih =>
    cases owed with
    | nil => rfl
    | cons next owed =>
      have onward := ih (List.cons_ne_nil next owed) (current ++ [octet])
      rw [List.append_assoc] at onward
      exact onward

/-- Labels are read back, and reading goes on behind them. -/
theorem unpackLabels_append (labels : List Label) (rest : Bytes) :
    unpackLabels 0 [] (labels.flatMap Label.wire ++ rest) =
      labels.map Label.octets ++ unpackLabels 0 [] rest := by
  induction labels with
  | nil => rfl
  | cons label labels ih =>
    rw [List.flatMap_cons, Label.wire, List.append_assoc, List.map_cons]
    simp only [List.cons_append, ← ih, unpackLabels, if_neg label.size_ne_zero, label.toNat_size]
    exact unpackLabels_owed (List.ne_nil_of_length_pos label.nonempty) []

/-- A zero in place of a size ends the labels. -/
theorem unpackLabels_labels (labels : List Label) (rest : Bytes) :
    unpackLabels 0 [] (labels.flatMap Label.wire ++ 0 :: rest) = labels.map Label.octets := by
  have ended : unpackLabels 0 [] (0 :: rest) = [] := rfl
  rw [unpackLabels_append, ended, List.append_nil]

end PackedName

/-! ## What a policy passes over -/

namespace NamePolicy

/-- The octets that a policy takes for a name. -/
def Admits : NamePolicy → Bytes → Prop
  | .toZero, name => 0 ∉ name
  | .byLabels, name => ∃ labels : List Label, name = labels.flatMap Label.wire

/-- A policy takes `name` from the front of `data` and comes to the octet `stop`, which is one of
the first 48. -/
structure Reaches (policy : NamePolicy) (data name : Bytes) (stop : UInt8) : Prop where
  admits : policy.Admits name
  short : name.length ≤ 47
  next : ∃ rest, data = name ++ stop :: rest

/-- An octet that a policy refuses where a name could go on. -/
def Refuses (policy : NamePolicy) (octet : UInt8) : Prop :=
  policy = .byLabels ∧ 63 < octet.toNat

end NamePolicy

/-! ## Reading up to a zero -/

variable {data name rest : Bytes} {policy : NamePolicy} {stop octet : UInt8}

theorem nameToZero_eq (clean : 0 ∉ name) {room : Nat} (short : name.length < room) :
    nameToZero room (name ++ 0 :: rest) = .ok name := by
  induction name generalizing room with
  | nil =>
    cases room with
    | zero => exact absurd short (Nat.not_lt_zero _)
    | succ room => exact if_pos rfl
  | cons octet name ih =>
    cases room with
    | zero => exact absurd short (Nat.not_lt_zero _)
    | succ room =>
      rw [List.mem_cons, not_or] at clean
      have onward := ih clean.2 (Nat.lt_of_succ_lt_succ short)
      rw [List.cons_append, nameToZero, if_neg (Ne.symm clean.1), onward]
      rfl

theorem nameToZero_cases (room : Nat) (data : Bytes) :
    nameToZero room data = .error .unterminatedName ∨
      ∃ name rest, 0 ∉ name ∧ name.length < room ∧ data = name ++ 0 :: rest := by
  induction room generalizing data with
  | zero => exact .inl rfl
  | succ room ih =>
    cases data with
    | nil => exact .inl rfl
    | cons octet data =>
      by_cases zero : octet = 0
      · exact .inr ⟨[], data, List.not_mem_nil, Nat.succ_pos room, congrArg (· :: data) zero⟩
      · rcases ih data with unterminated | ⟨name, rest, clean, short, rfl⟩
        · left
          rw [nameToZero, if_neg zero, unterminated]
          rfl
        · right
          refine ⟨octet :: name, rest, ?_, Nat.succ_lt_succ short, rfl⟩
          rw [List.mem_cons, not_or]
          exact ⟨Ne.symm zero, clean⟩

/-! ## Reading by labels -/

theorem nameByLabels_owed (owed : Bytes) (room : Nat) :
    nameByLabels (owed.length + room) owed.length (owed ++ rest) =
      (nameByLabels room 0 rest).map (owed ++ ·) := by
  induction owed with
  | nil =>
    rw [List.length_nil, Nat.zero_add, List.nil_append]
    cases nameByLabels room 0 rest <;> rfl
  | cons octet owed ih =>
    have room : (octet :: owed).length + room = owed.length + room + 1 := by
      rw [List.length_cons]
      omega
    rw [room, List.length_cons, List.cons_append, nameByLabels, ih]
    cases nameByLabels _ 0 rest <;> rfl

/-- Whole labels are passed over, and reading goes on behind them in the room that is left. -/
theorem nameByLabels_labels (labels : List Label) (room : Nat) :
    nameByLabels ((labels.flatMap Label.wire).length + room) 0
        (labels.flatMap Label.wire ++ rest) =
      (nameByLabels room 0 rest).map (labels.flatMap Label.wire ++ ·) := by
  induction labels with
  | nil =>
    rw [List.flatMap_nil, List.length_nil, Nat.zero_add, List.nil_append]
    cases nameByLabels room 0 rest <;> rfl
  | cons label labels ih =>
    have left : ((label :: labels).flatMap Label.wire).length + room =
        label.octets.length + ((labels.flatMap Label.wire).length + room) + 1 := by
      rw [List.flatMap_cons, List.length_append, Label.wire, List.length_cons]
      omega
    rw [left, List.flatMap_cons, Label.wire, List.append_assoc, List.cons_append, nameByLabels,
      if_neg label.size_ne_zero, if_neg label.size_inRange, label.toNat_size, nameByLabels_owed, ih]
    cases nameByLabels room 0 rest with
    | error cause => rfl
    | ok tail =>
      simp only [Except.map, List.cons_append, List.append_assoc]

/-- Reading by labels runs out of room or of octets, or it comes, behind what is owed and whole
labels, to an octet that is no size of a label. -/
theorem nameByLabels_cases (room owed : Nat) (data : Bytes) :
    nameByLabels room owed data = .error .unterminatedName ∨
      ∃ (body : Bytes) (labels : List Label) (stop : UInt8) (rest : Bytes),
        body.length = owed
        ∧ data = body ++ (labels.flatMap Label.wire ++ stop :: rest)
        ∧ body.length + (labels.flatMap Label.wire).length < room
        ∧ (stop = 0 ∨ maxLabelSize < stop.toNat) := by
  induction room generalizing owed data with
  | zero => exact .inl rfl
  | succ room ih =>
    cases data with
    | nil => exact .inl rfl
    | cons octet data =>
      cases owed with
      | succ owed =>
        rcases ih owed data with unterminated | ⟨body, labels, stop, rest, rfl, rfl, short, ends⟩
        · left
          rw [nameByLabels, unterminated]
          rfl
        · refine .inr ⟨octet :: body, labels, stop, rest, rfl, rfl, ?_, ends⟩
          rw [List.length_cons]
          omega
      | zero =>
        by_cases ends : octet = 0 ∨ maxLabelSize < octet.toNat
        · exact .inr ⟨[], [], octet, data, rfl, rfl, Nat.succ_pos room, ends⟩
        · rw [not_or] at ends
          rcases ih octet.toNat data with unterminated |
            ⟨body, labels, stop, rest, counted, rfl, short, stops⟩
          · left
            rw [nameByLabels, if_neg ends.1, if_neg ends.2, unterminated]
            rfl
          · -- the octets that were owed are the body of one more label
            rcases Label.exists_wire_eq counted ends.1 ends.2 with ⟨label, wire⟩
            refine .inr ⟨[], label :: labels, stop, rest, rfl, ?_, ?_, stops⟩
            · rw [List.flatMap_cons, wire, List.nil_append, List.append_assoc]
              rfl
            · rw [List.flatMap_cons, wire, List.length_append, List.length_cons]
              simp only [List.length_nil]
              omega

/-! ## Reading a name -/

namespace NamePolicy.Reaches

/-- A zero that is reached ends the name. -/
theorem readName_eq (reached : policy.Reaches data name 0) : readName policy data = .ok name := by
  rcases reached with ⟨admits, short, rest, rfl⟩
  have capacity : name.length < nameCapacity := Nat.lt_succ_of_le short
  cases policy with
  | toZero => exact nameToZero_eq admits capacity
  | byLabels =>
    rcases admits with ⟨labels, rfl⟩
    rcases Nat.exists_eq_add_of_lt capacity with ⟨room, split⟩
    rw [readName, split, Nat.add_assoc, nameByLabels_labels, nameByLabels, if_pos rfl]
    simp only [Except.map, List.append_nil]

/-- An octet that is reached and refused is reported. -/
theorem readName_eq_error (reached : policy.Reaches data name stop) (refused : policy.Refuses stop) :
    readName policy data = .error (.badLabelSize stop) := by
  rcases reached with ⟨admits, short, rest, rfl⟩
  rcases refused with ⟨rfl, above⟩
  rcases admits with ⟨labels, rfl⟩
  have nonzero : stop ≠ 0 := by
    rintro rfl
    exact absurd above (by decide)
  have capacity : (labels.flatMap Label.wire).length < nameCapacity := Nat.lt_succ_of_le short
  rcases Nat.exists_eq_add_of_lt capacity with ⟨room, split⟩
  have beyond : maxLabelSize < stop.toNat := above
  rw [readName, split, Nat.add_assoc, nameByLabels_labels, nameByLabels, if_neg nonzero,
    if_pos beyond]
  rfl

end NamePolicy.Reaches

/-- A name has no end, or an octet is reached that ends it or is refused. -/
theorem readName_cases (policy : NamePolicy) (data : Bytes) :
    readName policy data = .error .unterminatedName ∨
      ∃ name stop, policy.Reaches data name stop ∧ (stop = 0 ∨ policy.Refuses stop) := by
  cases policy with
  | toZero =>
    rcases nameToZero_cases nameCapacity data with unterminated | ⟨name, rest, clean, short, split⟩
    · exact .inl unterminated
    · exact .inr ⟨name, 0, ⟨clean, Nat.le_of_lt_succ short, rest, split⟩, .inl rfl⟩
  | byLabels =>
    rcases nameByLabels_cases nameCapacity 0 data with unterminated |
      ⟨body, labels, stop, rest, nothing, split, short, ends⟩
    · exact .inl unterminated
    · rcases List.eq_nil_of_length_eq_zero nothing with rfl
      rw [List.length_nil, Nat.zero_add] at short
      refine .inr ⟨_, stop, ⟨⟨labels, rfl⟩, Nat.le_of_lt_succ short, rest, split⟩, ?_⟩
      exact ends.imp_right fun above => ⟨rfl, above⟩

/-- What there is to find at the front of some octets. -/
inductive NamePolicy.Finds (policy : NamePolicy) (data : Bytes) : Except PacketError Bytes → Prop
  | name {name : Bytes} (reached : policy.Reaches data name 0) : Finds policy data (.ok name)
  | refusal {name : Bytes} {stop : UInt8} (reached : policy.Reaches data name stop)
      (refused : policy.Refuses stop) : Finds policy data (.error (.badLabelSize stop))
  | nothing (unreached : ∀ name stop, policy.Reaches data name stop →
      stop ≠ 0 ∧ ¬ policy.Refuses stop) : Finds policy data (.error .unterminatedName)

theorem finds_readName (policy : NamePolicy) (data : Bytes) :
    policy.Finds data (readName policy data) := by
  rcases readName_cases policy data with unterminated | ⟨name, stop, reached, rfl | refused⟩
  · rw [unterminated]
    refine .nothing fun name stop reached => ⟨?_, ?_⟩
    · rintro rfl
      have found := unterminated.symm.trans reached.readName_eq
      cases found
    · intro refused
      have found := unterminated.symm.trans (reached.readName_eq_error refused)
      cases found
  · rw [reached.readName_eq]
    exact .name reached
  · rw [reached.readName_eq_error refused]
    exact .refusal reached refused

/-- The names that are read are those whose final zero is reached. -/
theorem readName_eq_ok_iff : readName policy data = .ok name ↔ policy.Reaches data name 0 := by
  constructor
  · intro found
    cases found ▸ finds_readName policy data with
    | name reached => exact reached
  · exact NamePolicy.Reaches.readName_eq

theorem readName_eq_badLabelSize_iff :
    readName policy data = .error (.badLabelSize octet) ↔
      policy.Refuses octet ∧ ∃ name, policy.Reaches data name octet := by
  constructor
  · intro found
    cases found ▸ finds_readName policy data with
    | refusal reached refused => exact ⟨refused, _, reached⟩
  · rintro ⟨refused, name, reached⟩
    exact reached.readName_eq_error refused

theorem readName_eq_unterminatedName_iff :
    readName policy data = .error .unterminatedName ↔
      ∀ name stop, policy.Reaches data name stop → stop ≠ 0 ∧ ¬ policy.Refuses stop := by
  constructor
  · intro found
    cases found ▸ finds_readName policy data with
    | nothing unreached => exact unreached
  · intro unreached
    rcases readName_cases policy data with unterminated | ⟨name, stop, reached, zero | refused⟩
    · exact unterminated
    · exact absurd zero (unreached name stop reached).1
    · exact absurd refused (unreached name stop reached).2

end Dns
end DnsResponder
