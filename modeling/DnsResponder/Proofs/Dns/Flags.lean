import DnsResponder.Proofs.Dns.Response

namespace DnsResponder
namespace Dns
namespace Response

/-!
# Which flags a query decides

A response is made from the flag word of its query, so each of its bits is one of three: it is
written, whatever the query says, it is cleared, or it is kept from the query.  Three bits can be
decided by the settings: the one for an authoritative answer, the one for available recursion, and
the reserved one.  Settings that do not decide such a bit leave it open, and an open bit is kept.

So the settings alone decide these bits exactly for queries that have none of the open ones set, and
two queries that differ in nothing else get the same flags exactly when they agree in the open bits.
-/

/-! ## Bits that the settings can decide -/

/-- The bits that some settings decide. -/
def settableBits : UInt16 :=
  Flag.authoritative ||| Flag.recursionAvailable ||| Flag.reserved

/-- Those of them that given settings set. -/
def setBits (flags : ResponseFlags) : UInt16 :=
  (if flags.recursionAvailable then Flag.recursionAvailable
    else if flags.authoritative then Flag.authoritative else 0)
    ||| (if flags.markReserved then Flag.reserved else 0)

/-- Those of them that given settings leave to the query.  "Authoritative" and "recursion available"
are decided together. -/
def openBits (flags : ResponseFlags) : UInt16 :=
  (if flags.recursionAvailable || flags.authoritative then 0
    else Flag.authoritative ||| Flag.recursionAvailable)
    ||| (if flags.markReserved then 0 else Flag.reserved)

/-- The settings decide the bits of a response: it is authoritative if they say so and do not say
that recursion is available, recursion is available if they say so, and the response is marked if
they say so. -/
structure DecidedBy (flags : ResponseFlags) (word : UInt16) : Prop where
  authoritative : word &&& Flag.authoritative =
    if flags.authoritative && !flags.recursionAvailable then Flag.authoritative else 0
  recursionAvailable : word &&& Flag.recursionAvailable =
    if flags.recursionAvailable then Flag.recursionAvailable else 0
  reserved : word &&& Flag.reserved = if flags.markReserved then Flag.reserved else 0

/-- There are only eight combinations of flags. -/
instance decidableForallFlags {property : ResponseFlags → Prop} [DecidablePred property] :
    Decidable (∀ flags, property flags) :=
  decidable_of_iff
    (∀ byAuthority withRecursion marked, property ⟨byAuthority, withRecursion, marked⟩)
    ⟨fun all flags => all flags.authoritative flags.recursionAvailable flags.markReserved,
      fun all _ _ _ => all _⟩

/-! ## Words -/

section Words

variable (word kept written mask : UInt16)

theorem and_or (first second : UInt16) :
    word &&& (first ||| second) = word &&& first ||| word &&& second :=
  UInt16.toBitVec_inj.mp (BitVec.and_or_distrib_left ..)

/-- What is written need not be kept. -/
theorem and_or_eq_of_written :
    word &&& kept ||| written = word &&& (kept &&& ~~~written) ||| written := by
  apply UInt16.toBitVec_inj.mp
  apply BitVec.eq_of_getLsbD_eq
  intro place inside
  simp only [UInt16.toBitVec_or, UInt16.toBitVec_and, UInt16.toBitVec_not, BitVec.getLsbD_or,
    BitVec.getLsbD_and, BitVec.getLsbD_not, inside, decide_true, Bool.true_and]
  cases word.toBitVec.getLsbD place <;> cases kept.toBitVec.getLsbD place <;>
    cases written.toBitVec.getLsbD place <;> rfl

variable {word kept written mask}

theorem eq_or_iff (apart : word &&& written = 0) : written ||| word = written ↔ word = 0 := by
  constructor
  · intro same
    calc
      word = word &&& (written ||| word) := by
        rw [and_or, apart, UInt16.zero_or, UInt16.and_self]
      _ = 0 := by rw [same, apart]
  · rintro rfl
    exact UInt16.or_zero

end Words

/-! ## The flags of a response -/

/-- The bits that a response keeps from its query. -/
def keptBits (flags : ResponseFlags) : UInt16 :=
  ~~~(Flag.response ||| clearedBits ||| settableBits) ||| openBits flags

def writtenBits (flags : ResponseFlags) : UInt16 :=
  Flag.response ||| setBits flags

variable (query : UInt16) (flags : ResponseFlags)

/-- A bit is kept from the query or written. -/
theorem flagsFor_eq : flagsFor query flags = query &&& keptBits flags ||| writtenBits flags := by
  have normal {kept written : UInt16} (same : kept &&& ~~~written = keptBits flags)
      (all : written = writtenBits flags) :
      query &&& kept ||| written = query &&& keptBits flags ||| writtenBits flags := by
    rw [and_or_eq_of_written, same, all]
  rcases flags with ⟨byAuthority, withRecursion, marked⟩
  cases byAuthority <;> cases withRecursion <;> cases marked <;>
    simp only [flagsFor, if_true, Bool.false_eq_true, if_false, or_and, UInt16.and_assoc,
      UInt16.or_assoc] <;>
    exact normal (by decide) (by decide)

theorem keptBits_eq : keptBits flags = openBits flags ||| (~~~settableBits &&& keptBits flags) := by
  revert flags
  decide

/-- The bits that the settings set, and the open ones as the query has them. -/
theorem flagsFor_settable :
    flagsFor query flags &&& settableBits = setBits flags ||| query &&& openBits flags := by
  have kept : ∀ flags, keptBits flags &&& settableBits = openBits flags := by decide
  have written : ∀ flags, writtenBits flags &&& settableBits = setBits flags := by decide
  rw [flagsFor_eq, or_and, UInt16.and_assoc, kept, written, UInt16.or_comm]

theorem flagsFor_open : flagsFor query flags &&& openBits flags = query &&& openBits flags := by
  have kept : ∀ flags, keptBits flags &&& openBits flags = openBits flags := by decide
  have written : ∀ flags, writtenBits flags &&& openBits flags = 0 := by decide
  rw [flagsFor_eq, or_and, UInt16.and_assoc, kept, written, UInt16.or_zero]

variable {query flags}

/-- What the settings decide is which of the bits are set. -/
theorem decidedBy_iff {word : UInt16} :
    DecidedBy flags word ↔ word &&& settableBits = setBits flags := by
  have decided : ∀ flags, DecidedBy flags (setBits flags) := by
    have authoritative : ∀ flags, setBits flags &&& Flag.authoritative =
        if flags.authoritative && !flags.recursionAvailable then Flag.authoritative else 0 := by
      decide
    have recursionAvailable : ∀ flags, setBits flags &&& Flag.recursionAvailable =
        if flags.recursionAvailable then Flag.recursionAvailable else 0 := by
      decide
    have reserved : ∀ flags, setBits flags &&& Flag.reserved =
        if flags.markReserved then Flag.reserved else 0 := by
      decide
    exact fun flags => ⟨authoritative flags, recursionAvailable flags, reserved flags⟩
  have within : ∀ flags, setBits flags &&& settableBits = setBits flags := by decide
  constructor
  · intro settled
    rw [← within, settableBits, and_or, and_or, and_or, and_or, settled.authoritative,
      settled.recursionAvailable, settled.reserved, (decided flags).authoritative,
      (decided flags).recursionAvailable, (decided flags).reserved]
  · intro same
    have part {bit : UInt16} (inside : settableBits &&& bit = bit) :
        word &&& bit = setBits flags &&& bit := by
      rw [← same, UInt16.and_assoc, inside]
    exact ⟨(part (by decide)).trans (decided flags).authoritative,
      (part (by decide)).trans (decided flags).recursionAvailable,
      (part (by decide)).trans (decided flags).reserved⟩

/-- The settings alone decide just the responses to queries without an open bit. -/
theorem decidedBy_flagsFor_iff :
    DecidedBy flags (flagsFor query flags) ↔ query &&& openBits flags = 0 := by
  have apart : ∀ flags, openBits flags &&& setBits flags = 0 := by decide
  rw [decidedBy_iff, flagsFor_settable]
  exact eq_or_iff (by rw [UInt16.and_assoc, apart, UInt16.and_zero])

/-- Queries that agree in all other bits get the same flags when they agree in the open ones. -/
theorem flagsFor_eq_iff {other : UInt16}
    (alike : query &&& ~~~settableBits = other &&& ~~~settableBits) :
    flagsFor query flags = flagsFor other flags ↔
      query &&& openBits flags = other &&& openBits flags := by
  constructor
  · intro same
    rw [← flagsFor_open query flags, ← flagsFor_open other flags, same]
  · intro same
    rw [flagsFor_eq, flagsFor_eq, keptBits_eq, and_or, and_or, ← UInt16.and_assoc,
      ← UInt16.and_assoc, same, alike]

end Response
end Dns
end DnsResponder
