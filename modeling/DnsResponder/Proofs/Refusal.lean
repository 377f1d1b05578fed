import DnsResponder.Refusal

namespace DnsResponder

/-!
# Computations that came to a result

A computation that can stop gives a result only when each of its steps did.  The lemmas here open
such a computation at its first step, in the direction in which a success is taken apart.

Why a computation stops is told by its steps as well: `StopsOnlyFor` collects over them what the
causes have in common.
-/

variable {ε δ α β : Type}

theorem bind_eq_ok_iff {first : Except ε α} {next : α → Except ε β} {result : β} :
    (first >>= next) = .ok result ↔ ∃ value, first = .ok value ∧ next value = .ok result := by
  cases first with
  | error cause =>
    constructor
    · intro impossible
      cases impossible
    · rintro ⟨value, impossible, -⟩
      cases impossible
  | ok value =>
    constructor
    · intro found
      exact ⟨value, rfl, found⟩
    · rintro ⟨other, same, found⟩
      cases same
      exact found

theorem map_eq_ok_iff {first : Except ε α} {make : α → β} {result : β} :
    first.map make = .ok result ↔ ∃ value, first = .ok value ∧ make value = result := by
  cases first with
  | error cause =>
    constructor
    · intro impossible
      cases impossible
    · rintro ⟨value, impossible, -⟩
      cases impossible
  | ok value =>
    constructor
    · intro found
      exact ⟨value, rfl, Except.ok.inj found⟩
    · rintro ⟨other, same, made⟩
      cases same
      exact congrArg Except.ok made

theorem map_eq_error_iff {first : Except ε α} {make : α → β} {cause : ε} :
    first.map make = .error cause ↔ first = .error cause := by
  cases first <;> constructor <;> intro same <;> cases same <;> rfl

theorem mapError_eq_ok_iff {result : Except ε α} {rename : ε → δ} {value : α} :
    result.mapError rename = .ok value ↔ result = .ok value := by
  cases result <;> constructor <;> intro same <;> cases same <;> rfl

namespace Stop

theorem ofRefusal_eq_ok_iff {result : Except Refusal α} {value : α} :
    ofRefusal result = .ok value ↔ result = .ok value := by
  cases result <;> constructor <;> intro same <;> cases same <;> rfl

/-- A reading that came to something left a state. -/
theorem ofReading_eq_ok_iff {σ : Type} {result : EStateM.Result BoundsError σ α} {value : α}
    {left : σ} : ofReading result = .ok (value, left) ↔ result = .ok value left := by
  cases result <;> constructor <;> intro same <;> cases same <;> rfl

theorem require_eq_ok_iff {found : Option α} {value : α} :
    require found = .ok value ↔ found = some value := by
  cases found <;> constructor <;> intro same <;> cases same <;> rfl

/-- A difference is what the smaller number lacks of the larger one. -/
theorem difference_eq_ok_iff {larger smaller rest : Nat} :
    difference larger smaller = .ok rest ↔ larger = smaller + rest := by
  rw [difference]
  split
  · rw [Except.ok.injEq]
    omega
  · constructor
    · intro impossible
      cases impossible
    · omega

theorem difference_eq {larger smaller rest : Nat} (sum : larger = smaller + rest) :
    difference larger smaller = .ok rest :=
  difference_eq_ok_iff.mpr sum

end Stop

/-! ## Why computations stop -/

/-- When the computation stops, then for a cause of this kind. -/
def StopsOnlyFor (kind : ε → Prop) (computation : Except ε α) : Prop :=
  ∀ cause, computation = .error cause → kind cause

section Stopping

variable {kind : ε → Prop}

theorem StopsOnlyFor.mono {wider : ε → Prop} {computation : Except ε α}
    (stops : StopsOnlyFor kind computation) (covered : ∀ cause, kind cause → wider cause) :
    StopsOnlyFor wider computation :=
  fun cause stopped => covered cause (stops cause stopped)

theorem stopsOnlyFor_ok (value : α) : StopsOnlyFor kind (.ok value : Except ε α) := by
  intro cause impossible
  cases impossible

theorem stopsOnlyFor_error {cause : ε} (allowed : kind cause) :
    StopsOnlyFor kind (.error cause : Except ε α) := by
  intro other same
  cases same
  exact allowed

/-- What follows a step has to be looked at only for what the step can give. -/
theorem StopsOnlyFor.bind {first : Except ε α} {next : α → Except ε β}
    (start : StopsOnlyFor kind first)
    (rest : ∀ value, first = .ok value → StopsOnlyFor kind (next value)) :
    StopsOnlyFor kind (first >>= next) := by
  cases first with
  | error cause =>
    intro other same
    cases same
    exact start cause rfl
  | ok value => exact rest value rfl

theorem StopsOnlyFor.renamed {result : Except ε α} {rename : ε → δ} {wider : δ → Prop}
    (start : StopsOnlyFor kind result) (covered : ∀ cause, kind cause → wider (rename cause)) :
    StopsOnlyFor wider (result.mapError rename) := by
  cases result with
  | error cause => exact stopsOnlyFor_error (covered cause (start cause rfl))
  | ok value => exact stopsOnlyFor_ok value

theorem StopsOnlyFor.map {computation : Except ε α} (stops : StopsOnlyFor kind computation)
    (make : α → β) : StopsOnlyFor kind (computation.map make) := by
  cases computation with
  | error cause => exact stopsOnlyFor_error (stops cause rfl)
  | ok value => exact stopsOnlyFor_ok (make value)

theorem StopsOnlyFor.ofRefusal {result : Except Refusal α} {kind : Stop → Prop}
    (start : StopsOnlyFor (fun reason => kind (.refused reason)) result) :
    StopsOnlyFor kind (Stop.ofRefusal result) := by
  cases result with
  | error reason => exact stopsOnlyFor_error (start reason rfl)
  | ok value => exact stopsOnlyFor_ok value

/-- A reading only fails for want of octets. -/
theorem stopsOnlyFor_ofReading {σ : Type} (result : EStateM.Result BoundsError σ α)
    {kind : Stop → Prop} (early : ∀ cause, kind (.refused (.truncated cause))) :
    StopsOnlyFor kind (Stop.ofReading result) := by
  cases result with
  | error cause left => exact stopsOnlyFor_error (early cause)
  | ok value left => exact stopsOnlyFor_ok (value, left)

/-- A difference of sizes that is one does not stop. -/
theorem stopsOnlyFor_difference {larger smaller : Nat} {kind : Stop → Prop}
    (enough : smaller ≤ larger) : StopsOnlyFor kind (Stop.difference larger smaller) := by
  rw [Stop.difference, if_pos enough]
  exact stopsOnlyFor_ok _

end Stopping

/-! ## Where refusals come from -/

namespace Refusal

/-- The headers are not those of a query to the port. -/
def OfHeaders : Refusal → Prop
  | .packet cause => cause.inMessage = false
  | .tunnel _ => True
  | _ => False

/-- The message is not a query that can be read. -/
def OfMessage : Refusal → Prop
  | .packet cause => cause.inMessage = true
  | _ => False

/-- There is no answer. -/
def OfLookup : Refusal → Prop
  | .unsupportedType _ | .noRecord => True
  | _ => False

end Refusal

/-- A refusal for the headers, and no access outside. -/
def Stop.OfHeaders : Stop → Prop
  | .refused reason => reason.OfHeaders
  | .outside => False
end DnsResponder
