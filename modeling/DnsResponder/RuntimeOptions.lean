namespace DnsResponder

/-!
# Options that change between frames

Sixteen numbered slots, each holding a word or nothing.  The all-ones word stands for nothing, so
storing it clears a slot.  Only slot 0, the dry run, has a meaning yet; the others are kept as given.
-/

def optionSlots : Nat := 16

/-- The word that stands for an empty slot. -/
def unsetOption : UInt32 := 0xFFFFFFFF

/-- The options with a meaning. -/
inductive OptionName
  | dryRun
deriving DecidableEq

def OptionName.slot : OptionName → Fin optionSlots
  | .dryRun => ⟨0, by decide⟩

/-- A slot number beyond the last one. -/
structure UnknownOption where
  slot : UInt32
deriving DecidableEq

def UnknownOption.message (unknown : UnknownOption) : String :=
  s!"runtime option id {unknown.slot.toNat} out of range"

/-- The words in the slots. -/
structure RuntimeOptions where
  slots : Vector UInt32 optionSlots := Vector.replicate optionSlots unsetOption

namespace RuntimeOptions

def set (options : RuntimeOptions) (name : OptionName) (value : UInt32) : RuntimeOptions :=
  ⟨options.slots.set name.slot value name.slot.isLt⟩

def setSwitch (options : RuntimeOptions) (name : OptionName) (value : Bool) : RuntimeOptions :=
  options.set name (if value then 1 else 0)

/-- Store a word in a slot by number, as hosts do. -/
def setSlot (options : RuntimeOptions) (slot value : UInt32) :
    Except UnknownOption RuntimeOptions :=
  if inside : slot.toNat < optionSlots then .ok ⟨options.slots.set slot.toNat value inside⟩
  else .error ⟨slot⟩

def clear (options : RuntimeOptions) (name : OptionName) : RuntimeOptions :=
  options.set name unsetOption

def get? (options : RuntimeOptions) (name : OptionName) : Option UInt32 :=
  let word := options.slots[name.slot]
  if word = unsetOption then none else some word

/-- An option as a switch: any word but zero is on, and an empty slot means `default`. -/
def switch (options : RuntimeOptions) (name : OptionName) (default : Bool) : Bool :=
  match options.get? name with
  | some word => word != 0
  | none => default

@[simp]
theorem get?_set (options : RuntimeOptions) (name : OptionName) (value : UInt32) :
    (options.set name value).get? name = if value = unsetOption then none else some value := by
  simp [set, get?]

end RuntimeOptions
end DnsResponder
