namespace DnsResponder
namespace Text

/-!
# Decimal numerals

An unsigned numeral is one or more decimal digits, leading zeros included, after an optional plus
sign.  It is read against the largest value the field can hold, and the digit that stops the
reading decides which of the three errors is reported.
-/

/-- Why a text is not an unsigned numeral. -/
inductive NumeralError
  | empty
  | invalidDigit
  | tooLarge
deriving DecidableEq

def NumeralError.message : NumeralError → String
  | .empty => "cannot parse integer from empty string"
  | .invalidDigit => "invalid digit found in string"
  | .tooLarge => "number too large to fit in target type"

/-- The value of a digit in a base of at most sixteen. -/
def digitValue? (base : Nat) (c : Char) : Option Nat :=
  let value :=
    if '0' ≤ c ∧ c ≤ '9' then some (c.toNat - '0'.toNat)
    else if 'a' ≤ c ∧ c ≤ 'f' then some (c.toNat - 'a'.toNat + 10)
    else if 'A' ≤ c ∧ c ≤ 'F' then some (c.toNat - 'A'.toNat + 10)
    else none
  value.filter (· < base)

/-- The number written by decimal digits after `total`, none above `limit`. -/
def readDigits (limit total : Nat) : List Char → Except NumeralError Nat
  | [] => .ok total
  | c :: rest =>
    match digitValue? 10 c with
    | none => .error .invalidDigit
    | some digit =>
      if total * 10 + digit ≤ limit then readDigits limit (total * 10 + digit) rest
      else .error .tooLarge

/-- The number written by a numeral, if it is at most `limit`. -/
def readNumeral (limit : Nat) : List Char → Except NumeralError Nat
  | [] => .error .empty
  | ['+'] => .error .invalidDigit
  | '+' :: digits => readDigits limit 0 digits
  | digits => readDigits limit 0 digits

end Text
end DnsResponder
