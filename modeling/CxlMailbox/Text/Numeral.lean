/-
# CxlMailbox.Text.Numeral — numbers as text

Reading: one optional `+`, then at least one digit of the radix; the first character that is no
digit, or the first digit with which the value reaches the bound, decides the failure.
Writing: lower-case hexadecimal digits filled up with zeros.
-/

namespace CxlMailbox.Text

set_option autoImplicit false

/-- Why a text is no number of the wanted range. -/
inductive NumeralFault where
  /-- The text has no characters at all. -/
  | empty
  /-- A character is no digit of the radix. -/
  | invalidDigit
  /-- The value does not fit. -/
  | tooLarge
  deriving DecidableEq, Repr

namespace NumeralFault

def message : NumeralFault → String
  | empty => "cannot parse integer from empty string"
  | invalidDigit => "invalid digit found in string"
  | tooLarge => "number too large to fit in target type"

end NumeralFault

/-- The value of a digit, letters in either case; `none` if the radix has no such digit. -/
def digitValue? (radix : Nat) (c : Char) : Option Nat :=
  let value :=
    if '0' ≤ c ∧ c ≤ '9' then c.toNat - 48
    else if 'a' ≤ c ∧ c ≤ 'z' then c.toNat - 87
    else if 'A' ≤ c ∧ c ≤ 'Z' then c.toNat - 55
    else radix
  if value < radix then some value else none

/-- Reads digits behind a value already read; the result stays below `bound`. -/
def readDigits (radix bound : Nat) : (value : Nat) → List Char → Except NumeralFault Nat
  | value, [] => .ok value
  | value, c :: rest =>
    match digitValue? radix c with
    | none => .error .invalidDigit
    | some digit =>
      if value * radix + digit < bound then readDigits radix bound (value * radix + digit) rest
      else .error .tooLarge

/-- Reads a whole text as a number below `bound`. -/
def readNumeral (radix bound : Nat) : List Char → Except NumeralFault Nat
  | [] => .error .empty
  | ['+'] => .error .invalidDigit
  | '+' :: digits => readDigits radix bound 0 digits
  | digits => readDigits radix bound 0 digits

example : readNumeral 10 256 "+255".toList = .ok 255 := by rfl
example : readNumeral 10 256 "256".toList = .error .tooLarge := by rfl
example : readNumeral 16 256 "fz".toList = .error .invalidDigit := by rfl

/-- `text` behind as many fill characters as it takes to reach `width` characters. -/
def padLeft (width : Nat) (fill : Char) (text : String) : String :=
  "".pushn fill (width - text.length) ++ text

/-- `text` followed by as many blanks as it takes to reach `width` characters. -/
def padRight (width : Nat) (text : String) : String :=
  text.pushn ' ' (width - text.length)

/-- At least `width` lower-case hexadecimal digits. -/
def hexDigits (width value : Nat) : String :=
  padLeft width '0' (String.ofList (Nat.toDigits 16 value))

/-- At least `width` lower-case hexadecimal digits behind `0x`. -/
def hexNumeral (width value : Nat) : String := "0x" ++ hexDigits width value

end CxlMailbox.Text
