/-
# CxlMailbox.Proofs.Text.Numeral — which texts are numerals, and of what value

`IsNumeral radix text value` says what a number is as text, without a reader: an optional `+`, then
at least one digit of the radix, and the value is that of the digits in positional notation.
`readNumeral_eq_ok_iff` says that the reader accepts exactly the numerals whose value is below its
bound, and answers with that value.

What is written is a number again: `isNumber_toDigits` for any radix, `isNumber_hexDigits` for
hexadecimal digits behind zeros.
-/
import CxlMailbox.Text.Numeral
import Mathlib.Data.List.Forall2
import Mathlib.Data.Nat.Digits.Defs

namespace CxlMailbox.Text

set_option autoImplicit false

/-! ## Digits -/

/-- The digits in the order of their values, letters in lower case. -/
def lowerDigits : List Char := "0123456789abcdefghijklmnopqrstuvwxyz".toList

/-- The digits in the order of their values, letters in upper case. -/
def upperDigits : List Char := "0123456789ABCDEFGHIJKLMNOPQRSTUVWXYZ".toList

/-- The character is the digit of the radix that has the value. -/
def IsDigit (radix : Nat) (c : Char) (value : Nat) : Prop :=
  value < radix ∧ (lowerDigits[value]? = some c ∨ upperDigits[value]? = some c)

/-- A digit and its value, by the codes of the three classes. -/
theorem digitValue?_eq_some_iff_code {radix : Nat} {c : Char} {value : Nat} :
    digitValue? radix c = some value ↔ value < radix ∧
      (48 ≤ c.toNat ∧ c.toNat ≤ 57 ∧ c.toNat = 48 + value ∨
        97 ≤ c.toNat ∧ c.toNat ≤ 122 ∧ c.toNat = 87 + value ∨
        65 ≤ c.toNat ∧ c.toNat ≤ 90 ∧ c.toNat = 55 + value) := by
  have range (low high : Char) :
      (low ≤ c ∧ c ≤ high) ↔ (low.toNat ≤ c.toNat ∧ c.toNat ≤ high.toNat) := Iff.rfl
  simp only [digitValue?, range, show '0'.toNat = 48 from rfl, show '9'.toNat = 57 from rfl,
    show 'a'.toNat = 97 from rfl, show 'z'.toNat = 122 from rfl, show 'A'.toNat = 65 from rfl,
    show 'Z'.toNat = 90 from rfl]
  split_ifs <;> simp only [Option.some.injEq, false_iff] <;> omega

/-- A table that has the characters of a range of codes in order has each at its place. -/
theorem getElem?_of_code {digits : List Char} {low first value : Nat} {c : Char} (high : Nat)
    (ordered : ∀ code < high, low ≤ code → digits[code - first]? = some (Char.ofNat code))
    (inside : low ≤ c.toNat ∧ c.toNat < high) (code : c.toNat = first + value) :
    digits[value]? = some c := by
  have found := ordered c.toNat inside.2 inside.1
  rwa [Char.ofNat_toNat, code, Nat.add_sub_cancel_left] at found

/-- The reader of digits knows exactly the digits. -/
theorem digitValue?_eq_some_iff {radix : Nat} {c : Char} {value : Nat} :
    digitValue? radix c = some value ↔ IsDigit radix c value := by
  constructor
  · intro read
    obtain ⟨small, code⟩ := digitValue?_eq_some_iff_code.mp read
    refine ⟨small, ?_⟩
    rcases code with ⟨low, high, code⟩ | ⟨low, high, code⟩ | ⟨low, high, code⟩
    · exact .inl (getElem?_of_code 58 (by decide) ⟨low, by omega⟩ code)
    · exact .inl (getElem?_of_code 123 (by decide) ⟨low, by omega⟩ code)
    · exact .inr (getElem?_of_code 91 (by decide) ⟨low, by omega⟩ code)
  · rintro ⟨small, at_⟩
    have lower : ∀ v (inside : v < lowerDigits.length),
        digitValue? 36 lowerDigits[v] = some v := by decide
    have upper : ∀ v (inside : v < upperDigits.length),
        digitValue? 36 upperDigits[v] = some v := by decide
    have read : digitValue? 36 c = some value := by
      rcases at_ with at_ | at_ <;> obtain ⟨inside, rfl⟩ := List.getElem?_eq_some_iff.mp at_
      · exact lower value inside
      · exact upper value inside
    exact digitValue?_eq_some_iff_code.mpr ⟨small, (digitValue?_eq_some_iff_code.mp read).2⟩

/-! ## Numbers -/

/-- The characters are digits of the radix, at least one, and `value` is what they are in positional
notation, the first counting most. -/
def IsNumber (radix : Nat) (digits : List Char) (value : Nat) : Prop :=
  digits ≠ [] ∧ ∃ values, List.Forall₂ (IsDigit radix) digits values ∧
    value = Nat.ofDigits radix values.reverse

/-- A number with one plus sign in front of it, or none. -/
def IsNumeral (radix : Nat) (text : List Char) (value : Nat) : Prop :=
  ∃ digits, (text = digits ∨ text = '+' :: digits) ∧ IsNumber radix digits value

/-- The value of more digits behind a value already read. -/
def continued (radix value : Nat) (values : List Nat) : Nat :=
  values.foldl (fun value digit => value * radix + digit) value

theorem le_continued {radix : Nat} (positive : 0 < radix) (value : Nat) (values : List Nat) :
    value ≤ continued radix value values := by
  induction values generalizing value with
  | nil => exact Nat.le_refl value
  | cons digit values ih =>
      calc value ≤ value * radix + digit :=
            Nat.le_add_right_of_le (Nat.le_mul_of_pos_right value positive)
        _ ≤ continued radix value (digit :: values) := ih _

theorem continued_zero (radix : Nat) (values : List Nat) :
    continued radix 0 values = Nat.ofDigits radix values.reverse := by
  rw [Nat.ofDigits_eq_foldr, List.foldr_reverse, continued]
  simp only [Nat.cast_id, Nat.add_comm, Nat.mul_comm]

/-- Digits are read as long as the value stays below the bound. -/
theorem readDigits_eq_ok_iff {radix bound : Nat} (positive : 0 < radix) {value n : Nat}
    (below : value < bound) {digits : List Char} :
    readDigits radix bound value digits = .ok n ↔ n < bound ∧
      ∃ values, List.Forall₂ (IsDigit radix) digits values ∧ n = continued radix value values := by
  induction digits generalizing value with
  | nil =>
      rw [readDigits, Except.ok.injEq]
      constructor
      · rintro rfl
        exact ⟨below, [], .nil, rfl⟩
      · rintro ⟨-, _, ⟨⟩, rfl⟩
        rfl
  | cons c digits ih =>
      rw [readDigits]
      constructor
      · intro read
        split at read
        · cases read
        · rename_i digit known
          split_ifs at read with fits
          obtain ⟨small, values, others, rfl⟩ := (ih fits).mp read
          exact ⟨small, digit :: values, .cons (digitValue?_eq_some_iff.mp known) others, rfl⟩
      · rintro ⟨small, _, all, rfl⟩
        obtain ⟨digit, values, known, others, rfl⟩ := List.forall₂_cons_left_iff.mp all
        have fits : value * radix + digit < bound :=
          Nat.lt_of_le_of_lt (le_continued positive _ values) small
        simp only [digitValue?_eq_some_iff.mpr known, fits, if_true]
        exact (ih fits).mpr ⟨small, values, others, rfl⟩

/-- No digit up to `f` is an `x`. -/
theorem not_isDigit_x {radix value : Nat} (few : radix ≤ 16) {c : Char} (x : c = 'x' ∨ c = 'X') :
    ¬ IsDigit radix c value := by
  intro digit
  obtain ⟨small, code⟩ := digitValue?_eq_some_iff_code.mp (digitValue?_eq_some_iff.mpr digit)
  have letter : c.toNat = 120 ∨ c.toNat = 88 := by rcases x with rfl | rfl <;> decide
  omega

theorem not_isDigit_plus {radix value : Nat} : ¬ IsDigit radix '+' value := by
  rintro ⟨-, lower | upper⟩
  · exact absurd (List.mem_of_getElem? lower) (by decide)
  · exact absurd (List.mem_of_getElem? upper) (by decide)

theorem not_isNumber_plus {radix value : Nat} {rest : List Char} :
    ¬ IsNumber radix ('+' :: rest) value := by
  rintro ⟨-, values, known, -⟩
  obtain ⟨digit, _, plus, -⟩ := List.forall₂_cons_left_iff.mp known
  exact not_isDigit_plus plus

theorem not_isNumeral_nil {radix value : Nat} : ¬ IsNumeral radix [] value := by
  rintro ⟨digits, rfl | sign, some_, -⟩
  · exact some_ rfl
  · cases sign

/-- A plus sign in front can only be the sign. -/
theorem isNumeral_cons_iff {radix value : Nat} {c : Char} {rest : List Char} :
    IsNumeral radix (c :: rest) value ↔
      IsNumber radix (if c = '+' then rest else c :: rest) value := by
  by_cases plus : c = '+'
  · subst plus
    rw [if_pos rfl]
    constructor
    · rintro ⟨digits, rfl | signed, number⟩
      · exact absurd number not_isNumber_plus
      · obtain ⟨-, rfl⟩ := List.cons.inj signed
        exact number
    · exact fun number => ⟨rest, .inr rfl, number⟩
  · rw [if_neg plus]
    constructor
    · rintro ⟨digits, rfl | signed, number⟩
      · exact number
      · exact absurd (List.cons.inj signed).1 plus
    · exact fun number => ⟨c :: rest, .inl rfl, number⟩

/-- The reader accepts exactly the numerals of a value below its bound. -/
theorem readNumeral_eq_ok_iff {radix bound : Nat} (positive : 0 < radix) (room : 0 < bound)
    {text : List Char} {n : Nat} :
    readNumeral radix bound text = .ok n ↔ IsNumeral radix text n ∧ n < bound := by
  have number {digits : List Char} (some_ : digits ≠ []) :
      readDigits radix bound 0 digits = .ok n ↔ IsNumber radix digits n ∧ n < bound := by
    rw [readDigits_eq_ok_iff positive room, IsNumber, and_comm]
    simp only [continued_zero, some_, ne_eq, not_false_eq_true, true_and]
  unfold readNumeral
  split
  case h_1 => simp [not_isNumeral_nil]
  case h_2 => simp [isNumeral_cons_iff, IsNumber]
  case h_3 digits some_ =>
    rw [number (by simpa using some_), isNumeral_cons_iff, if_pos rfl]
  case h_4 text some_ lone signed =>
    obtain ⟨c, rest, rfl⟩ := List.exists_cons_of_ne_nil (by simpa using some_)
    have unsigned : c ≠ '+' := fun plus => signed rest (by rw [plus])
    rw [number (by simp), isNumeral_cons_iff, if_neg unsigned]

/-- A text is a number of one value at most. -/
theorem IsNumber.unique {radix value value' : Nat} {digits : List Char}
    (number : IsNumber radix digits value) (number' : IsNumber radix digits value') :
    value = value' := by
  obtain ⟨-, values, known, rfl⟩ := number
  obtain ⟨-, values', known', rfl⟩ := number'
  have one : Relator.RightUnique (IsDigit radix) := by
    intro c v w first second
    have same := (digitValue?_eq_some_iff.mpr first).symm.trans (digitValue?_eq_some_iff.mpr second)
    exact Option.some.inj same
  rw [one.forall₂ known known']

/-! ## Numbers that were written -/

/-- One more digit behind a number. -/
theorem IsNumber.concat {radix value digit : Nat} {digits : List Char} {c : Char}
    (number : IsNumber radix digits value) (last : IsDigit radix c digit) :
    IsNumber radix (digits ++ [c]) (value * radix + digit) := by
  obtain ⟨-, values, known, rfl⟩ := number
  refine ⟨by simp, values ++ [digit], List.rel_append known (.cons last .nil), ?_⟩
  rw [List.reverse_concat, Nat.ofDigits_cons, Nat.add_comm, Nat.mul_comm]

theorem isDigit_zero {radix : Nat} (positive : 0 < radix) : IsDigit radix '0' 0 :=
  ⟨positive, .inl rfl⟩

/-- Zeros in front of a number count nothing. -/
theorem IsNumber.zeros {radix value : Nat} {digits : List Char}
    (number : IsNumber radix digits value) (positive : 0 < radix) (count : Nat) :
    IsNumber radix (List.replicate count '0' ++ digits) value := by
  induction count with
  | zero => exact number
  | succ count ih =>
      obtain ⟨-, values, known, rfl⟩ := ih
      refine ⟨by simp, 0 :: values, .cons (isDigit_zero positive) known, ?_⟩
      rw [List.reverse_cons, Nat.ofDigits_append, Nat.ofDigits_singleton, Nat.mul_zero,
        Nat.add_zero]

theorem isDigit_digitChar {radix value : Nat} (small : value < radix) (few : radix ≤ 16) :
    IsDigit radix value.digitChar value := by
  have table : ∀ v < 16, lowerDigits[v]? = some v.digitChar := by decide
  exact ⟨small, .inl (table value (Nat.lt_of_lt_of_le small few))⟩

/-- A number in positional notation is a number of that value. -/
theorem isNumber_toDigits {radix : Nat} (two : 1 < radix) (few : radix ≤ 16) (value : Nat) :
    IsNumber radix (Nat.toDigits radix value) value := by
  induction value using Nat.strong_induction_on with
  | _ value ih =>
      rw [Nat.toDigits_eq_if two]
      split
      case isTrue small =>
        refine ⟨by simp, [value], .cons (isDigit_digitChar small few) .nil, ?_⟩
        rw [List.reverse_singleton, Nat.ofDigits_singleton]
      case isFalse large =>
        have front := ih (value / radix) (Nat.div_lt_self (by omega) two)
        have last := isDigit_digitChar (Nat.mod_lt value (Nat.zero_lt_of_lt two)) few
        have whole := front.concat last
        rwa [Nat.div_add_mod'] at whole

/-- Only zero is written with a zero in front. -/
theorem head?_toDigits {radix : Nat} (two : 1 < radix) {value : Nat} (positive : value ≠ 0) :
    (Nat.toDigits radix value).head? ≠ some '0' := by
  induction value using Nat.strong_induction_on with
  | _ value ih =>
      rw [Nat.toDigits_eq_if two]
      split
      case isTrue small =>
        simpa using positive
      case isFalse large =>
        rw [List.head?_append_of_ne_nil _ Nat.toDigits_ne_nil]
        have quotient : value / radix ≠ 0 := Nat.div_ne_zero_iff.mpr ⟨by omega, by omega⟩
        exact ih (value / radix) (Nat.div_lt_self (by omega) two) quotient

theorem toDigits_subset {radix : Nat} (two : 1 < radix) (few : radix ≤ 16) (value : Nat) :
    Nat.toDigits radix value ⊆ lowerDigits := by
  have table : ∀ v < 16, v.digitChar ∈ lowerDigits := by decide
  induction value using Nat.strong_induction_on with
  | _ value ih =>
      rw [Nat.toDigits_eq_if two]
      split
      case isTrue small =>
        exact List.cons_subset.mpr ⟨table value (by omega), List.nil_subset _⟩
      case isFalse large =>
        have last := table (value % radix)
          (Nat.lt_of_lt_of_le (Nat.mod_lt value (by omega)) few)
        exact List.append_subset.mpr ⟨ih (value / radix) (Nat.div_lt_self (by omega) two),
          List.cons_subset.mpr ⟨last, List.nil_subset _⟩⟩

/-- What is written behind zeros are the digits of the value. -/
theorem toList_hexDigits (width value : Nat) :
    (hexDigits width value).toList =
      List.replicate (width - (Nat.toDigits 16 value).length) '0' ++ Nat.toDigits 16 value := by
  have fill (count : Nat) : ("".pushn '0' count).toList = List.replicate count '0' := by
    induction count with
    | zero => rfl
    | succ count ih =>
        rw [String.pushn_eq_repeat_push] at ih ⊢
        rw [Nat.repeat, String.toList_push, ih, List.replicate_succ']
  rw [hexDigits, padLeft, String.toList_append, fill, String.toList_ofList, String.length_ofList]

theorem isNumber_hexDigits (width value : Nat) :
    IsNumber 16 (hexDigits width value).toList value := by
  rw [toList_hexDigits]
  exact (isNumber_toDigits (by decide) (by decide) value).zeros (by decide) _

theorem IsNumber.isNumeral {radix value : Nat} {digits : List Char}
    (number : IsNumber radix digits value) : IsNumeral radix digits value :=
  ⟨digits, .inl rfl, number⟩

end CxlMailbox.Text
