/-
# CxlMailbox.Proofs.Text.Notation — which texts stand for which number

Attributes of the host and words of the command line are numbers in three notations.  They are said
here without their readers, as relations between a text and a value:

* `AttributeNumber`: hexadecimal behind a mark, octal behind another zero, else decimal;
* `MarkedNumber bare`: hexadecimal behind a mark, else of the radix `bare`, whatever zeros are in
  front: sizes are `MarkedNumber 10`, opcodes `MarkedNumber 16`.

Each reader accepts exactly the texts of its notation whose value fits its word, and answers with
that value (`attributeNumber?_eq_some_iff`, `readSize_eq_ok_iff`, `readOpcode_eq_ok_iff`).
`numeric_texts_exact` adds the words that attributes become, and that what is written in decimal or
in a radix of the notation reads back as itself.
-/
import CxlMailbox.CommandLine.Grammar
import CxlMailbox.Proofs.Text.Numeral
import CxlMailbox.Sysfs

namespace CxlMailbox.Text

open CommandLine

set_option autoImplicit false

/-! ## Notations -/

/-- The text is a mark of hexadecimal digits, and the digits behind it. -/
def BehindMark (text digits : List Char) : Prop :=
  text = '0' :: 'x' :: digits ∨ text = '0' :: 'X' :: digits

def Marked (text : List Char) : Prop := ∃ digits, BehindMark text digits

/-- A number as an attribute of the host spells it. -/
def AttributeNumber (text : List Char) (value : Nat) : Prop :=
  (∃ digits, BehindMark text digits ∧ IsNumeral 16 digits value) ∨
  (¬ Marked text ∧ ∃ digits, digits ≠ [] ∧ text = '0' :: digits ∧ IsNumeral 8 digits value) ∨
  (text = ['0'] ∨ text.head? ≠ some '0') ∧ IsNumeral 10 text value

/-- A number that is hexadecimal behind a mark, and else of the radix `bare`. -/
def MarkedNumber (bare : Nat) (text : List Char) (value : Nat) : Prop :=
  (∃ digits, BehindMark text digits ∧ IsNumeral 16 digits value) ∨
  ¬ Marked text ∧ IsNumeral bare text value

/-- Octal digits behind a zero. -/
def octalNumeral (value : Nat) : String := "0" ++ String.ofList (Nat.toDigits 8 value)

/-! ## Marks -/

section Marks

variable {text digits : List Char} {value : Nat}

theorem BehindMark.marked (behind : BehindMark text digits) : Marked text := ⟨digits, behind⟩

theorem BehindMark.head? (behind : BehindMark text digits) : text.head? = some '0' := by
  rcases behind with rfl | rfl <;> rfl

/-- Only one text is behind a mark. -/
theorem BehindMark.unique {digits' : List Char} (behind : BehindMark text digits)
    (behind' : BehindMark text digits') : digits = digits' := by
  rcases behind with rfl | rfl <;> simpa [BehindMark] using behind'

theorem hexDigits?_eq_some_iff : hexDigits? text = some digits ↔ BehindMark text digits := by
  unfold hexDigits? BehindMark
  split
  case h_1 => simp
  case h_2 => simp
  case h_3 lower upper =>
    refine ⟨nofun, ?_⟩
    rintro (rfl | rfl)
    · exact absurd rfl (lower digits)
    · exact absurd rfl (upper digits)

theorem hexDigits?_eq_none_iff : hexDigits? text = none ↔ ¬ Marked text := by
  simp only [Option.eq_none_iff_forall_ne_some, ne_eq, hexDigits?_eq_some_iff, Marked, not_exists]

theorem IsNumber.unmarked {radix : Nat} (few : radix ≤ 16) (number : IsNumber radix text value) :
    ¬ Marked text := by
  obtain ⟨-, values, known, -⟩ := number
  rintro ⟨digits, rfl | rfl⟩
  all_goals
    obtain ⟨_, _, -, known, -⟩ := List.forall₂_cons_left_iff.mp known
    obtain ⟨_, _, letter, -, -⟩ := List.forall₂_cons_left_iff.mp known
    exact not_isDigit_x few (by simp) letter

end Marks

/-! ## Readers -/

section Readers

variable {radix bound value : Nat}

theorem toOption_readNumeral_eq_some_iff (positive : 0 < radix) (room : 0 < bound)
    {text : List Char} :
    (readNumeral radix bound text).toOption = some value ↔
      value < bound ∧ IsNumeral radix text value := by
  rw [and_comm, ← readNumeral_eq_ok_iff positive room]
  cases readNumeral radix bound text <;> simp [Except.toOption]

theorem readNumber_eq_ok_iff (positive : 0 < radix) (room : 0 < bound) {heading : String}
    {digits : List Char} :
    readNumber radix bound heading digits = .ok value ↔
      value < bound ∧ IsNumeral radix digits value := by
  rw [and_comm, ← readNumeral_eq_ok_iff positive room, readNumber]
  cases readNumeral radix bound digits <;> simp

/-- Behind a mark an attribute is hexadecimal, whatever else it might be. -/
theorem BehindMark.attributeNumber_iff {text digits : List Char}
    (behind : BehindMark text digits) :
    AttributeNumber text value ↔ IsNumeral 16 digits value := by
  have lead : ¬ (text = ['0'] ∨ text.head? ≠ some '0') := by
    rcases behind with rfl | rfl <;> simp
  simp only [AttributeNumber, behind.marked, not_true_eq_false, false_and, lead, or_false]
  constructor
  · rintro ⟨digits', behind', numeral⟩
    rwa [behind.unique behind']
  · exact fun numeral => ⟨digits, behind, numeral⟩

/-- Behind another zero it is octal. -/
theorem attributeNumber_zero_iff {digits : List Char} (unmarked : ¬ Marked ('0' :: digits))
    (more : digits ≠ []) :
    AttributeNumber ('0' :: digits) value ↔ IsNumeral 8 digits value := by
  constructor
  · rintro (⟨_, behind, -⟩ | ⟨-, _, -, same, numeral⟩ | ⟨alone | other, -⟩)
    · exact absurd behind.marked unmarked
    · rwa [(List.cons.inj same).2]
    · exact absurd (List.cons.inj alone).2 more
    · exact absurd rfl other
  · exact fun numeral => .inr (.inl ⟨unmarked, digits, more, rfl, numeral⟩)

/-- Without a zero in front, or as a zero alone, it is decimal. -/
theorem attributeNumber_decimal_iff {text : List Char}
    (lead : text = ['0'] ∨ text.head? ≠ some '0') :
    AttributeNumber text value ↔ IsNumeral 10 text value := by
  constructor
  · rintro (⟨_, behind, -⟩ | ⟨-, digits, more, rfl, -⟩ | ⟨-, numeral⟩)
    · rcases behind with rfl | rfl <;> simp at lead
    · simp [more] at lead
    · exact numeral
  · exact fun numeral => .inr (.inr ⟨lead, numeral⟩)

theorem attributeNumber?_eq_some_iff {text : String} :
    Sysfs.attributeNumber? text = some value ↔
      value < 2 ^ 64 ∧ AttributeNumber text.toList value := by
  have read (radix : Nat) (positive : 0 < radix) (digits : List Char) :
      (readNumeral radix UInt64.size digits).toOption = some value ↔
        value < 2 ^ 64 ∧ IsNumeral radix digits value :=
    toOption_readNumeral_eq_some_iff positive (by decide)
  unfold Sysfs.attributeNumber?
  split
  case h_1 digits same =>
    rw [read 16 (by decide), same, BehindMark.attributeNumber_iff (.inl rfl)]
  case h_2 digits same =>
    rw [read 16 (by decide), same, BehindMark.attributeNumber_iff (.inr rfl)]
  case h_3 c digits lower upper same =>
    have unmarked : ¬ Marked ('0' :: c :: digits) := by
      rintro ⟨digits', marks | marks⟩
      · exact lower (by cases marks; rfl)
      · exact upper (by cases marks; rfl)
    rw [read 8 (by decide), same, attributeNumber_zero_iff unmarked (by simp)]
  case h_4 lower upper octal =>
    have lead : text.toList = ['0'] ∨ text.toList.head? ≠ some '0' := by
      rcases same : text.toList with _ | ⟨first, _ | ⟨c, digits⟩⟩
      · exact .inr nofun
      · by_cases zero : first = '0'
        · exact .inl (by rw [zero])
        · exact .inr (by simpa using zero)
      · refine .inr fun zero => octal c digits ?_
        rw [same, Option.some.inj zero]
    rw [read 10 (by decide), attributeNumber_decimal_iff lead]

/-- A reader of marked numbers goes by the mark. -/
theorem markedNumber_iff {bare : Nat} {text : List Char} :
    MarkedNumber bare text value ↔ match hexDigits? text with
      | some digits => IsNumeral 16 digits value
      | none => IsNumeral bare text value := by
  unfold MarkedNumber
  rcases marks : hexDigits? text with _ | digits
  · have unmarked := hexDigits?_eq_none_iff.mp marks
    simp only [unmarked, not_false_eq_true, true_and, or_iff_right_iff_imp]
    rintro ⟨digits, behind, -⟩
    exact absurd behind.marked unmarked
  · have behind := hexDigits?_eq_some_iff.mp marks
    simp only [behind.marked, not_true_eq_false, false_and, or_false]
    constructor
    · rintro ⟨digits', behind', numeral⟩
      rwa [behind.unique behind']
    · exact fun numeral => ⟨digits, behind, numeral⟩

theorem readSize_eq_ok_iff {word : String} :
    readSize word = .ok value ↔ value < 2 ^ 32 ∧ MarkedNumber 10 word.toList value := by
  rw [markedNumber_iff, readSize]
  rcases hexDigits? word.toList with _ | digits
  · exact readNumber_eq_ok_iff (by decide) (by decide)
  · exact readNumber_eq_ok_iff (by decide) (by decide)

theorem readOpcode_eq_ok_iff {word : String} :
    readOpcode word = .ok value ↔ value < 2 ^ 16 ∧ MarkedNumber 16 word.toList value := by
  rw [markedNumber_iff, readOpcode]
  rcases hexDigits? word.toList with _ | digits
  · exact readNumber_eq_ok_iff (by decide) (by decide)
  · exact readNumber_eq_ok_iff (by decide) (by decide)

/-- An attribute that is read as a number becomes the word of that value. -/
theorem readNumber_word_iff {files : FileTree} {dir leaf : String} {word : UInt64} :
    Sysfs.readNumber files dir leaf = .ok word ↔
      ∃ content, Sysfs.readText files dir leaf = .ok content ∧
        AttributeNumber content.toList word.toNat := by
  rcases read : Sysfs.readText files dir leaf with fault | content
  · simp [Sysfs.readNumber, read, bind, Except.bind]
  · have spelled : Sysfs.attributeNumber? content = some word.toNat ↔
        word.toNat < 2 ^ 64 ∧ AttributeNumber content.toList word.toNat :=
      attributeNumber?_eq_some_iff
    simp only [show word.toNat < 2 ^ 64 from word.toNat_lt, true_and] at spelled
    simp only [Except.ok.injEq, exists_eq_left', ← spelled, Sysfs.readNumber, read, bind,
      Except.bind]
    rcases number : Sysfs.attributeNumber? content with _ | n
    · simp [throw, throwThe, MonadExceptOf.throw]
    · have small : n < 2 ^ 64 := (attributeNumber?_eq_some_iff.mp number).1
      simp only [pure, Except.pure, Except.ok.injEq, Option.some.injEq, ← UInt64.toNat_inj,
        UInt64.toNat_ofNat_of_lt' small]

theorem readSmallNumber_word_iff {files : FileTree} {dir leaf : String} {word : UInt32} :
    Sysfs.readSmallNumber files dir leaf = .ok word ↔
      ∃ content, Sysfs.readText files dir leaf = .ok content ∧
        AttributeNumber content.toList word.toNat := by
  have wide : Sysfs.readNumber files dir leaf = .ok word.toUInt64 ↔ _ := readNumber_word_iff
  rw [UInt32.toNat_toUInt64] at wide
  rw [← wide, Sysfs.readSmallNumber]
  rcases Sysfs.readNumber files dir leaf with fault | n
  · simp [bind, Except.bind]
  · have same : n = word.toUInt64 ↔ n.toNat = word.toNat := by
      rw [← UInt64.toNat_inj, UInt32.toNat_toUInt64]
    have small : word.toNat < UInt32.size := word.toNat_lt
    simp only [bind, Except.bind, Except.ok.injEq, same]
    split
    case isTrue fits =>
      simp only [pure, Except.pure, Except.ok.injEq, ← UInt32.toNat_inj, UInt64.toNat_toUInt32,
        Nat.mod_eq_of_lt fits]
    case isFalse wide =>
      simp only [throw, throwThe, MonadExceptOf.throw, reduceCtorEq, false_iff]
      omega

end Readers

/-! ## What was written -/

section Written

variable (value width : Nat)

theorem isNumber_toString : IsNumber 10 (toString value).toList value := by
  rw [Nat.toString_eq_repr, Nat.toList_repr]
  exact isNumber_toDigits (by decide) (by decide) value

theorem attributeNumber_toString : AttributeNumber (toString value).toList value := by
  refine (attributeNumber_decimal_iff ?_).mpr (isNumber_toString value).isNumeral
  rw [Nat.toString_eq_repr, Nat.toList_repr]
  rcases Nat.eq_zero_or_pos value with rfl | positive
  · exact .inl rfl
  · exact .inr (head?_toDigits (by decide) positive.ne')

theorem attributeNumber_octalNumeral : AttributeNumber (octalNumeral value).toList value := by
  have number : IsNumber 8 _ value := isNumber_toDigits (by decide) (by decide) value
  have unmarked := (number.zeros (by decide) 1).unmarked (by decide)
  simp only [octalNumeral, String.toList_append, String.toList_ofList]
  exact (attributeNumber_zero_iff unmarked Nat.toDigits_ne_nil).mpr number.isNumeral

theorem hexNumeral_behindMark :
    BehindMark (hexNumeral width value).toList (hexDigits width value).toList := by
  rw [hexNumeral, String.toList_append]
  exact .inl rfl

theorem attributeNumber_hexNumeral : AttributeNumber (hexNumeral width value).toList value :=
  .inl ⟨_, hexNumeral_behindMark value width, (isNumber_hexDigits width value).isNumeral⟩

theorem markedNumber_hexNumeral (bare : Nat) :
    MarkedNumber bare (hexNumeral width value).toList value :=
  .inl ⟨_, hexNumeral_behindMark value width, (isNumber_hexDigits width value).isNumeral⟩

theorem IsNumber.markedNumber {bare : Nat} {text : List Char} {value : Nat} (few : bare ≤ 16)
    (number : IsNumber bare text value) : MarkedNumber bare text value :=
  .inr ⟨number.unmarked few, number.isNumeral⟩

end Written

/-- **A numeric text means exactly its value**: each reader takes the texts of its notation whose
value fits the word, and no others, so that nothing is wrapped or cut off; the words that
attributes are read into have the value of the text; and what is written in decimal, or in a radix
of the notation, is read as itself, with any number of zeros in front where it is hexadecimal. -/
theorem numeric_texts_exact (text : String) (value width : Nat) :
    (Sysfs.attributeNumber? text = some value ↔
      value < 2 ^ 64 ∧ AttributeNumber text.toList value) ∧
    (readSize text = .ok value ↔ value < 2 ^ 32 ∧ MarkedNumber 10 text.toList value) ∧
    (readOpcode text = .ok value ↔ value < 2 ^ 16 ∧ MarkedNumber 16 text.toList value) ∧
    (∀ (files : FileTree) (dir leaf : String),
      (∀ word, Sysfs.readNumber files dir leaf = .ok word ↔
        ∃ content, Sysfs.readText files dir leaf = .ok content ∧
          AttributeNumber content.toList word.toNat) ∧
      ∀ word, Sysfs.readSmallNumber files dir leaf = .ok word ↔
        ∃ content, Sysfs.readText files dir leaf = .ok content ∧
          AttributeNumber content.toList word.toNat) ∧
    (Sysfs.attributeNumber? (toString value) = some value ↔ value < 2 ^ 64) ∧
    (Sysfs.attributeNumber? (hexNumeral width value) = some value ↔ value < 2 ^ 64) ∧
    (Sysfs.attributeNumber? (octalNumeral value) = some value ↔ value < 2 ^ 64) ∧
    (readSize (toString value) = .ok value ↔ value < 2 ^ 32) ∧
    (readSize (hexNumeral width value) = .ok value ↔ value < 2 ^ 32) ∧
    (readOpcode (hexDigits width value) = .ok value ↔ value < 2 ^ 16) ∧
    (readOpcode (hexNumeral width value) = .ok value ↔ value < 2 ^ 16) := by
  have decimal : IsNumber 10 (toString value).toList value := isNumber_toString value
  have hexadecimal := isNumber_hexDigits width value
  refine ⟨attributeNumber?_eq_some_iff, readSize_eq_ok_iff, readOpcode_eq_ok_iff,
    fun files dir leaf => ⟨fun _ => readNumber_word_iff, fun _ => readSmallNumber_word_iff⟩, ?_⟩
  simp only [attributeNumber?_eq_some_iff, readSize_eq_ok_iff, readOpcode_eq_ok_iff,
    attributeNumber_toString, attributeNumber_octalNumeral, attributeNumber_hexNumeral,
    markedNumber_hexNumeral, decimal.markedNumber (by decide : 10 ≤ 16),
    hexadecimal.markedNumber (Nat.le_refl 16), and_true, and_self]

/-- One text, three numbers. -/
example : Sysfs.attributeNumber? "010" = some 8 ∧ (readSize "010").toOption = some 10 ∧
    (readOpcode "010").toOption = some 16 := by decide

end CxlMailbox.Text
