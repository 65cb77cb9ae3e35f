/-
# CxlMailbox.Proofs.Payload.StatusWord — the background status word, bit by bit

A `BitLayout` lists the fields of a word from its lowest bit up: numbers of a width, of which only
the lowest bits are kept, and reserved bits.  `BitLayout.pack` is the number they make, and
`BitLayout.Reads` says that a value has what the bits of a number mean.

* `reads_pack`: every value reads its own number, so what is read back agrees with it as far as the
  fields are wide (`agree_of_reads`);
* `pack_of_reads`: a number that was read is packed as it was, its reserved bits cleared;
* `testBit_pack_of_agree`: values that differ in one field only have numbers that differ in the bits
  of that field only.

The background status word keeps to such a layout in both directions (`toNat_toWord`,
`reads_ofWord`), and `status_word_exact` is what follows for it.
-/
import CxlMailbox.Payload.Background
import Mathlib.Data.Nat.Bitwise

namespace CxlMailbox

set_option autoImplicit false

variable {α : Type}

/-! ## Fields of bits -/

/-- Some adjacent bits of a word, and how they show in a value. -/
inductive BitField (α : Type) where
  /-- The lowest bits of a number. -/
  | number (width : Nat) (value : α → Nat)
  /-- Bits that mean nothing: passed over when read, clear when written. -/
  | reserved (width : Nat)

namespace BitField

/-- How many bits the field takes. -/
def width : BitField α → Nat
  | number width _ => width
  | reserved width => width

/-- The bits of the field, as a number. -/
def bits (v : α) : BitField α → Nat
  | number width value => value v % 2 ^ width
  | reserved _ => 0

/-- In the field, the value has what the lowest bits of `n` mean. -/
def Reads (v : α) (n : Nat) : BitField α → Prop
  | number width value => value v % 2 ^ width = n % 2 ^ width
  | reserved _ => True

/-- As far as the field is wide, it shows the same in both values. -/
def Agree (v w : α) : BitField α → Prop
  | number width value => value v % 2 ^ width = value w % 2 ^ width
  | reserved _ => True

/-- All bits of the field that mean something. -/
def mask : BitField α → Nat
  | number width _ => 2 ^ width - 1
  | reserved _ => 0

theorem bits_lt (field : BitField α) (v : α) : field.bits v < 2 ^ field.width := by
  cases field with
  | number width value => exact Nat.mod_lt _ (Nat.two_pow_pos width)
  | reserved width => exact Nat.two_pow_pos width

theorem mask_lt (field : BitField α) : field.mask < 2 ^ field.width := by
  cases field with
  | number width value => exact Nat.sub_one_lt (Nat.two_pow_pos width).ne'
  | reserved width => exact Nat.two_pow_pos width

theorem bits_of_reads {field : BitField α} {v : α} {n : Nat} (reads : field.Reads v n) :
    field.bits v = n &&& field.mask := by
  cases field with
  | number width value => exact reads.trans (Nat.and_two_pow_sub_one_eq_mod n width).symm
  | reserved width => exact (Nat.and_zero n).symm

theorem bits_of_agree {field : BitField α} {v w : α} (agree : field.Agree v w) :
    field.bits v = field.bits w := by
  cases field with
  | number width value => exact agree
  | reserved width => rfl

end BitField

/-! ## Layouts of words -/

/-- The fields of a word, from the lowest bit up. -/
abbrev BitLayout (α : Type) := List (BitField α)

namespace BitLayout

/-- How many bits the fields take together. -/
def size : BitLayout α → Nat
  | [] => 0
  | field :: fields => field.width + size fields

/-- The number that the fields of a value make. -/
def pack (v : α) : BitLayout α → Nat
  | [] => 0
  | field :: fields => 2 ^ field.width * pack v fields + field.bits v

/-- Every field of the value has what its own bits of `n` mean. -/
def Reads (v : α) : BitLayout α → Nat → Prop
  | [], _ => True
  | field :: fields, n => field.Reads v n ∧ Reads v fields (n / 2 ^ field.width)

/-- All bits that mean something. -/
def mask : BitLayout α → Nat
  | [] => 0
  | field :: fields => 2 ^ field.width * mask fields + field.mask

theorem testBit_pack_cons (field : BitField α) (fields : BitLayout α) (v : α) (i : Nat) :
    (pack v (field :: fields)).testBit i =
      if i < field.width then (field.bits v).testBit i
      else (pack v fields).testBit (i - field.width) :=
  Nat.testBit_two_pow_mul_add _ (field.bits_lt v) i

/-- A number that was read is packed as it was, its reserved bits cleared. -/
theorem pack_of_reads {fields : BitLayout α} {v : α} {n : Nat} (reads : fields.Reads v n) :
    fields.pack v = n &&& fields.mask := by
  induction fields generalizing n with
  | nil => exact (Nat.and_zero n).symm
  | cons field fields ih =>
      obtain ⟨here, later⟩ := reads
      refine Nat.eq_of_testBit_eq fun i => ?_
      rw [Nat.testBit_and, testBit_pack_cons, mask,
        Nat.testBit_two_pow_mul_add _ field.mask_lt, ih later, BitField.bits_of_reads here]
      by_cases inside : i < field.width
      · rw [if_pos inside, if_pos inside, Nat.testBit_and]
      · rw [if_neg inside, if_neg inside, Nat.testBit_and, Nat.testBit_div_two_pow,
          Nat.sub_add_cancel (Nat.le_of_not_lt inside)]

/-- Every value reads its own number. -/
theorem reads_pack (fields : BitLayout α) (v : α) : fields.Reads v (fields.pack v) := by
  induction fields with
  | nil => trivial
  | cons field fields ih =>
      have low : pack v (field :: fields) % 2 ^ field.width = field.bits v := by
        rw [pack, Nat.mul_add_mod, Nat.mod_eq_of_lt (field.bits_lt v)]
      have high : pack v (field :: fields) / 2 ^ field.width = pack v fields := by
        rw [pack, Nat.mul_add_div (Nat.two_pow_pos _), Nat.div_eq_of_lt (field.bits_lt v),
          Nat.add_zero]
      refine ⟨?_, high.symm ▸ ih⟩
      cases field with
      | number width value => exact low.symm
      | reserved width => trivial

/-- Two values that read one number agree. -/
theorem agree_of_reads {fields : BitLayout α} {v w : α} {n : Nat} (first : fields.Reads v n)
    (second : fields.Reads w n) : ∀ field ∈ fields, field.Agree v w := by
  induction fields generalizing n with
  | nil => nofun
  | cons field fields ih =>
      refine List.forall_mem_cons.mpr ⟨?_, ih first.2 second.2⟩
      cases field with
      | number width value => exact first.1.trans second.1.symm
      | reserved width => trivial

theorem pack_of_agree {fields : BitLayout α} {v w : α}
    (agree : ∀ field ∈ fields, field.Agree v w) : fields.pack v = fields.pack w := by
  induction fields with
  | nil => rfl
  | cons field fields ih =>
      obtain ⟨here, later⟩ := List.forall_mem_cons.mp agree
      rw [pack, pack, ih later, BitField.bits_of_agree here]

/-- Values that differ in one field only have numbers that differ in its bits only. -/
theorem testBit_pack_of_agree {front back : BitLayout α} {field : BitField α} {v w : α}
    (before : ∀ other ∈ front, other.Agree v w) (behind : ∀ other ∈ back, other.Agree v w) {i : Nat}
    (outside : i < front.size ∨ front.size + field.width ≤ i) :
    (pack v (front ++ field :: back)).testBit i = (pack w (front ++ field :: back)).testBit i := by
  induction front generalizing i with
  | nil =>
      have past : ¬ i < field.width := by
        simp only [size, Nat.not_lt_zero, Nat.zero_add, false_or] at outside
        omega
      rw [List.nil_append, testBit_pack_cons, testBit_pack_cons, if_neg past, if_neg past,
        pack_of_agree behind]
  | cons first front ih =>
      obtain ⟨here, later⟩ := List.forall_mem_cons.mp before
      rw [List.cons_append, testBit_pack_cons, testBit_pack_cons, BitField.bits_of_agree here]
      by_cases inside : i < first.width
      · rw [if_pos inside, if_pos inside]
      · rw [if_neg inside, if_neg inside]
        rw [size] at outside
        exact ih later (by omega)

end BitLayout

/-! ## The status word -/

/-- Two words have the same bits outside of the window of `width` bits from `start` on. -/
def SameOutside (start width : Nat) (word word' : UInt64) : Prop :=
  ∀ i, i < start ∨ start + width ≤ i → word.toNat.testBit i = word'.toNat.testBit i

namespace BackgroundStatus

/-- The fields of the word; the bits before the return code are reserved. -/
def layout : BitLayout BackgroundStatus :=
  [.number 16 (·.opcode.toNat), .number 7 (·.percentComplete.toNat), .number 1 (·.running.toNat),
    .reserved 8, .number 16 (·.returnCode.toWord.toNat), .number 16 (·.extendedStatus.toNat)]

theorem toNat_toWord (s : BackgroundStatus) : s.toWord.toNat = layout.pack s := by
  have opcode := s.opcode.toNat_lt
  have extended := s.extendedStatus.toNat_lt
  have running : s.running.toNat ≤ 1 := Bool.toNat_le _
  rw [toWord, UInt64.toNat_ofNat']
  simp only [layout, BitLayout.pack, BitField.bits, BitField.width]
  omega

/-- The bits of a code that is read off a word. -/
theorem toNat_toWord_ofNat {n : Nat} (small : n < 0x10000) :
    (Status.ofCode (Int32.ofNat n)).toWord.toNat = n := by
  have read : (Int32.ofNat n).toUInt32.toNat = n % 2 ^ 32 := rfl
  rw [Status.toWord, Status.code_ofCode, read]
  omega

theorem reads_ofWord (word : UInt64) : layout.Reads (ofWord word) word.toNat := by
  have opcode : (ofWord word).opcode.toNat = word.toNat % 0x10000 % 2 ^ 16 := UInt16.toNat_ofNat'
  have percent : (ofWord word).percentComplete.toNat = word.toNat / 0x10000 % 0x80 % 2 ^ 8 :=
    UInt8.toNat_ofNat'
  have running : (ofWord word).running.toNat = word.toNat / 2 ^ 23 % 2 := Nat.toNat_testBit ..
  have code := toNat_toWord_ofNat (Nat.mod_lt (word.toNat / 0x100000000) (y := 0x10000) (by decide))
  have extended : (ofWord word).extendedStatus.toNat =
      word.toNat / 0x1000000000000 % 0x10000 % 2 ^ 16 := UInt16.toNat_ofNat'
  refine ⟨?_, ?_, ?_, trivial, ?_, ?_, trivial⟩ <;>
    simp only [BitField.Reads, BitField.width]
  · omega
  · omega
  · omega
  · rw [ofWord, code]
    omega
  · omega

/-- The word has room for the value, and the return code is what its number is classified as. -/
structure Fits (s : BackgroundStatus) : Prop where
  percent : s.percentComplete.toNat < 0x80
  code : s.returnCode.toWord.toNat < 0x10000
  classified : s.returnCode.Classified

theorem fits_ofWord (word : UInt64) : (ofWord word).Fits where
  percent := by
    have read : (ofWord word).percentComplete.toNat = word.toNat / 0x10000 % 0x80 % 2 ^ 8 :=
      UInt8.toNat_ofNat'
    omega
  code := by
    have small := Nat.mod_lt (word.toNat / 0x100000000) (y := 0x10000) (by decide)
    rw [ofWord, toNat_toWord_ofNat small]
    exact small
  classified := Status.classified_ofCode _

theorem fits_of_le {s : BackgroundStatus} {code : Int32} (percent : s.percentComplete < 0x80)
    (returned : s.returnCode = .ofCode code) (natural : 0 ≤ code) (small : code ≤ 0xffff) :
    s.Fits where
  percent := percent
  code := by
    have signed := s.returnCode.toInt_code
    have low : 0 ≤ code.toInt := Int32.le_iff_toInt_le.mp natural
    have high : code.toInt ≤ 0xffff := Int32.le_iff_toInt_le.mp small
    have bound := s.returnCode.toWord.toNat_lt
    rw [returned, Status.code_ofCode, ← returned, Int.bmod_def, UInt32.size] at signed
    omega
  classified := returned ▸ Status.classified_ofCode code

/-- Values that fit are told apart by the word. -/
theorem eq_of_agree {s t : BackgroundStatus} (agree : ∀ field ∈ layout, field.Agree s t)
    (fits : s.Fits) (fits' : t.Fits) : s = t := by
  obtain ⟨percent_lt, code_lt, classified⟩ := fits
  obtain ⟨percent_lt', code_lt', classified'⟩ := fits'
  rcases s with ⟨opcode, percent, running, code, extended⟩
  rcases t with ⟨opcode', percent', running', code', extended'⟩
  simp only [layout, List.forall_mem_cons, BitField.Agree] at *
  obtain ⟨sameOpcode, samePercent, sameRunning, -, sameCode, sameExtended, -⟩ := agree
  have bounds := And.intro opcode.toNat_lt opcode'.toNat_lt
  have bounds' := And.intro extended.toNat_lt extended'.toNat_lt
  obtain rfl : opcode = opcode' := UInt16.toNat_inj.mp (by omega)
  obtain rfl : percent = percent' := UInt8.toNat_inj.mp (by omega)
  obtain rfl : running = running' := by
    cases running <;> cases running' <;> first | rfl | cases sameRunning
  obtain rfl : code = code' := by
    have sameWord : code.toWord = code'.toWord := UInt32.toNat_inj.mp (by omega)
    calc code = Status.ofWord code.toWord := (Status.ofWord_toWord classified).symm
      _ = Status.ofWord code'.toWord := congrArg Status.ofWord sameWord
      _ = code' := Status.ofWord_toWord classified'
  obtain rfl : extended = extended' := UInt16.toNat_inj.mp (by omega)
  rfl

/-- As much of the value as the word has room for: seven bits of the percentage, and what sixteen
bits of the return code are classified as. -/
def kept (s : BackgroundStatus) : BackgroundStatus :=
  { s with
    percentComplete := s.percentComplete % 0x80
    returnCode := .ofCode (Int32.ofInt (s.returnCode.code.toInt % 0x10000)) }

theorem toNat_percent_kept (s : BackgroundStatus) :
    s.kept.percentComplete.toNat = s.percentComplete.toNat % 0x80 := UInt8.toNat_mod ..

/-- Also of a negative code, the low bits of its word are the code modulo what they can count. -/
theorem toNat_code_kept (s : BackgroundStatus) :
    s.kept.returnCode.toWord.toNat = s.returnCode.toWord.toNat % 0x10000 := by
  have signed := s.returnCode.toInt_code
  rw [Int.bmod_def, UInt32.size] at signed
  have low : s.returnCode.code.toInt % 0x10000 = (s.returnCode.toWord.toNat % 0x10000 : Nat) := by
    omega
  rw [kept, low]
  exact toNat_toWord_ofNat (Nat.mod_lt _ (by decide))

theorem fits_kept (s : BackgroundStatus) : s.kept.Fits where
  percent := by
    rw [toNat_percent_kept]
    omega
  code := by
    rw [toNat_code_kept]
    omega
  classified := Status.classified_ofCode _

theorem agree_kept (s : BackgroundStatus) : ∀ field ∈ layout, field.Agree s.kept s := by
  have percent := s.toNat_percent_kept
  have code := s.toNat_code_kept
  simp only [layout, List.forall_mem_cons, BitField.Agree]
  refine ⟨rfl, by omega, rfl, trivial, by omega, rfl, nofun⟩

theorem kept_of_fits {s : BackgroundStatus} (fits : s.Fits) : s.kept = s :=
  eq_of_agree s.agree_kept s.fits_kept fits

/-- What was written reads back, as far as the word has room for it. -/
theorem ofWord_toWord (s : BackgroundStatus) : ofWord s.toWord = s.kept := by
  have own : layout.Reads s.kept s.toWord.toNat := by
    rw [toNat_toWord, ← BitLayout.pack_of_agree s.agree_kept]
    exact BitLayout.reads_pack layout s.kept
  exact eq_of_agree (BitLayout.agree_of_reads (reads_ofWord s.toWord) own) (fits_ofWord _)
    s.fits_kept

/-- A word that was read is written as it was, its reserved bits cleared. -/
theorem toWord_ofWord (word : UInt64) : (ofWord word).toWord = word &&& 0xffffffff00ffffff := by
  apply UInt64.toNat_inj.mp
  rw [toNat_toWord, BitLayout.pack_of_reads (reads_ofWord word), UInt64.toNat_and]
  rfl

/-- Two values that differ in one field of the word only have words that differ in its bits only. -/
theorem sameOutside_of_agree {s t : BackgroundStatus} (index : Fin layout.length)
    (before : ∀ other ∈ layout.take index, other.Agree s t)
    (behind : ∀ other ∈ layout.drop (index + 1), other.Agree s t) :
    SameOutside (BitLayout.size (layout.take index)) layout[index].width s.toWord t.toWord := by
  have split : layout = layout.take index ++ layout[index] :: layout.drop (index + 1) := by
    rw [Fin.getElem_fin, ← List.drop_eq_getElem_cons, List.take_append_drop]
  intro i outside
  rw [toNat_toWord, toNat_toWord, split]
  exact BitLayout.testBit_pack_of_agree before behind outside

end BackgroundStatus

open BackgroundStatus in
/-- **The status word is exact.**  A word that was read is written as it was but for bits 24 to 31,
which are cleared.  A status reads back if its percentage fits the word and its return code is what
a code of sixteen bits is classified as.  Of any status, one that says `unknown` of a specified code
included, the percentage is reduced to seven bits, and the return code becomes what its code modulo
65536 is classified as.  Each field has bits of its own. -/
theorem status_word_exact :
    (∀ word : UInt64, (ofWord word).toWord = word &&& 0xffffffff00ffffff) ∧
    (∀ (s : BackgroundStatus) (code : Int32), s.percentComplete < 0x80 →
      s.returnCode = .ofCode code → 0 ≤ code → code ≤ 0xffff → ofWord s.toWord = s) ∧
    (∀ s : BackgroundStatus, ofWord s.toWord =
      { s with
        percentComplete := s.percentComplete % 0x80
        returnCode := .ofCode (Int32.ofInt (s.returnCode.code.toInt % 0x10000)) }) ∧
    ∀ s : BackgroundStatus,
      (∀ opcode, SameOutside 0 16 s.toWord { s with opcode }.toWord) ∧
      (∀ percentComplete, SameOutside 16 7 s.toWord { s with percentComplete }.toWord) ∧
      (∀ running, SameOutside 23 1 s.toWord { s with running }.toWord) ∧
      (∀ returnCode, SameOutside 32 16 s.toWord { s with returnCode }.toWord) ∧
      ∀ extendedStatus, SameOutside 48 16 s.toWord { s with extendedStatus }.toWord := by
  refine ⟨toWord_ofWord, fun s code percent returned natural small => ?_, ofWord_toWord, fun s =>
    ⟨fun _ => sameOutside_of_agree ⟨0, by decide⟩ ?_ ?_,
      fun _ => sameOutside_of_agree ⟨1, by decide⟩ ?_ ?_,
      fun _ => sameOutside_of_agree ⟨2, by decide⟩ ?_ ?_,
      fun _ => sameOutside_of_agree ⟨4, by decide⟩ ?_ ?_,
      fun _ => sameOutside_of_agree ⟨5, by decide⟩ ?_ ?_⟩⟩
  · rw [ofWord_toWord, kept_of_fits (fits_of_le percent returned natural small)]
  all_goals simp [layout, BitField.Agree]

/-- `unknown` of code 3 comes back as what code 3 is classified as, and a negative code as its low
bits. -/
example :
    (BackgroundStatus.ofWord { BackgroundStatus.idle with
      returnCode := .unknown 3 }.toWord).returnCode = .unsupported ∧
    (BackgroundStatus.ofWord { BackgroundStatus.idle with
      returnCode := .unknown (-1) }.toWord).returnCode = .unknown 0xffff := by
  decide +kernel

end CxlMailbox
