/-
# CxlMailbox.Proofs.Payload.Revision — which part of a text a revision field keeps

A revision field has sixteen bytes.  Of a text it keeps the longest beginning that takes no more
than these and has no NUL (`Kept`); this is what is read back, trimmed, as long as the sixteen bytes
do not end inside a character.  If they do (`BreaksOff`), the bytes of that character stay in the
field and read as U+FFFD behind the beginning:

* `exists_kept`: every text has such a beginning;
* `units_field`: the bytes of a field, up to the first NUL, read as the beginning and, where a
  character breaks off, one broken unit;
* `revision_text_kept`: what is read back of a text, from an identify payload and from a firmware
  slot, also after the payload was encoded and decoded.

`cut_character_shown` is a text of which a character is read back that is not in it.
-/
import CxlMailbox.Proofs.Payload.Formats
import CxlMailbox.Proofs.Text.Utf8
import Mathlib.Data.List.DropRight
import Mathlib.Data.Nat.Find

namespace CxlMailbox

set_option autoImplicit false

/-! ## Trimming -/

namespace Text

/-- The part of a text that is left when the white space at both ends is taken away. -/
structure Trimmed (chars inner : List Char) : Prop where
  framed : ∃ front back, chars = front ++ inner ++ back ∧
    (∀ c ∈ front, isBlank c) ∧ ∀ c ∈ back, isBlank c
  ends : ∀ some_ : inner ≠ [], ¬ isBlank (inner.head some_) ∧ ¬ isBlank (inner.getLast some_)

theorem trimmed_trim (chars : List Char) : Trimmed chars (trim chars) := by
  have begins : trim chars <+: chars.dropWhile isBlank := List.rdropWhile_prefix isBlank _
  refine ⟨⟨chars.takeWhile isBlank, (chars.dropWhile isBlank).rtakeWhile isBlank, ?_,
    fun c => List.mem_takeWhile_imp, fun c => List.mem_rtakeWhile_imp⟩, fun some_ => ⟨?_, ?_⟩⟩
  · rw [List.append_assoc, trim, trimEnd, dropEndWhile, ← List.rdropWhile,
      List.rdropWhile_append_rtakeWhile, List.takeWhile_append_dropWhile]
  · rw [begins.head some_, Bool.not_eq_true]
    exact List.head_dropWhile_not isBlank _
  · exact List.rdropWhile_last_not isBlank _ some_

theorem Trimmed.isInfix {chars inner : List Char} (trimmed : Trimmed chars inner) :
    inner <:+: chars := by
  obtain ⟨front, back, rfl, -⟩ := trimmed.framed
  exact List.infix_append front inner back

end Text

/-! ## What a field keeps -/

namespace Revision

open Text.Utf8

/-- A beginning of a text that a field has room for. -/
structure Fits (text beginning : List Char) : Prop where
  begins : beginning <+: text
  nulFree : '\x00' ∉ beginning
  small : (String.ofList beginning).utf8ByteSize ≤ 16

/-- The longest of these beginnings. -/
structure Kept (text kept : List Char) : Prop extends Fits text kept where
  longest : ∀ other, Fits text other → other.length ≤ kept.length

/-- The sixteen bytes of a field end inside of the character behind the beginning. -/
def BreaksOff (text kept : List Char) : Prop :=
  (String.ofList kept).utf8ByteSize < 16 ∧ ∃ c ∈ (text.drop kept.length).head?, c ≠ '\x00'

instance (text kept : List Char) : Decidable (BreaksOff text kept) :=
  inferInstanceAs (Decidable (_ ∧ _))

theorem exists_kept (text : List Char) : ∃ kept, Kept text kept := by
  classical
  have nothing : Fits text (text.take 0) := ⟨List.nil_prefix, List.not_mem_nil, Nat.zero_le _⟩
  have fits := Nat.findGreatest_spec (P := fun n => Fits text (text.take n))
    (Nat.zero_le text.length) nothing
  refine ⟨_, fits, fun other fits' => ?_⟩
  have taken := List.prefix_iff_eq_take.mp fits'.begins
  have short := fits'.begins.length_le
  rw [taken] at fits'
  rw [List.length_take, Nat.le_min]
  exact ⟨Nat.le_findGreatest short fits', short⟩

variable {kept rest : List Char} {c : Char}

/-- The character behind the longest beginning takes more bytes than are left. -/
theorem Kept.no_room (longest : Kept (kept ++ c :: rest) kept) (other : c ≠ '\x00') :
    16 < (kept.flatMap String.utf8EncodeChar).length + (String.utf8EncodeChar c).length := by
  by_contra room
  have more : Fits (kept ++ c :: rest) (kept ++ [c]) := by
    refine ⟨⟨rest, by rw [List.append_assoc, List.singleton_append]⟩, ?_, ?_⟩
    · rw [List.mem_append, List.mem_singleton]
      exact not_or_intro longest.nulFree other.symm
    · rw [utf8ByteSize_ofList, List.flatMap_append, List.flatMap_singleton, List.length_append]
      exact Nat.le_of_not_lt room
  have longer := longest.longest _ more
  rw [List.length_append] at longer
  exact Nat.not_succ_le_self _ longer

theorem forall_ne_zero_of_nulFree {chars : List Char} (nulFree : '\x00' ∉ chars) :
    ∀ byte ∈ chars.flatMap String.utf8EncodeChar, byte ≠ 0 := by
  rintro _ among rfl
  obtain ⟨c, mem, zero⟩ := List.mem_flatMap.mp among
  exact nulFree (zero_mem_encodeChar_iff.mp zero ▸ mem)

theorem breaksOff_iff : BreaksOff (kept ++ rest) kept ↔
    (kept.flatMap String.utf8EncodeChar).length < 16 ∧ ∃ c ∈ rest.head?, c ≠ '\x00' := by
  rw [BreaksOff, List.drop_left, utf8ByteSize_ofList]

/-- In the room that the longest beginning leaves is the beginning of the next character. -/
theorem units_rest (longest : Kept (kept ++ rest) kept) :
    let room := 16 - (kept.flatMap String.utf8EncodeChar).length
    units (((rest.flatMap String.utf8EncodeChar).take room).takeWhile (· ≠ 0)) =
      if BreaksOff (kept ++ rest) kept then [none] else [] := by
  intro room
  have small : (kept.flatMap String.utf8EncodeChar).length ≤ 16 := by
    rw [← utf8ByteSize_ofList]
    exact longest.small
  rcases rest with _ | ⟨c, rest⟩
  · have whole : ¬ BreaksOff (kept ++ []) kept := by
      rw [breaksOff_iff]
      simp
    rw [if_neg whole]
    simp [units]
  have stops : BreaksOff (kept ++ c :: rest) kept ↔ 0 < room ∧ c ≠ '\x00' := by
    rw [breaksOff_iff, Nat.sub_pos_iff_lt]
    simp
  by_cases nul : c = '\x00'
  · have first : String.utf8EncodeChar c = [0] := by
      rw [nul]
      rfl
    rw [if_neg (fun breaks => (stops.mp breaks).2 nul), List.flatMap_cons, first]
    cases room <;> simp [units]
  -- the next character does not fit, so that the room has a part of its bytes or none
  · have wide := longest.no_room nul
    have inside : room < (String.utf8EncodeChar c).length := by omega
    have nonzero : ∀ byte ∈ (String.utf8EncodeChar c).take room, byte ≠ 0 := by
      rintro _ among rfl
      exact nul (zero_mem_encodeChar_iff.mp (List.mem_of_mem_take among))
    have taken : (((c :: rest).flatMap String.utf8EncodeChar).take room).takeWhile (· ≠ 0) =
        (String.utf8EncodeChar c).take room := by
      rw [List.flatMap_cons, List.take_append_of_le_length inside.le, List.takeWhile_eq_self_iff]
      exact fun byte mem => decide_eq_true (nonzero byte mem)
    rw [taken]
    split
    case isTrue breaks => exact units_cut c (stops.mp breaks).1 inside
    case isFalse whole =>
      have full : room = 0 := by
        by_contra some_
        exact whole (stops.mpr ⟨Nat.pos_of_ne_zero some_, nul⟩)
      rw [full, List.take_zero, units]

/-- The bytes of a field up to the first NUL read as the longest beginning, and as one broken unit
where a character breaks off. -/
theorem units_field {text : List Char} (longest : Kept text kept) :
    units (((text.flatMap String.utf8EncodeChar).take 16).takeWhile (· ≠ 0)) =
      kept.map some ++ if BreaksOff text kept then [none] else [] := by
  obtain ⟨rest, rfl⟩ := longest.begins
  have small := longest.small
  rw [utf8ByteSize_ofList] at small
  have nonzero := forall_ne_zero_of_nulFree longest.nulFree
  rw [List.flatMap_append, List.take_append, List.take_of_length_le small,
    List.takeWhile_append_of_pos (fun byte mem => decide_eq_true (nonzero byte mem)), units_encode,
    units_rest longest]

/-- What is shown of a text is the longest beginning; behind it is U+FFFD where a character breaks
off. -/
theorem trimmed_text {text : String} (longest : Kept text.toList kept) :
    Text.Trimmed (kept ++ if BreaksOff text.toList kept then ['\ufffd'] else [])
      (ofText text).text.toList := by
  have stops : (ofText text).bytes.takeWhile (· ≠ 0) =
      ((text.toList.flatMap String.utf8EncodeChar).take 16).takeWhile (· ≠ 0) := by
    have padding (n : Nat) : ((Bytes.zeros 16).drop n).takeWhile (· ≠ 0) = [] := by
      rw [Bytes.zeros, List.drop_replicate]
      cases 16 - n <;> rfl
    change (overlay (encode text) (Bytes.zeros 16)).takeWhile (· ≠ 0) = _
    rw [overlay, Bytes.length_zeros, encode_eq, List.takeWhile_append, padding, List.append_nil]
    split
    case isTrue all => exact (List.takeWhile_prefix _).eq_of_length all |>.symm
    case isFalse => rfl
  have shown : decodeLossy ((ofText text).bytes.takeWhile (· ≠ 0)) =
      kept ++ if BreaksOff text.toList kept then ['\ufffd'] else [] := by
    rw [decodeLossy, stops, units_field longest]
    split <;> simp [Function.comp_def]
  rw [Revision.text, String.toList_ofList, shown]
  exact Text.trimmed_trim _

/-- What is read back of a text. -/
def ReadsBack (text shown : String) : Prop :=
  ∃ kept, Kept text.toList kept ∧
    (¬ BreaksOff text.toList kept →
      Text.Trimmed kept shown.toList ∧ shown.toList <:+: text.toList) ∧
    (BreaksOff text.toList kept → Text.Trimmed (kept ++ ['\ufffd']) shown.toList)

theorem text_ofText (text : String) : ReadsBack text (ofText text).text := by
  obtain ⟨kept, longest⟩ := exists_kept text.toList
  have trimmed := trimmed_text longest
  refine ⟨kept, longest, fun whole => ?_, fun breaks => ?_⟩
  · rw [if_neg whole, List.append_nil] at trimmed
    exact ⟨trimmed, trimmed.isInfix.trans longest.begins.isInfix⟩
  · rwa [if_pos breaks] at trimmed

end Revision

/-! ## Revisions in payloads -/

namespace FirmwareInfo

theorem isSome_slot?_iff {v : FirmwareInfo} {slot : Nat} :
    (v.slot? slot).isSome ↔ 1 ≤ slot ∧ slot ≤ 4 := by
  match slot with
  | 0 | 1 | 2 | 3 | 4 | n + 5 => simp [slot?]

theorem setSlot_of_no_slot {v : FirmwareInfo} {slot : Nat} (outside : ¬ (1 ≤ slot ∧ slot ≤ 4))
    (revision : Revision) : v.setSlot slot revision = v := by
  match slot with
  | 0 | n + 5 => rfl
  | 1 | 2 | 3 | 4 => exact absurd (by decide) outside

end FirmwareInfo

/-- **A revision field keeps the longest beginning of a text that it has room for.**  This is read
back from an identify payload and from a firmware slot, also after encoding and decoding, and is
then a part of the text; only where the sixteen bytes end inside a character, U+FFFD is read behind
the beginning.  Other slots are as they were, and a number that is no slot has no text. -/
theorem revision_text_kept (text : String) :
    (∀ v : Identify,
      let written := { v with firmwareRevision := Revision.ofText text }
      Revision.ReadsBack text written.firmwareRevision.text ∧
      ∃ back, Identify.decode written.encode = .ok back ∧
        back.firmwareRevision = written.firmwareRevision) ∧
    ∀ (v : FirmwareInfo) (slot : Nat),
      let written := v.setSlot slot (.ofText text)
      FirmwareInfo.decode written.encode = .ok written ∧
      (∀ other ≠ slot, written.slot? other = v.slot? other) ∧
      if 1 ≤ slot ∧ slot ≤ 4 then
        ∃ shown, written.revision? slot = some shown ∧ Revision.ReadsBack text shown
      else written = v ∧ written.revision? slot = none := by
  refine ⟨fun v => ⟨Revision.text_ofText text, _, Identify.packsExactly.decode_encode _, rfl⟩,
    fun v slot => ⟨FirmwareInfo.packsExactly.decode_encode _, fun other different => ?_, ?_⟩⟩
  · rw [FirmwareInfo.slot?_setSlot, if_neg (fun same => different same.1)]
  split
  case isTrue inside =>
    refine ⟨_, ?_, Revision.text_ofText text⟩
    rw [FirmwareInfo.revision?, FirmwareInfo.slot?_setSlot,
      if_pos ⟨rfl, FirmwareInfo.isSome_slot?_iff.mpr inside⟩, Option.map_some]
  case isFalse outside =>
    have same := FirmwareInfo.setSlot_of_no_slot outside (v := v) (.ofText text)
    refine ⟨same, ?_⟩
    have missing : v.slot? slot = none := by
      rwa [← FirmwareInfo.isSome_slot?_iff (v := v), Option.not_isSome_iff_eq_none] at outside
    rw [same, FirmwareInfo.revision?, missing, Option.map_none]

/-- The second byte of the last character has no room: U+FFFD is read, which is not in the text. -/
theorem cut_character_shown :
    let text := "0123456789abcde\u00e9"
    let shown := "0123456789abcde\ufffd"
    (Revision.ofText text).text = shown ∧
      (FirmwareInfo.setSlot {} 1 (.ofText text)).revision? 1 = some shown ∧
      '\ufffd' ∈ shown.toList ∧ '\ufffd' ∉ text.toList ∧
      ¬ ∃ kept, Revision.Kept text.toList kept ∧ Text.Trimmed kept shown.toList := by
  intro text shown
  have read : (Revision.ofText text).text = shown := by decide +kernel
  have among : '\ufffd' ∈ shown.toList := by decide
  have absent : '\ufffd' ∉ text.toList := by decide
  refine ⟨read, congrArg some read, among, absent, ?_⟩
  rintro ⟨kept, longest, trimmed⟩
  exact absent ((trimmed.isInfix.trans longest.begins.isInfix).subset among)

end CxlMailbox
