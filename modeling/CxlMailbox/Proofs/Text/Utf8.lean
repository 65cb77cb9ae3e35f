/-
# CxlMailbox.Proofs.Text.Utf8 — what the bytes of a text are read as

A character is written as a first byte, whose `Lead` tells what has to follow, and the bytes that
do follow (`Continues`); `spells_encodeChar` says so of every character, by the number of its
bytes.  With that the reader is followed unit by unit:

* `units_encode`: the bytes of characters, whatever stands behind them, are read as these;
* `lossyText_encode`: so the bytes of a text are read as that text;
* `units_cut`: the bytes of a character without its last ones are read as one broken unit;
* `zero_mem_encodeChar_iff`: only the character NUL has a byte that is zero.
-/
import CxlMailbox.Text.Utf8
import Mathlib.Data.List.TakeDrop

namespace CxlMailbox.Text.Utf8

set_option autoImplicit false

/-! ## The bytes of a character -/

/-- The bytes that go on with a unit whose value so far is `bits`, and the value they lead to.  The
first of them lies between `low` and `high`. -/
inductive Continues : (low high bits : Nat) → Bytes → (value : Nat) → Prop
  | done {low high bits : Nat} : Continues low high bits [] bits
  | next {low high bits value : Nat} {byte : UInt8} {rest : Bytes}
      (above : low ≤ byte.toNat) (below : byte.toNat ≤ high)
      (more : Continues 0x80 0xbf (bits * 64 + (byte.toNat - 0x80)) rest value) :
      Continues low high bits (byte :: rest) value

/-- A first byte and the bytes that it promises lead to the value. -/
inductive Spells : (byte : UInt8) → (tail : Bytes) → (value : Nat) → Prop
  | intro {byte : UInt8} {tail : Bytes} {value low high bits : Nat}
      (leads : lead? byte.toNat = some ⟨tail.length, low, high, bits⟩)
      (more : Continues low high bits tail value) : Spells byte tail value

section Sizes

variable {value bits : Nat}

/-- The bound as a numeral, for arithmetic. -/
theorem toNat_ofNat_of_lt {n : Nat} (small : n < 256) : (UInt8.ofNat n).toNat = n :=
  UInt8.toNat_ofNat_of_lt' small

/-- A byte behind the first carries six bits. -/
theorem Continues.follower {low high n : Nat} {rest : Bytes} (above : low ≤ n % 64 + 128)
    (below : n % 64 + 128 ≤ high) (more : Continues 0x80 0xbf (bits * 64 + n % 64) rest value) :
    Continues low high bits (UInt8.ofNat (n % 64 + 128) :: rest) value := by
  have byte : (UInt8.ofNat (n % 64 + 128)).toNat = n % 64 + 128 := toNat_ofNat_of_lt (by omega)
  refine .next ?_ ?_ ?_ <;> rw [byte]
  · exact above
  · exact below
  · rwa [Nat.add_sub_cancel]

theorem lead?_one (high : bits < 0x80) : lead? (UInt8.ofNat bits).toNat = some ⟨0, 0, 0, bits⟩ := by
  rw [toNat_ofNat_of_lt (by omega)]
  exact if_pos high

theorem lead?_two (low : 2 ≤ bits) (high : bits < 32) :
    lead? (UInt8.ofNat (bits + 192)).toNat = some ⟨1, 0x80, 0xbf, bits⟩ := by
  rw [toNat_ofNat_of_lt (by omega), lead?]
  split_ifs <;> first | omega | simp

theorem lead?_three (high : bits < 16) :
    lead? (UInt8.ofNat (bits + 224)).toNat = some ⟨2, if bits = 0 then 0xa0 else 0x80,
      if bits = 0xd then 0x9f else 0xbf, bits⟩ := by
  rw [toNat_ofNat_of_lt (by omega), lead?]
  split_ifs <;> first | omega | simp <;> omega

theorem lead?_four (high : bits < 5) :
    lead? (UInt8.ofNat (bits + 240)).toNat = some ⟨3, if bits = 0 then 0x90 else 0x80,
      if bits = 4 then 0x8f else 0xbf, bits⟩ := by
  rw [toNat_ofNat_of_lt (by omega), lead?]
  split_ifs <;> first | omega | simp <;> omega

theorem spells_one (below : value ≤ 0x7f) : Spells (UInt8.ofNat value) [] value :=
  .intro (lead?_one (by omega)) .done

theorem spells_two (above : 0x7f < value) (below : value ≤ 0x7ff) :
    Spells (UInt8.ofNat (value / 64 % 32 + 192)) [UInt8.ofNat (value % 64 + 128)] value := by
  rw [Nat.mod_eq_of_lt (by omega : value / 64 < 32)]
  have leads := @lead?_two (value / 64) (by omega) (by omega)
  refine .intro leads (.follower (by omega) (by omega) ?_)
  rw [Nat.div_add_mod']
  exact .done

/-- The second of three bytes is bounded so that no shorter form and no surrogate is written. -/
theorem spells_three (above : 0x7ff < value) (below : value ≤ 0xffff)
    (range : value < 0xd800 ∨ 0xdfff < value) :
    Spells (UInt8.ofNat (value / 4096 % 16 + 224))
      [UInt8.ofNat (value / 64 % 64 + 128), UInt8.ofNat (value % 64 + 128)] value := by
  rw [Nat.mod_eq_of_lt (by omega : value / 4096 < 16)]
  have leads := @lead?_three (value / 4096) (by omega)
  refine .intro leads (.follower ?_ ?_ (.follower (by omega) (by omega) ?_))
  · split <;> omega
  · split <;> omega
  · rw [show (value / 4096 * 64 + value / 64 % 64) * 64 + value % 64 = value by omega]
    exact .done

/-- The second of four bytes is bounded so that no shorter form and no larger value is written. -/
theorem spells_four (above : 0xffff < value) (below : value < 0x110000) :
    Spells (UInt8.ofNat (value / 262144 % 8 + 240))
      [UInt8.ofNat (value / 4096 % 64 + 128), UInt8.ofNat (value / 64 % 64 + 128),
        UInt8.ofNat (value % 64 + 128)] value := by
  rw [Nat.mod_eq_of_lt (by omega : value / 262144 < 8)]
  have leads := @lead?_four (value / 262144) (by omega)
  refine .intro leads (.follower ?_ ?_
    (.follower (by omega) (by omega) (.follower (by omega) (by omega) ?_)))
  · split <;> omega
  · split <;> omega
  · rw [show ((value / 262144 * 64 + value / 4096 % 64) * 64 + value / 64 % 64) * 64 +
      value % 64 = value by omega]
    exact .done

end Sizes

/-- Surrogates are no characters. -/
theorem toNat_range (c : Char) : c.toNat < 0xd800 ∨ 0xdfff < c.toNat ∧ c.toNat < 0x110000 :=
  c.valid

/-- Every character is written as it is read. -/
theorem spells_encodeChar (c : Char) :
    ∃ byte tail, String.utf8EncodeChar c = byte :: tail ∧ Spells byte tail c.toNat := by
  have range := toNat_range c
  unfold String.utf8EncodeChar
  simp only [Char.toNat_val]
  split
  case isTrue one => exact ⟨_, _, rfl, spells_one one⟩
  split
  case isTrue two => exact ⟨_, _, rfl, spells_two (by omega) two⟩
  split
  case isTrue three => exact ⟨_, _, rfl, spells_three (by omega) three (by omega)⟩
  case isFalse four => exact ⟨_, _, rfl, spells_four (by omega) (by omega)⟩

/-- Only NUL has a byte that is zero. -/
theorem zero_mem_encodeChar_iff {c : Char} : 0 ∈ String.utf8EncodeChar c ↔ c = '\x00' := by
  constructor
  · intro zero
    by_contra other
    have positive : 0 < c.toNat := Nat.pos_of_ne_zero fun nul => other (Char.toNat_inj.mp nul)
    have apart {n : Nat} (above : 0 < n) (below : n < 256) : (0 : UInt8) ≠ UInt8.ofNat n := by
      intro same
      have equal := congrArg UInt8.toNat same
      rw [toNat_ofNat_of_lt below] at equal
      exact Nat.ne_of_lt above equal
    unfold String.utf8EncodeChar at zero
    simp only [Char.toNat_val] at zero
    split_ifs at zero <;> simp only [List.mem_cons, List.not_mem_nil, or_false] at zero
    · exact apart positive (by omega) zero
    · rcases zero with zero | zero <;> exact apart (by omega) (by omega) zero
    · rcases zero with zero | zero | zero <;> exact apart (by omega) (by omega) zero
    · rcases zero with zero | zero | zero | zero <;> exact apart (by omega) (by omega) zero
  · rintro rfl
    decide

/-! ## Reading units -/

section Reading

variable {low high bits value taken n : Nat} {tail : Bytes}

/-- Bytes that go on with a unit are read to its end, whatever is behind them. -/
theorem continuation_whole (more : Continues low high bits tail value) (rest : Bytes) :
    continuation taken bits tail.length low high (tail ++ rest) =
      ⟨some (Char.ofNat value), taken + tail.length⟩ := by
  induction more generalizing taken with
  | done => rfl
  | next above below more ih =>
      rw [List.length_cons, List.cons_append, continuation, if_pos ⟨above, below⟩, ih,
        Nat.add_right_comm, Nat.add_assoc]

/-- Without its last bytes the unit breaks off where they end. -/
theorem continuation_cut (more : Continues low high bits tail value) (short : n < tail.length) :
    continuation taken bits tail.length low high (tail.take n) = ⟨none, taken + n⟩ := by
  induction more generalizing taken n with
  | done => cases short
  | next above below more ih =>
      cases n with
      | zero => rfl
      | succ n =>
          rw [List.length_cons, List.take_succ_cons, continuation, if_pos ⟨above, below⟩,
            ih (Nat.lt_of_succ_lt_succ short), Nat.add_right_comm, Nat.add_assoc]

theorem units_cons (byte : UInt8) (rest : Bytes) : units (byte :: rest) =
    (piece byte rest).char? :: units (rest.drop (piece byte rest).following) := by
  rw [units]

theorem units_encodeChar (c : Char) (rest : Bytes) :
    units (String.utf8EncodeChar c ++ rest) = some c :: units rest := by
  obtain ⟨byte, tail, written, ⟨leads, more⟩⟩ := spells_encodeChar c
  have read : piece byte (tail ++ rest) = ⟨some c, tail.length⟩ := by
    rw [piece, leads]
    exact (continuation_whole more rest).trans (by rw [Char.ofNat_toNat, Nat.zero_add])
  rw [written, List.cons_append, units_cons, read, List.drop_left]

/-- The first bytes of a character without the others are one broken unit. -/
theorem units_cut (c : Char) (some_ : 0 < n) (short : n < (String.utf8EncodeChar c).length) :
    units ((String.utf8EncodeChar c).take n) = [none] := by
  obtain ⟨byte, tail, written, ⟨leads, more⟩⟩ := spells_encodeChar c
  obtain ⟨n, rfl⟩ := Nat.exists_eq_add_one_of_ne_zero (Nat.ne_of_gt some_)
  rw [written] at short ⊢
  have inside : n < tail.length := Nat.lt_of_succ_lt_succ short
  have read : piece byte (tail.take n) = ⟨none, n⟩ := by
    rw [piece, leads]
    exact (continuation_cut more inside).trans (by rw [Nat.zero_add])
  rw [List.take_succ_cons, units_cons, read, List.drop_of_length_le (List.length_take_le _ _),
    units]

/-- The bytes of a text. -/
theorem units_encode (chars : List Char) (rest : Bytes) :
    units (chars.flatMap String.utf8EncodeChar ++ rest) = chars.map some ++ units rest := by
  induction chars with
  | nil => rfl
  | cons c chars ih =>
      rw [List.flatMap_cons, List.append_assoc, units_encodeChar, ih]
      rfl

end Reading

/-! ## The bytes of a text -/

theorem encode_eq (text : String) : encode text = text.toList.flatMap String.utf8EncodeChar := by
  have bytes : text.toByteArray = (text.toList.flatMap String.utf8EncodeChar).toByteArray :=
    String.utf8Encode_toList.symm
  rw [encode, String.toUTF8, bytes, List.data_toByteArray, List.toList_toArray]

/-- The bytes of a text are read as that text. -/
@[simp] theorem lossyText_encode (text : String) : lossyText (encode text) = text := by
  have whole : units (encode text) = text.toList.map some := by
    have read := units_encode text.toList []
    rwa [List.append_nil, units, List.append_nil, ← encode_eq] at read
  rw [lossyText, decodeLossy, whole, List.map_map]
  simp only [Function.comp_def, Option.getD_some, List.map_id', String.ofList_toList]

theorem utf8ByteSize_ofList (chars : List Char) :
    (String.ofList chars).utf8ByteSize = (chars.flatMap String.utf8EncodeChar).length := by
  rw [← String.size_toByteArray, String.toByteArray_ofList, List.utf8Encode,
    List.size_toByteArray]

end CxlMailbox.Text.Utf8
