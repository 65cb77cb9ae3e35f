/-
# CxlMailbox.Bytes — payload bytes and little-endian words

Everything that crosses the mailbox is a list of bytes. This module has what the rest of the
library does with them:

* `overlay`: bytes laid over the front of a buffer, whose length never changes
  (`length_overlay`) and whose tail keeps its content (`drop_overlay`);
* `Bytes.splice` and `Bytes.slice`: a window of a byte area written and read;
* `Block`: a field of a fixed number of bytes;
* `littleEndian` and `fromLittleEndian`: words in their wire form, inverse to each other on
  words of the width (`fromLittleEndian_littleEndian`) and on byte lists
  (`littleEndian_fromLittleEndian`).
-/

namespace CxlMailbox

set_option autoImplicit false

/-- Payload bytes, first byte first. -/
abbrev Bytes := List UInt8

/-- `front` laid over the first elements of `base`; whatever does not fit is cut off. -/
def overlay {α : Type} (front base : List α) : List α :=
  front.take base.length ++ base.drop front.length

section Overlay

variable {α : Type}

@[simp] theorem length_overlay (front base : List α) :
    (overlay front base).length = base.length := by
  simp only [overlay, List.length_append, List.length_take, List.length_drop]
  omega

@[simp] theorem overlay_nil (base : List α) : overlay [] base = base := by
  simp [overlay]

theorem overlay_of_length_eq {front base : List α} (h : front.length = base.length) :
    overlay front base = front := by
  simp [overlay, h, List.drop_of_length_le, List.take_of_length_le (Nat.le_of_eq h)]

theorem take_overlay {front base : List α} (h : front.length ≤ base.length) :
    (overlay front base).take front.length = front := by
  simp [overlay, List.take_of_length_le h]

/-- Elements that do not fit are not laid. -/
theorem overlay_take_front (front base : List α) :
    overlay (front.take base.length) base = overlay front base := by
  rcases Nat.le_total front.length base.length with short | long
  · rw [List.take_of_length_le short]
  · simp [overlay, List.take_take, List.drop_of_length_le long, Nat.min_eq_left long]

/-- Elements past the laid part are those of the base. -/
theorem drop_overlay (front base : List α) :
    (overlay front base).drop front.length = base.drop front.length := by
  rcases Nat.le_total front.length base.length with h | h
  · simp [overlay, List.take_of_length_le h]
  · rw [List.drop_of_length_le (by simpa using h), List.drop_of_length_le h]

theorem overlay_replicate {front : List α} {n : Nat} (fits : front.length ≤ n) (a : α) :
    overlay front (List.replicate n a) = front ++ List.replicate (n - front.length) a := by
  rw [overlay, List.length_replicate, List.take_of_length_le fits, List.drop_replicate]

end Overlay

namespace Bytes

/-- `n` zero bytes. -/
def zeros (n : Nat) : Bytes := List.replicate n 0

@[simp] theorem length_zeros (n : Nat) : (zeros n).length = n := by simp [zeros]

/-- The `n` bytes of `area` from `offset` on, fewer where the area ends. -/
def slice (area : Bytes) (offset n : Nat) : Bytes := (area.drop offset).take n

/-- `area` with `data` written at `offset`; the area keeps its length. -/
def splice (area : Bytes) (offset : Nat) (data : Bytes) : Bytes :=
  area.take offset ++ overlay data (area.drop offset)

@[simp] theorem length_splice (area : Bytes) (offset : Nat) (data : Bytes) :
    (splice area offset data).length = area.length := by
  simp only [splice, List.length_append, List.length_take, length_overlay, List.length_drop]
  omega

/-- Written bytes that end inside the area take the place of those that were there. -/
theorem splice_eq {area data : Bytes} {offset : Nat}
    (ends : offset + data.length ≤ area.length) :
    splice area offset data = area.take offset ++ data ++ area.drop (offset + data.length) := by
  have short : data.length ≤ (area.drop offset).length := by
    rw [List.length_drop]
    omega
  rw [splice, overlay, List.take_of_length_le short, List.drop_drop, List.append_assoc]

/-- Bytes written to the front of an area leave its end, as far as the front reaches. -/
theorem splice_take {area data : Bytes} {offset rest : Nat}
    (ends : offset + data.length + rest ≤ area.length) :
    splice (area.take (offset + data.length + rest)) offset data =
      area.take offset ++ data ++ (area.drop (offset + data.length)).take rest := by
  have inside : offset + data.length ≤ (area.take (offset + data.length + rest)).length := by
    rw [List.length_take]
    omega
  have before : offset ≤ offset + data.length + rest := by omega
  rw [splice_eq inside, List.take_take, Nat.min_eq_left before, List.drop_take,
    Nat.add_sub_cancel_left]

/-- What was written inside the area is read back from it. -/
theorem slice_splice {area data : Bytes} {offset : Nat}
    (h : offset + data.length ≤ area.length) :
    slice (splice area offset data) offset data.length = data := by
  have hlen : (area.take offset).length = offset := by
    rw [List.length_take]; omega
  have hdrop : (splice area offset data).drop offset = overlay data (area.drop offset) := by
    rw [splice, List.drop_append, hlen, Nat.sub_self, List.drop_zero,
      List.drop_of_length_le (Nat.le_of_eq hlen), List.nil_append]
  rw [slice, hdrop, take_overlay]
  simpa using by omega

end Bytes

/-- A field of exactly `n` bytes. -/
structure Block (n : Nat) where
  bytes : Bytes
  length_bytes : bytes.length = n
  deriving DecidableEq, Repr

namespace Block

/-- The first `n` of the given bytes, filled up with zeros. -/
def ofBytes (n : Nat) (bytes : Bytes) : Block n :=
  ⟨overlay bytes (Bytes.zeros n), by simp⟩

@[simp] theorem ofBytes_bytes {n : Nat} (block : Block n) : ofBytes n block.bytes = block := by
  obtain ⟨bytes, h⟩ := block
  simp only [ofBytes, Block.mk.injEq]
  exact overlay_of_length_eq (by simpa using h)

instance {n : Nat} : Inhabited (Block n) := ⟨ofBytes n []⟩

end Block

/-! ## Words in wire order -/

/-- The `width` low bytes of `value`, lowest first. -/
def littleEndian : (width : Nat) → (value : Nat) → Bytes
  | 0, _ => []
  | width + 1, value => UInt8.ofNat value :: littleEndian width (value / 256)

/-- How many words of `width` bytes there are. -/
def wordCount : (width : Nat) → Nat
  | 0 => 1
  | width + 1 => 256 * wordCount width

/-- The number whose bytes are given, lowest first. -/
def fromLittleEndian : Bytes → Nat
  | [] => 0
  | byte :: rest => byte.toNat + 256 * fromLittleEndian rest

@[simp] theorem length_littleEndian (width value : Nat) :
    (littleEndian width value).length = width := by
  induction width generalizing value with
  | zero => rfl
  | succ width ih => simp [littleEndian, ih]

/-- A written word reads back modulo its width. -/
theorem fromLittleEndian_littleEndian (width value : Nat) :
    fromLittleEndian (littleEndian width value) = value % wordCount width := by
  induction width generalizing value with
  | zero => simp [littleEndian, fromLittleEndian, wordCount, Nat.mod_one]
  | succ width ih =>
    have hbyte : (UInt8.ofNat value).toNat = value % 256 := UInt8.toNat_ofNat'
    simp only [littleEndian, fromLittleEndian, ih, hbyte, wordCount, Nat.mod_mul]

/-- Every byte list is the wire form of its number. -/
theorem littleEndian_fromLittleEndian (bytes : Bytes) :
    littleEndian bytes.length (fromLittleEndian bytes) = bytes := by
  induction bytes with
  | nil => rfl
  | cons byte rest ih =>
    have hbyte : byte.toNat < 256 := byte.toNat_lt
    have hdiv : (byte.toNat + 256 * fromLittleEndian rest) / 256 = fromLittleEndian rest := by
      omega
    have hlow : UInt8.ofNat (byte.toNat + 256 * fromLittleEndian rest) = byte := by
      apply UInt8.toNat_inj.mp
      rw [UInt8.toNat_ofNat']
      omega
    simp only [List.length_cons, fromLittleEndian, littleEndian, hdiv, hlow, ih]

theorem fromLittleEndian_lt (bytes : Bytes) : fromLittleEndian bytes < wordCount bytes.length := by
  induction bytes with
  | nil => simp [fromLittleEndian, wordCount]
  | cons byte rest ih =>
    have hbyte : byte.toNat < 256 := byte.toNat_lt
    simp only [fromLittleEndian, List.length_cons, wordCount]
    omega

theorem wordCount_mono {m n : Nat} (le : m ≤ n) : wordCount m ≤ wordCount n := by
  induction le with
  | refl => exact Nat.le_refl _
  | step _ ih =>
    rw [wordCount]
    omega

theorem fromLittleEndian_take_lt (bytes : Bytes) (width : Nat) :
    fromLittleEndian (bytes.take width) < wordCount width := by
  have bound := fromLittleEndian_lt (bytes.take width)
  have fits : wordCount (bytes.take width).length ≤ wordCount width :=
    wordCount_mono (List.length_take_le _ _)
  omega

/-- A byte as payload. -/
def le8 (word : UInt8) : Bytes := littleEndian 1 word.toNat

/-- A 16-bit word in wire order. -/
def le16 (word : UInt16) : Bytes := littleEndian 2 word.toNat

/-- A 32-bit word in wire order. -/
def le32 (word : UInt32) : Bytes := littleEndian 4 word.toNat

/-- A 64-bit word in wire order. -/
def le64 (word : UInt64) : Bytes := littleEndian 8 word.toNat

@[simp] theorem length_le8 (word : UInt8) : (le8 word).length = 1 := by simp [le8]
@[simp] theorem length_le16 (word : UInt16) : (le16 word).length = 2 := by simp [le16]
@[simp] theorem length_le32 (word : UInt32) : (le32 word).length = 4 := by simp [le32]
@[simp] theorem length_le64 (word : UInt64) : (le64 word).length = 8 := by simp [le64]

example : le32 0x12345678 = [0x78, 0x56, 0x34, 0x12] := by decide
example : fromLittleEndian [0x34, 0x12] = 0x1234 := by decide

end CxlMailbox
