/-
# CxlMailbox.Proofs.Payload.Reading — no field is missing

A `Reader` checks every field that it reads.  A `Reading` of it says that none of these checks fails
where so many bytes are left, and what has been read then, as a function of the bytes:

* `Reading.bind` and the readings of the single fields put one together for each format;
* `Reading.exactly_eq`: behind the check of the length in front, the checks of the fields are idle;
* `value_u16` and its kin: a field reads back what was written, and the next one starts behind it.
-/
import CxlMailbox.Payload.Alert
import CxlMailbox.Payload.EventPolicy
import CxlMailbox.Payload.Firmware
import CxlMailbox.Payload.Health
import CxlMailbox.Payload.Identify
import CxlMailbox.Payload.Log
import Mathlib.Algebra.Group.Nat.Defs

namespace CxlMailbox

set_option autoImplicit false

variable {α β : Type}

/-- The reader takes `width` bytes wherever as many are left, and makes a value of them. -/
structure Reading (reader : Reader α) (width : Nat) where
  /-- What is read from the front of the bytes that are left. -/
  value : Bytes → α
  reads : ∀ place : Cursor, width ≤ place.rest.length →
    reader place = .ok (value place.rest, place.advance width)

theorem Cursor.advance_advance (place : Cursor) (m n : Nat) :
    (place.advance m).advance n = place.advance (m + n) := by
  simp only [advance, Nat.add_assoc, List.drop_drop]

namespace Reading

/-! ## Putting readings together -/

section Sequences

variable {m n : Nat} {reader : Reader α}

def pure (a : α) : Reading (Pure.pure a) 0 where
  value _ := a
  reads _ _ := rfl

/-- A reader of several parts reads them one after the other. -/
def bind {next : α → Reader β} (first : Reading reader m) (rest : ∀ a, Reading (next a) n) :
    Reading (reader >>= next) (m + n) where
  value payload := (rest (first.value payload)).value (payload.drop m)
  reads place long := by
    have later : n ≤ (place.advance m).rest.length := by
      rw [Cursor.advance, List.length_drop]
      omega
    calc (reader >>= next) place
        = (reader place).bind fun read => next read.1 read.2 := rfl
      _ = next (first.value place.rest) (place.advance m) := by
          rw [first.reads place (by omega)]
          rfl
      _ = .ok ((rest (first.value place.rest)).value (place.rest.drop m),
            place.advance (m + n)) := by
          rw [(rest _).reads _ later, Cursor.advance_advance]
          rfl

@[simp] theorem value_pure (a : α) (payload : Bytes) : (pure a).value payload = a := rfl

/-- The first part has the front of the bytes if that is all it takes, and the others the rest. -/
@[simp] theorem value_bind {next : α → Reader β} (first : Reading reader m)
    (others : ∀ a, Reading (next a) n) {front rest : Bytes} (taken : front.length = m) :
    (first.bind others).value (front ++ rest) =
      (others (first.value (front ++ rest))).value rest := by
  change (others _).value ((front ++ rest).drop m) = _
  rw [List.drop_left' taken]

/-- Something is made of what was read. -/
def map (f : α → β) (read : Reading reader n) : Reading (do return f (← reader)) n :=
  read.bind fun a => pure (f a)

end Sequences

/-! ## Fields -/

def bytes (n : Nat) : Reading (Reader.bytes n) n where
  value payload := payload.take n
  reads _ long := if_pos long

def skip (n : Nat) : Reading (Reader.skip n) n := (bytes n).map fun _ => ()
def block (n : Nat) : Reading (Reader.block n) n := (bytes n).map (Block.ofBytes n)
def word (n : Nat) : Reading (Reader.word n) n := (bytes n).map fromLittleEndian
def u8 : Reading Reader.u8 1 := (word 1).map UInt8.ofNat
def u16 : Reading Reader.u16 2 := (word 2).map UInt16.ofNat
def u32 : Reading Reader.u32 4 := (word 4).map UInt32.ofNat
def u64 : Reading Reader.u64 8 := (word 8).map UInt64.ofNat

section Values

variable (payload : Bytes)

/-- A number that is read is the value of the bytes it is read from. -/
theorem toNat_u8 : (u8.value payload).toNat = fromLittleEndian (payload.take 1) :=
  Nat.mod_eq_of_lt (fromLittleEndian_take_lt payload 1)

theorem toNat_u16 : (u16.value payload).toNat = fromLittleEndian (payload.take 2) :=
  Nat.mod_eq_of_lt (fromLittleEndian_take_lt payload 2)

theorem toNat_u32 : (u32.value payload).toNat = fromLittleEndian (payload.take 4) :=
  Nat.mod_eq_of_lt (fromLittleEndian_take_lt payload 4)

theorem toNat_u64 : (u64.value payload).toNat = fromLittleEndian (payload.take 8) :=
  Nat.mod_eq_of_lt (fromLittleEndian_take_lt payload 8)

/-- Three bytes fit a word of 32 bits. -/
theorem toNat_word_three :
    (UInt32.ofNat ((word 3).value payload)).toNat = fromLittleEndian (payload.take 3) := by
  have fits : (word 3).value payload < wordCount 3 := fromLittleEndian_take_lt payload 3
  exact Nat.mod_eq_of_lt (Nat.lt_trans fits (by decide))

theorem word_three_lt : (UInt32.ofNat ((word 3).value payload)).toNat < 2 ^ 24 := by
  rw [toNat_word_three]
  exact fromLittleEndian_take_lt payload 3

end Values

/-- A block that is read is the bytes it is read from, if there are enough. -/
theorem bytes_block {n : Nat} {payload : Bytes} (long : n ≤ payload.length) :
    ((block n).value payload).bytes = payload.take n := by
  have whole : (payload.take n).length = (Bytes.zeros n).length := by
    rw [List.length_take, Bytes.length_zeros]
    omega
  exact overlay_of_length_eq whole

/-! ### What was written reads back -/

section Written

variable (rest : Bytes)

/-- A number that is too large for its field is written modulo what the field has room for. -/
@[simp] theorem value_word (width value : Nat) :
    (word width).value (littleEndian width value ++ rest) = value % wordCount width := by
  change fromLittleEndian ((littleEndian width value ++ rest).take width) = _
  rw [List.take_left' (length_littleEndian width value), fromLittleEndian_littleEndian]

@[simp] theorem value_u8 (v : UInt8) : u8.value (le8 v ++ rest) = v := by
  apply UInt8.toNat_inj.mp
  rw [toNat_u8, List.take_left' (length_le8 v), le8, fromLittleEndian_littleEndian]
  exact Nat.mod_eq_of_lt v.toNat_lt

@[simp] theorem value_u16 (v : UInt16) : u16.value (le16 v ++ rest) = v := by
  apply UInt16.toNat_inj.mp
  rw [toNat_u16, List.take_left' (length_le16 v), le16, fromLittleEndian_littleEndian]
  exact Nat.mod_eq_of_lt v.toNat_lt

@[simp] theorem value_u32 (v : UInt32) : u32.value (le32 v ++ rest) = v := by
  apply UInt32.toNat_inj.mp
  rw [toNat_u32, List.take_left' (length_le32 v), le32, fromLittleEndian_littleEndian]
  exact Nat.mod_eq_of_lt v.toNat_lt

@[simp] theorem value_u64 (v : UInt64) : u64.value (le64 v ++ rest) = v := by
  apply UInt64.toNat_inj.mp
  rw [toNat_u64, List.take_left' (length_le64 v), le64, fromLittleEndian_littleEndian]
  exact Nat.mod_eq_of_lt v.toNat_lt

@[simp] theorem value_block {n : Nat} (b : Block n) : (block n).value (b.bytes ++ rest) = b := by
  change Block.ofBytes n ((b.bytes ++ rest).take n) = b
  rw [List.take_left' b.length_bytes, Block.ofBytes_bytes]

end Written

/-! ## Entries one after the other -/

section Entries

variable {reader : Reader α} {width : Nat} (entry : Reading reader width)

/-- So many entries, each from a window of its own. -/
def entries : (count : Nat) → Bytes → List α
  | 0, _ => []
  | count + 1, payload => entry.value payload :: entries count (payload.drop width)

theorem times_eq_ok (count : Nat) (place : Cursor) (long : count * width ≤ place.rest.length) :
    reader.times count place =
      .ok (entry.entries count place.rest, place.advance (count * width)) := by
  induction count generalizing place with
  | zero =>
      rw [Nat.zero_mul]
      rfl
  | succ count ih =>
      have total : (count + 1) * width = width + count * width := by
        rw [Nat.succ_mul, Nat.add_comm]
      let others : Reading (reader.times count) (count * width) := ⟨entry.entries count, ih⟩
      rw [total] at long ⊢
      exact (entry.bind fun first => others.map (first :: ·)).reads place long

def times (count : Nat) : Reading (reader.times count) (count * width) :=
  ⟨entry.entries count, entry.times_eq_ok count⟩

end Entries

/-! ## Whole formats -/

/-- Where the length is checked in front, a payload that is not refused there is read to the end. -/
theorem exactly_eq {reader : Reader α} {size width : Nat} (reading : Reading reader width)
    (enough : width ≤ size) (payload : Bytes) :
    Reader.exactly size reader payload =
      if payload.length < size then .error (.shortPayload size payload.length)
      else .ok (reading.value payload) := by
  unfold Reader.exactly
  by_cases short : payload.length < size
  · rw [if_pos short, if_pos short]
  · have long : width ≤ (Cursor.start payload).rest.length :=
      Nat.le_trans enough (Nat.le_of_not_lt short)
    rw [if_neg short, if_neg short, reading.reads _ long]
    rfl

theorem exactly_eq_error_iff {reader : Reader α} {size : Nat} (reading : Reading reader size)
    {payload : Bytes} {e : Error} :
    Reader.exactly size reader payload = .error e ↔
      payload.length < size ∧ e = .shortPayload size payload.length := by
  rw [reading.exactly_eq (Nat.le_refl _)]
  rcases Nat.lt_or_ge payload.length size with short | long
  · simp [short, eq_comm]
  · simp [Nat.not_lt.mpr long]

end Reading

/-! ## The formats -/

open Reading

def Identify.reading : Reading Identify.reader Identify.size :=
  (block 16).bind fun _ => u64.bind fun _ => u64.bind fun _ => u64.bind fun _ => u64.bind fun _ =>
    u16.bind fun _ => u16.bind fun _ => u16.bind fun _ => u16.bind fun _ => u32.bind fun _ =>
    (word 3).bind fun _ => u16.bind fun _ => u8.bind fun _ => u8.bind fun _ => .pure _

def Health.reading : Reading Health.reader Health.size :=
  u8.bind fun _ => u8.bind fun _ => u8.bind fun _ => u8.bind fun _ => u16.bind fun _ =>
    u32.bind fun _ => u32.bind fun _ => u32.bind fun _ => .pure _

def AlertConfig.reading : Reading AlertConfig.reader AlertConfig.size :=
  u8.bind fun _ => u8.bind fun _ => u8.bind fun _ => u8.bind fun _ => u16.bind fun _ =>
    u16.bind fun _ => u16.bind fun _ => u16.bind fun _ => u16.bind fun _ => u16.bind fun _ => .pure _

def AlertRequest.reading : Reading AlertRequest.reader AlertRequest.size :=
  u8.bind fun _ => u8.bind fun _ => u8.bind fun _ => (skip 1).bind fun _ => u16.bind fun _ =>
    u16.bind fun _ => u16.bind fun _ => u16.bind fun _ => .pure _

def EventPolicy.reading : Reading EventPolicy.reader EventPolicy.size :=
  u8.bind fun _ => u8.bind fun _ => u8.bind fun _ => u8.bind fun _ => .pure _

def FirmwareInfo.reading : Reading FirmwareInfo.reader FirmwareInfo.size :=
  u8.bind fun _ => u8.bind fun _ => u8.bind fun _ => (skip 13).bind fun _ =>
    (block 16).bind fun _ => (block 16).bind fun _ => (block 16).bind fun _ =>
    (block 16).bind fun _ => .pure _

def LogRequest.reading : Reading LogRequest.reader LogRequest.size :=
  (block 16).bind fun _ => u32.bind fun _ => u32.bind fun _ => .pure _

namespace SupportedLog

def reading : Reading reader entrySize := (block 16).bind fun _ => u32.bind fun _ => .pure _

/-- The entries of a list that counts so many. -/
def listReading (count : Nat) :
    Reading (do Reader.skip headerSize; Reader.times reader count)
      (headerSize + count * entrySize) :=
  (skip headerSize).bind fun _ => reading.times count

end SupportedLog

end CxlMailbox
