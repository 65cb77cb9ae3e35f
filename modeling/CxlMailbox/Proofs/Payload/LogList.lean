/-
# CxlMailbox.Proofs.Payload.LogList — lists of entries

Two formats are as long as their list.  The list of logs counts its entries in front, in 16 bits;
the Command Effects Log has entries up to its end.

* `entries_encode`: written entries are back, whatever follows them;
* `getElem_entries` and `encode_entries`: the entries that are read come from consecutive windows of
  the payload, and written again they are those windows;
* `decodeLog_encodeLog`, `encodeLog_decodeLog`: up to three bytes at the end make no entry.

`log_formats_exact` puts them together, for every list and for every payload.
-/
import CxlMailbox.Proofs.Inquiry.Typed
import CxlMailbox.Proofs.Payload.Formats

namespace CxlMailbox

set_option autoImplicit false

/-! ## Entries one after the other -/

namespace Reading

variable {α : Type} {reader : Reader α} {width : Nat} {entry : Reading reader width}
  {encode : α → Bytes}

/-- What was written entry by entry reads back. -/
theorem entries_encode (length_encode : ∀ v, (encode v).length = width)
    (read_encode : ∀ v rest, entry.value (encode v ++ rest) = v) (logs : List α) (rest : Bytes) :
    entry.entries logs.length (logs.flatMap encode ++ rest) = logs := by
  induction logs with
  | nil => rfl
  | cons log logs ih =>
      rw [List.length_cons, entries, List.flatMap_cons, List.append_assoc, read_encode,
        List.drop_left' (length_encode log), ih]

@[simp] theorem length_entries (entry : Reading reader width) (count : Nat) (payload : Bytes) :
    (entry.entries count payload).length = count := by
  induction count generalizing payload with
  | zero => rfl
  | succ count ih => rw [entries, List.length_cons, ih]

/-- Each entry is read from a window of its own. -/
theorem getElem_entries {count : Nat} {payload : Bytes} {i : Nat}
    (inRange : i < (entry.entries count payload).length) :
    (entry.entries count payload)[i] = entry.value (payload.drop (width * i)) := by
  induction count generalizing payload i with
  | zero => cases inRange
  | succ count ih =>
      simp only [entries] at inRange ⊢
      cases i with
      | zero => simp
      | succ i =>
          have later : i < (entry.entries count (payload.drop width)).length := by
            simpa using inRange
          have offset : width + width * i = width * (i + 1) := by
            rw [Nat.mul_succ, Nat.add_comm]
          rw [List.getElem_cons_succ, ih later, List.drop_drop, offset]

/-- Entries that were read are written as the windows they were read from. -/
theorem encode_entries
    (encode_read : ∀ payload, width ≤ payload.length →
      encode (entry.value payload) = payload.take width)
    {count : Nat} {payload : Bytes} (long : width * count ≤ payload.length) :
    (entry.entries count payload).flatMap encode = payload.take (width * count) := by
  induction count generalizing payload with
  | zero =>
      rw [Nat.mul_zero, List.take_zero]
      rfl
  | succ count ih =>
      rw [Nat.mul_succ] at long
      have first : width ≤ payload.length := by omega
      have later : width * count ≤ (payload.drop width).length := by
        rw [List.length_drop]
        omega
      rw [entries, List.flatMap_cons, encode_read payload first, ih later, Nat.mul_succ,
        Nat.add_comm, List.take_add]

end Reading

theorem fromLittleEndian_le16 (word : UInt16) : fromLittleEndian (le16 word) = word.toNat := by
  rw [le16, fromLittleEndian_littleEndian]
  exact Nat.mod_eq_of_lt word.toNat_lt

theorem le16_fromLittleEndian (low high : UInt8) :
    le16 (UInt16.ofNat (fromLittleEndian [low, high])) = [low, high] := by
  have word : (UInt16.ofNat (fromLittleEndian [low, high])).toNat = fromLittleEndian [low, high] :=
    Nat.mod_eq_of_lt (fromLittleEndian_lt [low, high])
  rw [le16, word]
  exact littleEndian_fromLittleEndian [low, high]

/-! ## The list of logs -/

namespace SupportedLog

/-- The fields of an entry. -/
def layout : Layout SupportedLog := [.block 16 (·.uuid.bytes), .word 4 (·.size.toNat)]

theorem read_encode (v : SupportedLog) (rest : Bytes) :
    reading.value (v.encode ++ rest) = v := by
  simp [encode, reading, Block.length_bytes]

theorem reads {payload : Bytes} (long : entrySize ≤ payload.length) :
    layout.Reads (reading.value payload) payload :=
  ⟨Reading.bytes_block (Nat.le_trans (by decide) long), Reading.toNat_u32 _, trivial⟩

theorem encode_eq (v : SupportedLog) : v.encode = layout.bytes v := by
  simp only [encode, layout, Layout.bytes, WireField.bytes, le32, List.append_nil]

theorem encode_read (payload : Bytes) (long : entrySize ≤ payload.length) :
    (reading.value payload).encode = payload.take entrySize := by
  have written := Layout.bytes_of_reads (show layout.size ≤ payload.length from long) (reads long)
  rw [encode_eq, written]
  exact Layout.clear_of_kept (by decide) payload

@[simp] theorem length_encode (v : SupportedLog) : v.encode.length = entrySize := by
  simp [encode, entrySize, v.uuid.length_bytes]

/-- The number of entries that the front of a list counts. -/
def counted (payload : Bytes) : Nat := fromLittleEndian (payload.take 2)

theorem counted_lt (payload : Bytes) : counted payload < 65536 :=
  fromLittleEndian_take_lt payload 2

/-- First the header has to be there, then all entries that it counts. -/
theorem decodeList_apply (payload : Bytes) :
    decodeList payload =
      if payload.length < 8 then .error (.shortPayload 8 payload.length)
      else if payload.length < 8 + 20 * counted payload then
        .error (.shortPayload (8 + 20 * counted payload) payload.length)
      else .ok (reading.entries (counted payload) (payload.drop 8)) := by
  have total : headerSize + counted payload * entrySize = 8 + 20 * counted payload := by
    rw [headerSize, entrySize, Nat.mul_comm]
  rw [decodeList_eq, listSize, ← counted, total]
  by_cases header : payload.length < 8
  · have short : payload.length < headerSize := header
    rw [if_pos short, if_pos short, if_pos header]
    rfl
  · have long : ¬ payload.length < headerSize := header
    rw [if_neg long, if_neg header]
    rfl

section Written

variable (logs : List SupportedLog)

theorem counted_encodeList : counted (encodeList logs) = logs.length % 65536 := by
  have front : (encodeList logs).take 2 = le16 (UInt16.ofNat logs.length) :=
    List.take_left' (length_le16 _)
  rw [counted, front, fromLittleEndian_le16, UInt16.toNat_ofNat']

theorem drop_encodeList : (encodeList logs).drop 8 = logs.flatMap encode := by
  rw [encodeList, ← List.append_assoc]
  exact List.drop_left' (by simp)

theorem length_encodeList : (encodeList logs).length = 8 + 20 * logs.length := by
  have entries : (logs.flatMap encode).length = logs.length * 20 := by
    simp [List.length_flatMap, List.map_const', entrySize]
  simp only [encodeList, List.length_append, length_le16, Bytes.length_zeros, entries]
  omega

/-- A list reads back as far as its count goes. -/
theorem decodeList_encodeList :
    decodeList (encodeList logs) = .ok (logs.take (logs.length % 65536)) := by
  have fits : logs.length % 65536 ≤ logs.length := Nat.mod_le _ _
  have size := length_encodeList logs
  have split : logs.flatMap encode =
      (logs.take (logs.length % 65536)).flatMap encode ++
        (logs.drop (logs.length % 65536)).flatMap encode := by
    rw [← List.flatMap_append, List.take_append_drop]
  have read := Reading.entries_encode length_encode read_encode
    (logs.take (logs.length % 65536)) ((logs.drop (logs.length % 65536)).flatMap encode)
  rw [List.length_take, Nat.min_eq_left fits, ← split] at read
  rw [decodeList_apply, counted_encodeList, drop_encodeList, if_neg (by omega), if_neg (by omega),
    read]

theorem decodeList_encodeList_eq_self :
    decodeList (encodeList logs) = .ok logs ↔ logs.length < 65536 := by
  rw [decodeList_encodeList, Except.ok.injEq]
  constructor
  · intro whole
    have length := congrArg List.length whole
    rw [List.length_take] at length
    omega
  · intro fits
    rw [Nat.mod_eq_of_lt fits, List.take_length]

end Written

section Read

variable {payload : Bytes}

theorem decodeList_eq_ok_iff {logs : List SupportedLog} :
    decodeList payload = .ok logs ↔
      8 ≤ payload.length ∧ 8 + 20 * counted payload ≤ payload.length ∧
        logs = reading.entries (counted payload) (payload.drop 8) := by
  rw [decodeList_apply]
  split
  case isTrue short =>
    simp only [reduceCtorEq, false_iff]
    omega
  case isFalse header =>
    split
    case isTrue short =>
      simp only [reduceCtorEq, false_iff]
      omega
    case isFalse whole =>
      rw [Except.ok.injEq]
      constructor
      · rintro rfl
        exact ⟨by omega, by omega, rfl⟩
      · rintro ⟨-, -, rfl⟩
        rfl

theorem decodeList_eq_error_iff {e : Error} :
    decodeList payload = .error e ↔
      payload.length < 8 ∧ e = .shortPayload 8 payload.length ∨
      8 ≤ payload.length ∧ payload.length < 8 + 20 * counted payload ∧
        e = .shortPayload (8 + 20 * counted payload) payload.length := by
  rw [decodeList_apply]
  split
  case isTrue short =>
    rw [Except.error.injEq]
    constructor
    · rintro rfl
      exact .inl ⟨short, rfl⟩
    · rintro (⟨-, rfl⟩ | ⟨header, -⟩)
      · rfl
      · omega
  case isFalse header =>
    split
    case isTrue short =>
      rw [Except.error.injEq]
      constructor
      · rintro rfl
        exact .inr ⟨by omega, short, rfl⟩
      · rintro (⟨absent, -⟩ | ⟨-, -, rfl⟩)
        · exact absurd absent header
        · rfl
    case isFalse whole =>
      simp only [reduceCtorEq, false_iff]
      omega

/-- Every entry has its own 20 bytes, behind the 8 of the header. -/
theorem decodeList_getElem {logs : List SupportedLog} (decoded : decodeList payload = .ok logs)
    {i : Nat} (inRange : i < logs.length) :
    layout.Reads logs[i] (Bytes.slice payload (8 + 20 * i) 20) := by
  obtain ⟨-, whole, rfl⟩ := decodeList_eq_ok_iff.mp decoded
  have window : (payload.drop 8).drop (entrySize * i) = payload.drop (8 + 20 * i) :=
    List.drop_drop
  have counted_entry : i < counted payload := by
    simpa using inRange
  have long : entrySize ≤ (payload.drop (8 + 20 * i)).length := by
    rw [List.length_drop, entrySize]
    omega
  rw [Reading.getElem_entries inRange, window]
  exact Layout.reads_take.mpr (reads long)

/-- Written again, the list is what was read, but for the reserved bytes of the header. -/
theorem encodeList_decodeList {logs : List SupportedLog} (decoded : decodeList payload = .ok logs) :
    encodeList logs =
      Bytes.splice (payload.take (8 + 20 * counted payload)) 2 (Bytes.zeros 6) := by
  obtain ⟨header, whole, rfl⟩ := decodeList_eq_ok_iff.mp decoded
  have count : (UInt16.ofNat (counted payload)).toNat = counted payload :=
    Nat.mod_eq_of_lt (counted_lt payload)
  have front : le16 (UInt16.ofNat (counted payload)) = payload.take 2 := by
    have two : (payload.take 2).length = 2 := by
      rw [List.length_take]
      omega
    have written := littleEndian_fromLittleEndian (payload.take 2)
    rwa [two, ← counted, ← count] at written
  have entries : (reading.entries (counted payload) (payload.drop 8)).flatMap encode =
      (payload.drop 8).take (20 * counted payload) := by
    apply Reading.encode_entries encode_read
    rw [List.length_drop, entrySize]
    omega
  have cleared : Bytes.splice (payload.take (8 + 20 * counted payload)) 2 (Bytes.zeros 6) =
      payload.take 2 ++ Bytes.zeros 6 ++ (payload.drop 8).take (20 * counted payload) := by
    have ends : 2 + (Bytes.zeros 6).length + 20 * counted payload ≤ payload.length := by
      rw [Bytes.length_zeros]
      omega
    have spliced := Bytes.splice_take ends
    rwa [Bytes.length_zeros] at spliced
  rw [cleared, encodeList, Reading.length_entries, front, entries, List.append_assoc]

end Read

end SupportedLog

/-! ## The Command Effects Log -/

namespace EffectsEntry

theorem decodeLog_append (opcode effect : UInt16) (rest : Bytes) :
    decodeLog (le16 opcode ++ (le16 effect ++ rest)) = ⟨opcode, effect⟩ :: decodeLog rest := by
  change EffectsEntry.mk (UInt16.ofNat (fromLittleEndian (le16 opcode)))
    (UInt16.ofNat (fromLittleEndian (le16 effect))) :: decodeLog rest = _
  rw [fromLittleEndian_le16, fromLittleEndian_le16, UInt16.ofNat_toNat, UInt16.ofNat_toNat]

theorem decodeLog_encodeLog (entries : List EffectsEntry) :
    decodeLog (encodeLog entries) = entries := by
  induction entries with
  | nil => rfl
  | cons entry entries ih =>
      have written : encodeLog (entry :: entries) =
          le16 entry.opcode ++ (le16 entry.effect ++ encodeLog entries) := by
        simp [encodeLog, encode]
      rw [written, decodeLog_append, ih]

theorem length_decodeLog : ∀ payload : Bytes, (decodeLog payload).length = payload.length / 4
  | [] | [_] | [_, _] | [_, _, _] => by simp [decodeLog]
  | _ :: _ :: _ :: _ :: rest => by
      have later := length_decodeLog rest
      simp only [decodeLog, List.length_cons, later]
      omega

/-- Four bytes are the entry that they are read as. -/
theorem encode_ofQuad (a b c d : UInt8) :
    encode ⟨UInt16.ofNat (fromLittleEndian [a, b]), UInt16.ofNat (fromLittleEndian [c, d])⟩ =
      [a, b, c, d] := by
  rw [encode, le16_fromLittleEndian, le16_fromLittleEndian]
  rfl

/-- What is lost is the piece at the end that makes no entry. -/
theorem encodeLog_decodeLog : ∀ payload : Bytes,
    encodeLog (decodeLog payload) = payload.take (payload.length - payload.length % 4)
  | [] | [_] | [_, _] | [_, _, _] => rfl
  | a :: b :: c :: d :: rest => by
      have later := encodeLog_decodeLog rest
      have whole : (a :: b :: c :: d :: rest).length - (a :: b :: c :: d :: rest).length % 4 =
          (rest.length - rest.length % 4) + 4 := by
        simp only [List.length_cons]
        omega
      rw [whole, decodeLog, encodeLog, List.flatMap_cons, encode_ofQuad]
      exact congrArg (a :: b :: c :: d :: ·) later

/-- The entry at a position is written in the four bytes at its place. -/
theorem encode_getElem_decodeLog : ∀ (payload : Bytes) (i : Nat)
    (inside : i < (decodeLog payload).length),
    (decodeLog payload)[i].encode = Bytes.slice payload (4 * i) 4
  | a :: b :: c :: d :: _, 0, _ => encode_ofQuad a b c d
  | _ :: _ :: _ :: _ :: rest, i + 1, inside =>
      encode_getElem_decodeLog rest i (Nat.lt_of_succ_lt_succ inside)

end EffectsEntry

/-- **Both formats of lists are exact.**  A list of logs reads back as far as its count of 16 bits
goes, and a payload is such a list exactly if everything it counts is there; an effects log has as
many entries as fit.  Written again, what was read is the payload without its reserved bytes and
without what makes no entry. -/
theorem log_formats_exact :
    (∀ logs : List SupportedLog,
      SupportedLog.decodeList (SupportedLog.encodeList logs) =
        .ok (logs.take (logs.length % 65536)) ∧
      (SupportedLog.decodeList (SupportedLog.encodeList logs) = .ok logs ↔
        logs.length < 65536)) ∧
    (∀ payload : Bytes,
      let count := fromLittleEndian (payload.take 2)
      ((∃ logs, SupportedLog.decodeList payload = .ok logs) ↔
        8 ≤ payload.length ∧ 8 + 20 * count ≤ payload.length) ∧
      (∀ e, SupportedLog.decodeList payload = .error e ↔
        payload.length < 8 ∧ e = .shortPayload 8 payload.length ∨
        8 ≤ payload.length ∧ payload.length < 8 + 20 * count ∧
          e = .shortPayload (8 + 20 * count) payload.length) ∧
      ∀ logs, SupportedLog.decodeList payload = .ok logs →
        logs.length = count ∧
        (∀ (i : Nat) (inRange : i < logs.length),
          SupportedLog.layout.Reads logs[i] (Bytes.slice payload (8 + 20 * i) 20)) ∧
        SupportedLog.encodeList logs =
          Bytes.splice (payload.take (8 + 20 * count)) 2 (Bytes.zeros 6)) ∧
    (∀ entries, EffectsEntry.decodeLog (EffectsEntry.encodeLog entries) = entries) ∧
    ∀ payload : Bytes,
      (EffectsEntry.decodeLog payload).length = payload.length / 4 ∧
      EffectsEntry.encodeLog (EffectsEntry.decodeLog payload) =
        payload.take (payload.length - payload.length % 4) := by
  refine ⟨fun logs => ⟨SupportedLog.decodeList_encodeList logs,
      SupportedLog.decodeList_encodeList_eq_self logs⟩, ?_, EffectsEntry.decodeLog_encodeLog,
    fun payload => ⟨EffectsEntry.length_decodeLog payload,
      EffectsEntry.encodeLog_decodeLog payload⟩⟩
  intro payload count
  refine ⟨?_, fun e => SupportedLog.decodeList_eq_error_iff, ?_⟩
  · constructor
    · rintro ⟨logs, decoded⟩
      obtain ⟨header, whole, -⟩ := SupportedLog.decodeList_eq_ok_iff.mp decoded
      exact ⟨header, whole⟩
    · rintro ⟨header, whole⟩
      exact ⟨_, SupportedLog.decodeList_eq_ok_iff.mpr ⟨header, whole, rfl⟩⟩
  · intro logs decoded
    refine ⟨?_, fun i inRange => SupportedLog.decodeList_getElem decoded inRange,
      SupportedLog.encodeList_decodeList decoded⟩
    obtain ⟨-, -, rfl⟩ := SupportedLog.decodeList_eq_ok_iff.mp decoded
    exact Reading.length_entries _ _ _

end CxlMailbox
