/-
# CxlMailbox.Proofs.Labels.Refinement — the label area is an array of bytes

A label call on an emulated device goes through the resolution of its range, the device's catalog,
two payload limits, the driver's size checks and the device's own range check.  Seen from the
caller, all of them together are one condition, `LabelCall.Accepted`, and one effect on an array:

* `LabelCall.onArray` is the call on an array of bytes, accepted or refused as a whole;
* `perform_refines`: on a device that holds the array, every call does the same;
* `calls_refine_array`: so does every history of calls, from an array of zeros on.
-/
import CxlMailbox.Proofs.Command.Allocation
import CxlMailbox.Proofs.Emulator.Serving
import CxlMailbox.Proofs.Labels.Request

namespace CxlMailbox

set_option autoImplicit false

/-! ## The array -/

namespace LabelCall

/-- The length of the range of a call in an area of so many bytes. -/
def span (area : Nat) (call : LabelCall) : Nat :=
  Labels.span area call.offset.toNat call.length.toNat

/-- Whether payloads of at most `max` bytes can carry a range of `n` bytes: a read sends a header
and receives the bytes, a write sends both together. -/
def Fits (max n : Nat) : LabelCall → Prop
  | read .. => Labels.headerSize ≤ max ∧ n ≤ max
  | write .. | zero .. => Labels.headerSize + n ≤ max

instance (max n : Nat) : (call : LabelCall) → Decidable (call.Fits max n)
  | read .. => inferInstanceAs (Decidable (_ ∧ _))
  | write .. | zero .. => inferInstanceAs (Decidable (_ ≤ _))

/-- When a call succeeds: its range starts inside the area, where its length is left open, and
ends inside it, the caller's buffer covers it, and the payloads can carry it. -/
def Accepted (max : Nat) (area : Bytes) (call : LabelCall) : Prop :=
  (call.length ≠ 0 ∨ call.offset.toNat < area.length) ∧
  call.offset.toNat + call.span area.length ≤ area.length ∧
  call.Covers (call.span area.length) ∧ call.Fits max (call.span area.length)

instance (max : Nat) (area : Bytes) (call : LabelCall) : Decidable (call.Accepted max area) :=
  inferInstanceAs (Decidable (_ ∧ _ ∧ _ ∧ _))

/-- The bytes that an accepted call puts into its range; a read puts none. -/
def stored? (n : Nat) : LabelCall → Option Bytes
  | read .. => none
  | write data _ _ => some (data.take n)
  | zero _ _ => some (Bytes.zeros n)

/-- The array after an accepted call: only the range of a write is replaced. -/
def areaAfter (area : Bytes) (call : LabelCall) : Bytes :=
  match call.stored? (call.span area.length) with
  | none => area
  | some stored => area.take call.offset.toNat ++ stored ++
      area.drop (call.offset.toNat + call.span area.length)

/-- The caller's buffer after an accepted call: a read fills its front with the range. -/
def filled (area : Bytes) (call : LabelCall) : Bytes :=
  match call with
  | read buffer offset _ =>
      (area.drop offset.toNat).take (call.span area.length) ++
        buffer.drop (call.span area.length)
  | _ => call.buffer

/-- A call on an array of bytes: whether it succeeds, and the caller's buffer afterwards. -/
def onArray (max : Nat) (call : LabelCall) : StateM Bytes (Bool × Bytes) := fun area =>
  if call.Accepted max area then ((true, call.filled area), call.areaAfter area)
  else ((false, call.buffer), area)

end LabelCall

/-! ## The device's side of a call -/

theorem toNat_wordOf {n : Nat} (small : n < UInt32.size) : (UInt32.ofNat n).toNat = n :=
  UInt32.toNat_ofNat_of_lt' small

theorem fromLittleEndian_le32 (word : UInt32) : fromLittleEndian (le32 word) = word.toNat := by
  rw [le32, fromLittleEndian_littleEndian]
  exact Nat.mod_eq_of_lt word.toNat_lt

/-- The input of a write is the header and then the data, filled up with zeros. -/
theorem Labels.writeInput_overlay {data : Bytes} {n : Nat} (offset : UInt32)
    (short : data.length ≤ n) :
    overlay (Labels.writeInput offset data) (Bytes.zeros (Labels.headerSize + n)) =
      le32 offset ++ (Bytes.zeros 4 ++ overlay data (Bytes.zeros n)) := by
  have header : (le32 offset ++ Bytes.zeros 4).length = Labels.headerSize := by
    simp [Labels.headerSize]
  have zeros : Bytes.zeros (Labels.headerSize + n) =
      Bytes.zeros Labels.headerSize ++ Bytes.zeros n := List.replicate_append_replicate.symm
  rw [Labels.writeInput, ← List.append_assoc, ← List.append_assoc, zeros]
  simp only [overlay, List.length_append, header, Bytes.length_zeros]
  rw [List.take_of_length_le (by simp [Labels.headerSize]; omega), List.drop_append]
  simp [List.take_of_length_le, short, Labels.headerSize]

namespace EmulatedDevice

variable {d : EmulatedDevice} {config : DeviceConfig} {area : Bytes}

theorem execute_getLabels (d : EmulatedDevice) (opcode : UInt16) (input : Bytes) :
    d.execute CommandId.getLabels opcode input = d.readLabels input := by
  rw [execute]
  repeat rw [if_neg (by decide)]
  rw [if_pos rfl]

theorem execute_setLabels (d : EmulatedDevice) (opcode : UInt16) (input : Bytes) :
    d.execute CommandId.setLabels opcode input = d.writeLabels input := by
  rw [execute]
  repeat rw [if_neg (by decide)]
  rw [if_pos rfl]

/-- The device's side of a label read is a check of the range. -/
theorem readLabels_header (d : EmulatedDevice) {offset : UInt32} {n : Nat}
    (small : n < UInt32.size) :
    d.readLabels (Labels.readHeader offset n) =
      if offset.toNat + n ≤ d.labels.length then
        d.answers (Bytes.slice d.labels offset.toNat n)
      else d.refuses .invalidInput := by
  have long : (Labels.readHeader offset n).length = 8 := Labels.length_readHeader offset n
  have first : fromLittleEndian ((Labels.readHeader offset n).take 4) = offset.toNat := by
    rw [Labels.readHeader, List.take_left' (length_le32 offset), fromLittleEndian_le32]
  have second : fromLittleEndian ((Labels.readHeader offset n).drop 4) = n := by
    rw [Labels.readHeader, List.drop_left' (length_le32 offset), fromLittleEndian_le32,
      toNat_wordOf small]
  simp only [readLabels, long, first, second, holdsRange, decide_eq_true_eq, ne_eq,
    not_true_eq_false, if_false]

theorem readLabels_eq (held : d.Holds config area) {offset : UInt32} {n : Nat}
    (ends : offset.toNat + n ≤ area.length) (small : area.length < UInt32.size) :
    d.readLabels (Labels.readHeader offset n) =
      d.answers (Bytes.slice area offset.toNat n) := by
  rw [d.readLabels_header (by omega), held.labels, if_pos ends]

theorem writeLabels_eq (held : d.Holds config area) {offset : UInt32} {stored : Bytes}
    (ends : offset.toNat + stored.length ≤ area.length) :
    d.writeLabels (le32 offset ++ (Bytes.zeros 4 ++ stored)) =
      succeeds { d with labels := Bytes.splice area offset.toNat stored } := by
  have long : ¬ (le32 offset ++ (Bytes.zeros 4 ++ stored)).length < 8 := by
    simp
    omega
  have first : fromLittleEndian ((le32 offset ++ (Bytes.zeros 4 ++ stored)).take 4) =
      offset.toNat := by
    rw [List.take_left' (length_le32 offset), fromLittleEndian_le32]
  have second : (le32 offset ++ (Bytes.zeros 4 ++ stored)).drop 8 = stored := by
    rw [← List.append_assoc, List.drop_left' (by simp)]
  simp only [writeLabels, long, first, second, holdsRange, held.labels, ends, decide_true,
    if_false, if_true]

end EmulatedDevice

/-! ## The catalog's side of a call -/

/-- A device offers the label commands: a read of a header and any output, and a write of any
input without output. -/
structure DeviceConfig.ServesLabels (config : DeviceConfig) : Prop where
  read : ∃ entry,
    config.offered.find? (fun entry => entry.id == CommandId.getLabels) = some entry ∧
    entry.sizeIn = 8 ∧ entry.sizeOut = variableSize
  write : ∃ entry,
    config.offered.find? (fun entry => entry.id == CommandId.setLabels) = some entry ∧
    entry.sizeIn = variableSize ∧ entry.sizeOut = 0

namespace DeviceConfig.ServesLabels

variable {config : DeviceConfig} {request : SendRequest}

theorem passes_read (serves : config.ServesLabels) (id : request.id = CommandId.getLabels)
    (header : request.input.length = 8) (d : EmulatedDevice) (configured : d.config = config) :
    d.driverFault? request = none := by
  obtain ⟨entry, offered, sizeIn, sizeOut⟩ := serves.read
  have found := DeviceConfig.find?_catalog offered
  rw [← id, ← configured] at found
  have known : request.id ≠ CommandId.raw := by rw [id]; decide
  rw [EmulatedDevice.driverFault?, found]
  simp [sizeIn, sizeOut, header, known, variableSize]

theorem passes_write (serves : config.ServesLabels) (id : request.id = CommandId.setLabels)
    (d : EmulatedDevice) (configured : d.config = config) : d.driverFault? request = none := by
  obtain ⟨entry, offered, sizeIn, sizeOut⟩ := serves.write
  have found := DeviceConfig.find?_catalog offered
  rw [← id, ← configured] at found
  have known : request.id ≠ CommandId.raw := by rw [id]; decide
  rw [EmulatedDevice.driverFault?, found]
  simp [sizeIn, sizeOut, known, variableSize]

end DeviceConfig.ServesLabels

namespace Command

variable {c : Command} {entry : CatalogEntry} {id : UInt32}

theorem allocSend_header (matched : c.entry? = some entry) (same : entry.id = id)
    (sizeIn : entry.sizeIn = 8) (sizeOut : entry.sizeOut = variableSize)
    (fits : 8 ≤ c.device.payloadMax.toNat) :
    c.allocSend id = (.ok (), { c with
      input := .owned (Bytes.zeros 8)
      output := .owned (Bytes.zeros c.device.payloadMax.toNat)
      outSize := c.device.payloadMax.toNat }) := by
  have eight : entry.sizeIn.toInt = 8 := by rw [sizeIn]; rfl
  have input : c.withDeclaredInput entry = { c with input := .owned (Bytes.zeros 8) } := by
    rw [withDeclaredInput_of_pos (by omega), eight]
    rfl
  have declared (c : Command) : (c.declaredOutput entry).toNat = c.device.payloadMax.toNat := by
    simp [declaredOutput, sizeOut, variableSize]
  have negative : entry.sizeOut.toInt = -1 := by rw [sizeOut]; rfl
  rw [allocSend_of_le matched same (by omega) (by omega), input, withDeclaredOutput]
  simp only [declared]
  rw [if_pos (Nat.lt_of_lt_of_le (by decide) fits)]
  rfl

theorem allocSend_header_of_lt (matched : c.entry? = some entry) (same : entry.id = id)
    (sizeIn : entry.sizeIn = 8) (short : c.device.payloadMax.toNat < 8) :
    c.allocSend id = (.error (.payloadSize 8 c.device.payloadMax), c) := by
  have eight : entry.sizeIn.toInt = 8 := by rw [sizeIn]; rfl
  rw [← eight]
  exact AllocFailure.ran (.oversizedInput matched same (by omega))

theorem allocSend_variable (matched : c.entry? = some entry) (same : entry.id = id)
    (sizeIn : entry.sizeIn = variableSize) (sizeOut : entry.sizeOut = 0) :
    c.allocSend id = (.ok (), c) := by
  have negative : entry.sizeIn.toInt = -1 := by rw [sizeIn]; rfl
  have zero : entry.sizeOut.toInt = 0 := by rw [sizeOut]; rfl
  rw [allocSend_of_le matched same (by omega) (by omega), withDeclaredInput_of_nonpos (by omega)]
  exact congrArg (Prod.mk _) (if_neg (by simp [declaredOutput, sizeOut]))

end Command

/-! ## One call on the device -/

namespace Labels

open Session

variable {config : DeviceConfig} {area : Bytes} {offset : UInt32} {n : Nat}

/-- A session with a command for an id that can be sent to the device. -/
structure Ready (config : DeviceConfig) (area : Bytes) (id : UInt32) (s : Session Emulator) :
    Prop where
  device : s.command.device = config.info
  id : s.command.id = id
  clear : s.command.sendFault? = none
  unlent : s.command.output.lender? = none
  holds : s.world.device.Holds config area

section Making

variable {world : World Emulator}

theorem prepare_read (serves : config.ServesLabels) (holds : world.device.Holds config area)
    (header : headerSize ≤ config.payloadMax.toNat) :
    ∃ t, prepare Emulator.backend CommandId.getLabels ⟨.unvalidated config.info, world⟩ =
      (.ok (), t) ∧ Ready config area CommandId.getLabels t := by
  obtain ⟨entry, offered, sizeIn, sizeOut⟩ := serves.read
  obtain ⟨index, world', held, matched, same, made⟩ := Emulator.prepare_emulated holds offered
  rw [Command.allocSend_header matched same sizeIn sizeOut header] at made
  exact ⟨_, made, rfl, rfl, rfl, rfl, held⟩

theorem prepare_read_short (serves : config.ServesLabels)
    (holds : world.device.Holds config area) (short : config.payloadMax.toNat < headerSize) :
    ∃ (e : Error) (t : Session Emulator),
      prepare Emulator.backend CommandId.getLabels ⟨.unvalidated config.info, world⟩ =
        (.error e, t) ∧ Ready config area CommandId.getLabels t := by
  obtain ⟨entry, offered, sizeIn, sizeOut⟩ := serves.read
  obtain ⟨index, world', held, matched, same, made⟩ := Emulator.prepare_emulated holds offered
  rw [Command.allocSend_header_of_lt matched same sizeIn short] at made
  exact ⟨_, _, made, rfl, rfl, rfl, rfl, held⟩

theorem prepare_write (serves : config.ServesLabels) (holds : world.device.Holds config area) :
    ∃ t, prepare Emulator.backend CommandId.setLabels ⟨.unvalidated config.info, world⟩ =
      (.ok (), t) ∧ Ready config area CommandId.setLabels t := by
  obtain ⟨entry, offered, sizeIn, sizeOut⟩ := serves.write
  obtain ⟨index, world', held, matched, same, made⟩ := Emulator.prepare_emulated holds offered
  rw [Command.allocSend_variable matched same sizeIn sizeOut] at made
  exact ⟨_, made, rfl, rfl, rfl, rfl, held⟩

end Making

/-- The send of a read: the device answers with the range, which fills the lent window. -/
theorem submit_read (serves : config.ServesLabels) (small : area.length < UInt32.size)
    {buffer : Bytes} (ends : offset.toNat + n ≤ area.length) (covers : n ≤ buffer.length)
    {s : Session Emulator} (ready : Ready config area CommandId.getLabels s) :
    ∃ t : Session Emulator,
      submit Emulator.backend (s.withCommand (forRead s.command buffer offset n)) =
        (.ok .success, t) ∧
      t.command.status = some .success ∧ t.command.outSize = n ∧
      t.command.output.lender? = some (Bytes.slice area offset.toNat n ++ buffer.drop n) ∧
      t.world.device.Holds config area := by
  let c := forRead s.command buffer offset n
  have asked : (Bytes.slice area offset.toNat n).length = n := by
    rw [Bytes.slice, List.length_take, List.length_drop]
    omega
  have lent : (buffer.take n).length = n := by
    rw [List.length_take]
    omega
  have id : c.request.id = CommandId.getLabels := ready.id
  have header : c.request.input = readHeader offset n := rfl
  have window : c.request.output = buffer.take n := rfl
  obtain ⟨e, log, held, replied⟩ := Emulator.send_answers ready.holds s.world.files
    (serves.passes_read id (by rw [header]; exact length_readHeader offset n))
    (Bytes.slice area offset.toNat n) (Nat.le_of_eq (by rw [window, asked, lent]))
    (by
      intro d holds
      rw [id, header, EmulatedDevice.execute_getLabels]
      exact EmulatedDevice.readLabels_eq holds ends small)
  obtain ⟨log', sent⟩ := submit_sends Emulator.backend
    (show (s.withCommand c).command.sendFault? = none from ready.clear)
  rw [show (s.withCommand c).command.device = config.info from ready.device] at sent
  simp only [withCommand_command, withCommand_world, replied, asked] at sent
  have filled : (c.withOutput (overlay (Bytes.slice area offset.toNat n) c.output.bytes)).output =
      .lent (Bytes.slice area offset.toNat n) (buffer.drop n) := by
    simp only [c, forRead, Command.withOutput, Payload.make, Payload.bytes, Payload.withBytes]
    rw [overlay_of_length_eq (by rw [length_overlay]), overlay_of_length_eq (asked.trans lent.symm)]
  refine ⟨_, sent, rfl, ?_, ?_, held⟩
  · have word := toNat_wordOf (show n < UInt32.size by omega)
    simp only [withCommand_command, Command.completeSend, filled, word]
    rw [Payload.bytes, asked, Nat.min_self]
  · simp only [withCommand_command, Command.completeSend, filled, Payload.lender?]

/-- The send of a write: the device puts the data and zeros up to the length into the range. -/
theorem submit_write (serves : config.ServesLabels) {data : Bytes}
    (ends : offset.toNat + n ≤ area.length) (short : data.length ≤ n)
    {s : Session Emulator} (ready : Ready config area CommandId.setLabels s) :
    ∃ t : Session Emulator,
      submit Emulator.backend (s.withCommand (forWrite s.command data offset n)) =
        (.ok .success, t) ∧
      t.command.status = some .success ∧
      t.world.device.Holds config (area.take offset.toNat ++ overlay data (Bytes.zeros n) ++
        area.drop (offset.toNat + n)) := by
  let c := forWrite s.command data offset n
  have length : (overlay data (Bytes.zeros n)).length = n := by simp
  have id : c.request.id = CommandId.setLabels := ready.id
  have packed : c.request.input =
      le32 offset ++ (Bytes.zeros 4 ++ overlay data (Bytes.zeros n)) :=
    writeInput_overlay offset short
  obtain ⟨e, log, held, replied⟩ := Emulator.send_succeeds ready.holds s.world.files
    (serves.passes_write id)
    (by
      intro d holds
      rw [id, packed, EmulatedDevice.execute_setLabels]
      refine ⟨_, ?_, EmulatedDevice.writeLabels_eq holds (by rw [length]; exact ends)⟩
      exact { holds with labels := Bytes.splice_eq (by rw [length]; exact ends) })
  obtain ⟨log', sent⟩ := submit_sends Emulator.backend
    (show (s.withCommand c).command.sendFault? = none from ready.clear)
  rw [show (s.withCommand c).command.device = config.info from ready.device] at sent
  simp only [withCommand_command, withCommand_world, replied] at sent
  rw [length] at held
  exact ⟨_, sent, rfl, held⟩

variable {world : World Emulator}

/-- A read that fits brings the range into the front of the caller's buffer. -/
theorem fetch_accepted (serves : config.ServesLabels) (small : area.length < UInt32.size)
    (holds : world.device.Holds config area) {buffer : Bytes}
    (ends : offset.toNat + n ≤ area.length) (covers : n ≤ buffer.length)
    (header : headerSize ≤ config.payloadMax.toNat) (fits : n ≤ config.payloadMax.toNat) :
    ∃ t : Session Emulator,
      fetch Emulator.backend buffer offset n ⟨.unvalidated config.info, world⟩ =
        (.ok (), t) ∧
      t.command.output.lender? = some (Bytes.slice area offset.toNat n ++ buffer.drop n) ∧
      t.world.device.Holds config area := by
  obtain ⟨s, made, ready⟩ := prepare_read serves holds header
  obtain ⟨log, ran⟩ := fetch_sends Emulator.backend offset made (by rw [ready.device]; exact header)
    (by rw [ready.device]; exact fits) covers
  obtain ⟨t, sent, status, outSize, lent, held⟩ := submit_read serves small ends covers ready
  have verdict : readVerdict n t.command = .ok () := by
    rw [readVerdict_of_ok (by rw [successVerdict, status]; rfl), outSize, if_neg (Nat.lt_irrefl n)]
  simp only [sent, Except.bind, verdict] at ran
  exact ⟨_, ran, lent, held⟩

/-- A read that does not fit fails before the caller's buffer is lent. -/
theorem fetch_unfit (serves : config.ServesLabels) (holds : world.device.Holds config area)
    (buffer : Bytes)
    (unfit : ¬ (headerSize ≤ config.payloadMax.toNat ∧ n ≤ config.payloadMax.toNat)) :
    ∃ (e : Error) (t : Session Emulator),
      fetch Emulator.backend buffer offset n ⟨.unvalidated config.info, world⟩ =
        (.error e, t) ∧
      t.command.output.lender? = none ∧ t.world.device.Holds config area := by
  by_cases header : headerSize ≤ config.payloadMax.toNat
  · obtain ⟨s, made, ready⟩ := prepare_read serves holds header
    obtain ⟨e, input, ran⟩ := fetch_oversized Emulator.backend buffer offset made
      (.inr (by rw [ready.device]; exact Nat.lt_of_not_le fun fits => unfit ⟨header, fits⟩))
    exact ⟨e, _, ran, ready.unlent, ready.holds⟩
  · obtain ⟨e, s, made, ready⟩ := prepare_read_short serves holds (Nat.lt_of_not_le header)
    exact ⟨e, s, Effect.bind_error made _, ready.unlent, ready.holds⟩

/-- A write that fits replaces the range. -/
theorem store_accepted (serves : config.ServesLabels) (holds : world.device.Holds config area)
    {data : Bytes} (ends : offset.toNat + n ≤ area.length) (short : data.length ≤ n)
    (fits : headerSize + n ≤ config.payloadMax.toNat) :
    ∃ t : Session Emulator,
      store Emulator.backend data offset n ⟨.unvalidated config.info, world⟩ = (.ok (), t) ∧
      t.world.device.Holds config (area.take offset.toNat ++ overlay data (Bytes.zeros n) ++
        area.drop (offset.toNat + n)) := by
  obtain ⟨s, made, ready⟩ := prepare_write serves holds
  obtain ⟨log, ran⟩ := store_sends Emulator.backend data offset made
    (by rw [ready.device]; exact fits)
  obtain ⟨t, sent, status, held⟩ := submit_write serves ends short ready
  have verdict : successVerdict t.command = .ok () := by
    rw [successVerdict, status]
    rfl
  simp only [sent, Except.bind, verdict] at ran
  exact ⟨_, ran, held⟩

/-- A write that does not fit fails and writes nothing. -/
theorem store_unfit (serves : config.ServesLabels) (holds : world.device.Holds config area)
    (data : Bytes) (unfit : ¬ headerSize + n ≤ config.payloadMax.toNat) :
    ∃ (e : Error) (t : Session Emulator),
      store Emulator.backend data offset n ⟨.unvalidated config.info, world⟩ = (.error e, t) ∧
      t.world.device.Holds config area := by
  obtain ⟨s, made, ready⟩ := prepare_write serves holds
  obtain ⟨e, ran⟩ := store_oversized Emulator.backend data offset made
    (by rw [ready.device]; exact Nat.lt_of_not_le unfit)
  exact ⟨e, s, ran, ready.holds⟩

end Labels

/-! ## Every history of calls -/

namespace LabelCall

variable {config : DeviceConfig} {area : Bytes} {world : World Emulator}

theorem drive_accepted (serves : config.ServesLabels) (small : area.length < UInt32.size)
    (holds : world.device.Holds config area) {call : LabelCall}
    (accepted : call.Accepted config.payloadMax.toNat area) :
    ∃ t : Session Emulator,
      call.drive Emulator.backend (call.span area.length) ⟨.unvalidated config.info, world⟩ =
        (.ok (), t) ∧
      call.bufferAfter t.command = call.filled area ∧
      t.world.device.Holds config (call.areaAfter area) := by
  obtain ⟨-, ends, covers, fits⟩ := accepted
  cases call with
  | read buffer offset length =>
      obtain ⟨t, ran, lent, held⟩ :=
        Labels.fetch_accepted serves small holds ends covers fits.1 fits.2
      exact ⟨t, ran, by rw [bufferAfter, lent]; rfl, held⟩
  | write data offset length =>
      have taken := List.length_take_of_le covers
      obtain ⟨t, ran, held⟩ :=
        Labels.store_accepted serves holds ends (Nat.le_of_eq taken) fits
      rw [overlay_of_length_eq (by rw [taken, Bytes.length_zeros])] at held
      exact ⟨t, ran, rfl, held⟩
  | zero offset length =>
      have nothing : ([] : Bytes).length ≤ (zero offset length).span area.length := Nat.zero_le _
      obtain ⟨t, ran, held⟩ := Labels.store_accepted serves holds ends nothing fits
      rw [overlay_nil] at held
      exact ⟨t, ran, rfl, held⟩

theorem drive_unfit (serves : config.ServesLabels) (holds : world.device.Holds config area)
    {call : LabelCall} {n : Nat} (unfit : ¬ call.Fits config.payloadMax.toNat n) :
    ∃ (e : Error) (t : Session Emulator),
      call.drive Emulator.backend n ⟨.unvalidated config.info, world⟩ = (.error e, t) ∧
      call.bufferAfter t.command = call.buffer ∧ t.world.device.Holds config area := by
  cases call with
  | read buffer offset length =>
      obtain ⟨e, t, ran, unlent, held⟩ := Labels.fetch_unfit serves holds buffer unfit
      exact ⟨e, t, ran, by rw [bufferAfter, unlent]; rfl, held⟩
  | write data offset length =>
      obtain ⟨e, t, ran, held⟩ := Labels.store_unfit serves holds (data.take n) unfit
      exact ⟨e, t, ran, rfl, held⟩
  | zero offset length =>
      obtain ⟨e, t, ran, held⟩ := Labels.store_unfit serves holds [] unfit
      exact ⟨e, t, ran, rfl, held⟩

theorem length_stored {call : LabelCall} {n : Nat} {stored : Bytes} (covers : call.Covers n)
    (puts : call.stored? n = some stored) : stored.length = n := by
  cases call with
  | read buffer offset length => cases puts
  | write data offset length =>
      cases puts
      exact List.length_take_of_le covers
  | zero offset length =>
      cases puts
      exact Bytes.length_zeros n

theorem length_onArray (max : Nat) (call : LabelCall) (area : Bytes) :
    (call.onArray max area).2.length = area.length := by
  by_cases accepted : call.Accepted max area
  · rw [onArray, if_pos accepted]
    obtain ⟨-, ends, covers, -⟩ := accepted
    simp only [areaAfter]
    rcases puts : call.stored? (call.span area.length) with _ | stored
    · rfl
    · have length := length_stored covers puts
      simp only [List.length_append, List.length_take, List.length_drop]
      omega
  · rw [onArray, if_neg accepted]

/-- On a device that holds an array, a call does what it does on the array. -/
theorem perform_refines (serves : config.ServesLabels) (holds : world.device.Holds config area)
    (sized : area.length = config.labelAreaSize.toNat) (call : LabelCall) :
    let ran := call.perform Emulator.backend config.info world
    let expected := call.onArray config.payloadMax.toNat area
    (ran.1.1.isOk, ran.1.2) = expected.1 ∧ ran.2.device.Holds config expected.2 := by
  have small : area.length < UInt32.size := sized ▸ config.labelAreaSize.toNat_lt
  have resolves (n : Nat) : Labels.resolveLength config.info call.offset call.length = .ok n ↔
      (call.length ≠ 0 ∨ call.offset.toNat < area.length) ∧ n = call.span area.length ∧
        call.offset.toNat + n ≤ area.length := by
    rw [Labels.resolveLength_eq_ok_iff, span, sized, UInt32.lt_iff_toNat_lt]
    rfl
  by_cases ranged : ∃ n, Labels.resolveLength config.info call.offset call.length = .ok n ∧
    call.Covers n
  · obtain ⟨n, resolved, covers⟩ := ranged
    obtain ⟨starts, rfl, ends⟩ := (resolves n).mp resolved
    obtain ⟨log, ran⟩ := perform_driven Emulator.backend resolved covers world
    have held : ({ world with log } : World Emulator).device.Holds config area := holds
    by_cases fits : call.Fits config.payloadMax.toNat (call.span area.length)
    · have accepted : call.Accepted config.payloadMax.toNat area := ⟨starts, ends, covers, fits⟩
      obtain ⟨t, driven, filled, held⟩ := drive_accepted serves small held accepted
      simp only [ran, driven, onArray, if_pos accepted]
      exact ⟨by rw [filled]; rfl, held⟩
    · obtain ⟨e, t, driven, kept, held⟩ := drive_unfit serves held fits
      have refused : ¬ call.Accepted config.payloadMax.toNat area := fun accepted =>
        fits accepted.2.2.2
      simp only [ran, driven, onArray, if_neg refused]
      exact ⟨by rw [kept]; rfl, held⟩
  · obtain ⟨e, log, ran⟩ := perform_refused Emulator.backend
      (fun n resolved covers => ranged ⟨n, resolved, covers⟩) world
    have refused : ¬ call.Accepted config.payloadMax.toNat area := fun ⟨starts, ends, covers, _⟩ =>
      ranged ⟨_, (resolves _).mpr ⟨starts, rfl, ends⟩, covers⟩
    simp only [ran, onArray, if_neg refused]
    exact ⟨rfl, holds⟩

end LabelCall

/-- **The label area is an array of bytes.**  Whatever calls are made, in any order and with any
ranges and buffers, on a device that was switched on: each succeeds exactly if the array accepts
it, each buffer holds afterwards what the array puts there, and the device's labels are the
array. -/
theorem calls_refine_array {configs : List DeviceConfig} {config : DeviceConfig}
    (serves : config.ServesLabels)
    (first : configs.find? (fun other => other.id == config.id) = some config)
    {world : World Emulator} (started : world.device.devices = configs.map .powerOn)
    (calls : List LabelCall) :
    let ran := calls.mapM (LabelCall.perform Emulator.backend config.info) world
    let expected := calls.mapM (LabelCall.onArray config.payloadMax.toNat)
      (Bytes.zeros config.labelAreaSize.toNat)
    ran.1.map (fun outcome => (outcome.1.isOk, outcome.2)) = expected.1 ∧
      ran.2.device.Holds config expected.2 := by
  have general : ∀ (calls : List LabelCall) (world : World Emulator) (area : Bytes),
      world.device.Holds config area → area.length = config.labelAreaSize.toNat →
      let ran := calls.mapM (LabelCall.perform Emulator.backend config.info) world
      let expected := calls.mapM (LabelCall.onArray config.payloadMax.toNat) area
      ran.1.map (fun outcome => (outcome.1.isOk, outcome.2)) = expected.1 ∧
        ran.2.device.Holds config expected.2 := by
    intro calls
    induction calls with
    | nil => exact fun world area holds _ => ⟨rfl, holds⟩
    | cons call calls ih =>
        intro world area holds sized
        obtain ⟨outcome, held⟩ := call.perform_refines serves holds sized
        obtain ⟨outcomes, held⟩ := ih _ _ held ((call.length_onArray _ area).trans sized)
        simp only [List.mapM_cons]
        exact ⟨(congrArg (· :: _) outcome).trans (congrArg (_ :: ·) outcomes), held⟩
  exact general calls world _ (Emulator.holds_of_powerOn first started) (Bytes.length_zeros _)

/-! ## A history with every kind of end -/

/-- A device with four label bytes and payloads of twelve. -/
def DeviceConfig.tiny : DeviceConfig where
  payloadMax := 12
  labelAreaSize := 4
  catalog := [.enabled CommandId.getLabels 8 variableSize,
    .enabled CommandId.setLabels variableSize 0]

/-- A write, a read to the end into a longer buffer, a zeroed tail; then a buffer, a range and an
open range that are refused. -/
theorem tiny_history :
    let calls := [LabelCall.write [1, 2, 3] 1 2, .read [9, 9, 9, 9, 9] 0 0, .zero 2 0,
      .read [9] 0 2, .zero 3 0xffffffff, .zero 4 0]
    let ran := calls.mapM (LabelCall.perform Emulator.backend DeviceConfig.tiny.info)
      { device := .ofConfigs [.tiny] }
    ran.1.map (fun outcome => (outcome.1.isOk, outcome.2)) =
        [(true, [1, 2, 3]), (true, [0, 1, 2, 0, 9]), (true, []), (false, [9]), (false, []),
          (false, [])] ∧
      ran.2.device.Holds .tiny [0, 1, 0, 0] := by
  have serves : DeviceConfig.tiny.ServesLabels :=
    ⟨⟨_, rfl, rfl, rfl⟩, ⟨_, rfl, rfl, rfl⟩⟩
  exact calls_refine_array serves rfl rfl _

end CxlMailbox
