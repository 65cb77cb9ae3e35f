/-
# CxlMailbox.Proofs.Emulator.Bounds — an emulated mailbox accesses nothing out of range

Offsets and lengths come from the input of a command, as whatever words the caller has put there.
`take` and `drop` are total, so the mailbox has an answer for all of them; whether it would access
bytes that are not there is a question of its own.  So here the mailbox is given once more, with
every access checked:

* `Bytes.range?` and `Bytes.copyRange?` have no result where a range ends before it starts or behind
  the area, or where a copy is of another length than its target;
* `CheckedReader` reads the fields of an input by such accesses, and agrees with a `Reader`
  (`Agrees`), which does not fail behind the check of the length;
* the commands that access the input or an area by offset are put together from these, and so are
  the copy into the output and the send: `checkedSend`.

`mailbox_within_bounds` says that a checked send has a result for every device and request, that of
the send itself.
-/
import CxlMailbox.Proofs.Emulator.ReplySize

namespace CxlMailbox

set_option autoImplicit false

/-! ## Accesses -/

namespace Bytes

/-- The bytes of an area from `start` to before `stop`; none if that is no range of the area. -/
def range? (area : Bytes) (start stop : Nat) : Option Bytes :=
  if start ≤ stop ∧ stop ≤ area.length then some (slice area start (stop - start)) else none

/-- The area with data copied to a range; none if that is no range of the area, or if the data has
another length. -/
def copyRange? (area : Bytes) (start stop : Nat) (data : Bytes) : Option Bytes :=
  if start ≤ stop ∧ stop ≤ area.length ∧ data.length = stop - start then
    some (splice area start data)
  else none

variable {area data : Bytes} {start stop : Nat}

theorem range?_eq (ordered : start ≤ stop) (inside : stop ≤ area.length) :
    range? area start stop = some (slice area start (stop - start)) :=
  if_pos ⟨ordered, inside⟩

/-- The front of an area is a range as far as the area goes. -/
theorem range?_front (inside : stop ≤ area.length) :
    range? area 0 stop = some (area.take stop) :=
  range?_eq (Nat.zero_le _) inside

/-- So is what is behind its front. -/
theorem range?_behind (inside : start ≤ area.length) :
    range? area start area.length = some (area.drop start) := by
  have whole : (area.drop start).take (area.length - start) = area.drop start :=
    List.take_of_length_le (Nat.le_of_eq List.length_drop)
  rw [range?_eq inside (Nat.le_refl _), slice, whole]

theorem copyRange?_eq (inside : start + data.length ≤ area.length) :
    copyRange? area start (start + data.length) data = some (splice area start data) :=
  if_pos ⟨Nat.le_add_right _ _, inside, (Nat.add_sub_cancel_left _ _).symm⟩

/-- A window that is clamped to the area, at both its ends, has the bytes that are there. -/
theorem range?_clamped (area : Bytes) (offset n : Nat) :
    let start := min offset area.length
    range? area start (min (start + n) area.length) = some (slice area offset n) := by
  intro start
  rw [range?_eq (by omega) (by omega)]
  congr 1
  rcases Nat.le_total offset area.length with within | beyond
  · have same : start = offset := Nat.min_eq_left within
    have rest : (area.drop offset).length = area.length - offset := List.length_drop
    rw [same, slice, slice, List.take_eq_take_iff, rest]
    omega
  · have none_left : area.drop offset = [] := List.drop_of_length_le beyond
    have ends : start = area.length := Nat.min_eq_right beyond
    simp [slice, none_left, ends]

example : range? [1, 2, 3] 2 4 = none := by decide
example : copyRange? [1, 2, 3] 1 3 [7] = none := by decide

end Bytes

/-! ## Reading the fields of an input -/

/-- A reading of fields that has no result where a field is not in the payload. -/
abbrev CheckedReader := StateT Bytes Option

namespace CheckedReader

variable {α β : Type}

/-- A field that is the value of the next `n` bytes. -/
def field (n : Nat) (value : Bytes → α) : CheckedReader α := fun rest =>
  (Bytes.range? rest 0 n).map fun front => (value front, rest.drop n)

def block (n : Nat) : CheckedReader (Block n) := field n (Block.ofBytes n)
def skip (n : Nat) : CheckedReader Unit := field n fun _ => ()
def u8 : CheckedReader UInt8 := field 1 fun front => UInt8.ofNat (fromLittleEndian front)
def u16 : CheckedReader UInt16 := field 2 fun front => UInt16.ofNat (fromLittleEndian front)
def u32 : CheckedReader UInt32 := field 4 fun front => UInt32.ofNat (fromLittleEndian front)

/-- Reads a format of `size` bytes; a shorter payload is refused before anything is read. -/
def exactly (size : Nat) (reader : CheckedReader α) (payload : Bytes) : Option (Except Error α) :=
  if payload.length < size then some (.error (.shortPayload size payload.length))
  else (reader payload).map fun result => .ok result.1

/-- The checked reader has a result exactly where the reader has one, and the same. -/
def Agrees (checked : CheckedReader α) (reader : Reader α) : Prop :=
  ∀ place : Cursor,
    checked place.rest = (reader place).toOption.map fun read => (read.1, read.2.rest)

namespace Agrees

variable {checked : CheckedReader α} {reader : Reader α}

theorem pure (a : α) : Agrees (pure a) (pure a) := fun _ => rfl

theorem bind {next : α → CheckedReader β} {next' : α → Reader β} (first : Agrees checked reader)
    (rest : ∀ a, Agrees (next a) (next' a)) : Agrees (checked >>= next) (reader >>= next') := by
  intro place
  change (checked place.rest).bind (fun result => next result.1 result.2) =
    ((reader place).bind fun read => next' read.1 read.2).toOption.map _
  rw [first place]
  rcases reader place with e | ⟨a, behind⟩
  · rfl
  · exact rest a behind

/-- A field agrees with a reader that takes as many bytes and has its value. -/
theorem field {n : Nat} {value : Bytes → α} (reads : reader = do return value (← Reader.bytes n)) :
    Agrees (CheckedReader.field n value) reader := by
  intro place
  subst reads
  change (Bytes.range? place.rest 0 n).map _ =
    ((Reader.bytes n place).bind fun read => .ok (value read.1, read.2)).toOption.map _
  by_cases inside : n ≤ place.rest.length
  · rw [Bytes.range?_front inside, Reader.bytes, if_pos inside]
    rfl
  · have behind : ¬ (0 ≤ n ∧ n ≤ place.rest.length) := fun range => inside range.2
    rw [Bytes.range?, if_neg behind, Reader.bytes, if_neg inside]
    rfl

theorem block (n : Nat) : Agrees (CheckedReader.block n) (Reader.block n) := .field rfl
theorem skip (n : Nat) : Agrees (CheckedReader.skip n) (Reader.skip n) := .field rfl
theorem u8 : Agrees CheckedReader.u8 Reader.u8 := .field (by simp [Reader.u8, Reader.word])
theorem u16 : Agrees CheckedReader.u16 Reader.u16 := .field (by simp [Reader.u16, Reader.word])
theorem u32 : Agrees CheckedReader.u32 Reader.u32 := .field (by simp [Reader.u32, Reader.word])

/-- Where the check of the length in front is enough for the reader, it is so for all accesses. -/
theorem exactly {n : Nat} (agrees : Agrees checked reader) (reading : Reading reader n)
    (payload : Bytes) :
    CheckedReader.exactly n checked payload = some (Reader.exactly n reader payload) := by
  rw [CheckedReader.exactly, reading.exactly_eq (Nat.le_refl n)]
  by_cases short : payload.length < n
  · rw [if_pos short, if_pos short]
  · have read := reading.reads (.start payload) (Nat.le_of_not_lt short)
    have same := agrees (.start payload)
    rw [read] at same
    rw [if_neg short, if_neg short, show payload = (Cursor.start payload).rest from rfl, same]
    rfl

end Agrees

end CheckedReader

section Formats

open CheckedReader

def AlertRequest.checkedReader : CheckedReader AlertRequest := do
  let validActions ← u8
  let enableActions ← u8
  let lifeUsedWarning ← u8
  skip 1
  let overTemperatureWarning ← u16
  let underTemperatureWarning ← u16
  let volatileErrorsWarning ← u16
  let persistentErrorsWarning ← u16
  return {
    validActions, enableActions, lifeUsedWarning, overTemperatureWarning,
    underTemperatureWarning, volatileErrorsWarning, persistentErrorsWarning }

theorem AlertRequest.reader_agrees : Agrees checkedReader reader :=
  Agrees.u8.bind fun _ => Agrees.u8.bind fun _ => Agrees.u8.bind fun _ => (Agrees.skip 1).bind
    fun _ => Agrees.u16.bind fun _ => Agrees.u16.bind fun _ => Agrees.u16.bind fun _ =>
      Agrees.u16.bind fun _ => .pure _

def LogRequest.checkedReader : CheckedReader LogRequest := do
  let uuid ← block 16
  let offset ← u32
  let length ← u32
  return { uuid, offset, length }

theorem LogRequest.reader_agrees : Agrees checkedReader reader :=
  (Agrees.block 16).bind fun _ => Agrees.u32.bind fun _ => Agrees.u32.bind fun _ => .pure _

def EventPolicy.checkedReader : CheckedReader EventPolicy := do
  let info ← u8
  let warning ← u8
  let failure ← u8
  let fatal ← u8
  return { info, warning, failure, fatal }

theorem EventPolicy.reader_agrees : Agrees checkedReader reader :=
  Agrees.u8.bind fun _ => Agrees.u8.bind fun _ => Agrees.u8.bind fun _ => Agrees.u8.bind fun _ =>
    .pure _

end Formats

/-! ## Commands -/

namespace EmulatedDevice

section Commands

variable (d : EmulatedDevice)

def checkedReadLabels (input : Bytes) : Option Effect :=
  if input.length ≠ 8 then some (d.refuses .invalidPayloadLength)
  else do
    let offset := fromLittleEndian (← Bytes.range? input 0 4)
    let n := fromLittleEndian (← Bytes.range? input 4 8)
    if d.holdsRange offset n then
      let labels ← Bytes.range? d.labels offset (offset + n)
      return d.answers labels
    else return d.refuses .invalidInput

def checkedWriteLabels (input : Bytes) : Option Effect :=
  if input.length < 8 then some (d.refuses .invalidPayloadLength)
  else do
    let offset := fromLittleEndian (← Bytes.range? input 0 4)
    let data ← Bytes.range? input 8 input.length
    if d.holdsRange offset data.length then
      let labels ← Bytes.copyRange? d.labels offset (offset + data.length) data
      return succeeds { d with labels }
    else return d.refuses .invalidInput

def checkedChangeAlert (input : Bytes) : Option Effect := do
  match ← AlertRequest.checkedReader.exactly AlertRequest.size input with
  | .error _ => return d.refuses .invalidPayloadLength
  | .ok request =>
    if covers d.alert.programmableAlerts request.validActions then
      return succeeds { d with alert := d.alert.apply request }
    else return d.refuses .invalidInput

/-- The window is clamped to the log: first its start, and then its end. -/
def checkedReadLog (input : Bytes) : Option Effect := do
  match ← LogRequest.checkedReader.exactly LogRequest.size input with
  | .error _ => return d.refuses .invalidPayloadLength
  | .ok request =>
    if request.uuid = Uuid.effectsLog then
      let start := min request.offset.toNat effectsBytes.length
      let stop := min (start + request.length.toNat) effectsBytes.length
      let piece ← Bytes.range? effectsBytes start stop
      return d.answers piece
    else return d.refuses .invalidInput

def checkedChangeEventPolicy (input : Bytes) : Option Effect := do
  match ← EventPolicy.checkedReader.exactly EventPolicy.size input with
  | .error _ => return d.refuses .invalidPayloadLength
  | .ok policy => return succeeds { d with eventPolicy := policy }

def checkedChangeTimestamp (input : Bytes) : Option Effect :=
  if input.length ≠ 8 then some (d.refuses .invalidPayloadLength)
  else do
    let time ← Bytes.range? input 0 8
    return succeeds { d with timestamp := UInt64.ofNat (fromLittleEndian time) }

/-- The raw commands that take an input access it; the others access nothing by offset. -/
def checkedExecuteRaw (opcode : UInt16) (input : Bytes) : Option Effect :=
  if opcode = Opcode.setEventPolicy then d.checkedChangeEventPolicy input
  else if opcode = Opcode.setTimestamp then d.checkedChangeTimestamp input
  else some (d.executeRaw opcode input)

/-- So do the commands that are not raw. -/
def checkedExecute (id : UInt32) (opcode : UInt16) (input : Bytes) : Option Effect :=
  if id = CommandId.setAlertConfig then d.checkedChangeAlert input
  else if id = CommandId.getLabels then d.checkedReadLabels input
  else if id = CommandId.setLabels then d.checkedWriteLabels input
  else if id = CommandId.getLog then d.checkedReadLog input
  else if id = CommandId.raw then d.checkedExecuteRaw opcode input
  else some (d.execute id opcode input)

/-! ### They are the commands of the mailbox -/

theorem checkedReadLabels_eq (input : Bytes) :
    d.checkedReadLabels input = some (d.readLabels input) := by
  unfold checkedReadLabels readLabels
  by_cases sized : input.length = 8
  · have second : Bytes.range? input 4 8 = some (input.drop 4) := by
      rw [← sized]
      exact Bytes.range?_behind (by omega)
    simp only [sized, ne_eq, not_true_eq_false, if_false, Option.bind_eq_bind, Option.bind_some,
      Bytes.range?_front (show 4 ≤ input.length by omega), second]
    split
    case isTrue held =>
      have inside := of_decide_eq_true held
      rw [Bytes.range?_eq (Nat.le_add_right _ _) inside, Nat.add_sub_cancel_left]
      rfl
    case isFalse => rfl
  · simp only [ne_eq, sized, not_false_eq_true, if_true]

theorem checkedWriteLabels_eq (input : Bytes) :
    d.checkedWriteLabels input = some (d.writeLabels input) := by
  unfold checkedWriteLabels writeLabels
  by_cases short : input.length < 8
  · simp only [short, if_true]
  · simp only [short, if_false, Option.bind_eq_bind, Option.bind_some,
      Bytes.range?_front (show 4 ≤ input.length by omega),
      Bytes.range?_behind (show 8 ≤ input.length by omega)]
    split
    case isTrue held =>
      have inside := of_decide_eq_true held
      rw [Bytes.copyRange?_eq inside]
      rfl
    case isFalse => rfl

theorem checkedChangeAlert_eq (input : Bytes) :
    d.checkedChangeAlert input = some (d.changeAlert input) := by
  unfold checkedChangeAlert changeAlert
  rw [AlertRequest.reader_agrees.exactly AlertRequest.reading, AlertRequest.decode]
  rcases Reader.exactly AlertRequest.size AlertRequest.reader input with e | request
  · rfl
  · simp only [Option.bind_eq_bind, Option.bind_some]
    split <;> rfl

theorem checkedReadLog_eq (input : Bytes) : d.checkedReadLog input = some (d.readLog input) := by
  unfold checkedReadLog readLog
  rw [LogRequest.reader_agrees.exactly LogRequest.reading, LogRequest.decode]
  rcases Reader.exactly LogRequest.size LogRequest.reader input with e | request
  · rfl
  · simp only [Option.bind_eq_bind, Option.bind_some, Bytes.range?_clamped]
    split <;> rfl

theorem checkedChangeEventPolicy_eq (input : Bytes) :
    d.checkedChangeEventPolicy input = some (d.changeEventPolicy input) := by
  unfold checkedChangeEventPolicy changeEventPolicy
  rw [EventPolicy.reader_agrees.exactly EventPolicy.reading, EventPolicy.decode]
  rcases Reader.exactly EventPolicy.size EventPolicy.reader input with e | policy <;> rfl

theorem checkedChangeTimestamp_eq (input : Bytes) :
    d.checkedChangeTimestamp input = some (d.changeTimestamp input) := by
  unfold checkedChangeTimestamp changeTimestamp
  by_cases sized : input.length = 8
  · have whole : Bytes.range? input 0 8 = some input := by
      rw [← sized]
      exact Bytes.range?_behind (Nat.zero_le _)
    simp only [sized, ne_eq, not_true_eq_false, if_false, whole]
    rfl
  · simp only [ne_eq, sized, not_false_eq_true, if_true]

theorem checkedExecuteRaw_eq (opcode : UInt16) (input : Bytes) :
    d.checkedExecuteRaw opcode input = some (d.executeRaw opcode input) := by
  unfold checkedExecuteRaw
  split
  case isTrue same =>
    subst same
    exact d.checkedChangeEventPolicy_eq input
  case isFalse =>
    split
    case isTrue same =>
      subst same
      exact d.checkedChangeTimestamp_eq input
    case isFalse => rfl

/-- No input makes a command access what is not there. -/
theorem checkedExecute_eq (id : UInt32) (opcode : UInt16) (input : Bytes) :
    d.checkedExecute id opcode input = some (d.execute id opcode input) := by
  fun_cases checkedExecute
  case case1 same => subst same; exact d.checkedChangeAlert_eq input
  case case2 same => subst same; exact d.checkedReadLabels_eq input
  case case3 same => subst same; exact d.checkedWriteLabels_eq input
  case case4 same => subst same; exact d.checkedReadLog_eq input
  case case5 same => subst same; exact d.checkedExecuteRaw_eq opcode input
  case case6 => rfl

end Commands

/-! ## Sends -/

section Sends

variable (d : EmulatedDevice)

/-- How many bytes are delivered of a response. -/
def deliveredLength (response : Bytes) : Nat :=
  match d.outputLimit with
  | some limit => min response.length limit.toNat
  | none => response.length

/-- Carries out a send that the driver let through, every access checked.  It comes with the output
buffer as it is afterwards. -/
def checkedDeliver (request : SendRequest) : Option (Delivery × Bytes) :=
  match d.forcedStatus with
  | some word => some (⟨⟨0, word⟩, [], d, none⟩, request.output)
  | none => do
    let effect ← d.checkedExecute request.id request.rawOpcode request.input
    match effect.response with
    | none =>
      return (⟨⟨0, effect.status.toWord⟩, [], effect.device, some effect.status⟩, request.output)
    | some response =>
      if request.output.length < response.length then
        return (⟨⟨request.outSize, Status.invalidPayloadLength.toWord⟩, [], effect.device,
          some .invalidPayloadLength⟩, request.output)
      else
        let n := effect.device.deliveredLength response
        let delivered ← Bytes.range? response 0 n
        let output ← Bytes.copyRange? request.output 0 n delivered
        return (⟨⟨UInt32.ofNat n, effect.status.toWord⟩, delivered, effect.device,
          some effect.status⟩, output)

/-- Answers a send, every access checked: the verdict, and the output buffer and the device as they
are afterwards. -/
def checkedSend (info : DeviceInfo) (request : SendRequest) :
    Option (Except Error Receipt × Bytes × EmulatedDevice) :=
  match d.driverFault? request with
  | some reason => some (.error (.transport info.nodePath reason), request.output, d.called)
  | none => do
    let (delivery, output) ← d.called.checkedDeliver request
    return (.ok delivery.receipt, output, delivery.device)

theorem deliveredLength_le (response : Bytes) : d.deliveredLength response ≤ response.length := by
  unfold deliveredLength
  split <;> omega

/-- The limit cuts the response to that length. -/
theorem limited_eq_take (response : Bytes) :
    d.limited response = response.take (d.deliveredLength response) := by
  rcases at_ : d.outputLimit with _ | limit <;> simp only [limited, deliveredLength, at_]
  · exact List.take_length.symm
  · rw [List.take_eq_take_iff]
    omega

theorem checkedDeliver_eq (request : SendRequest) :
    d.checkedDeliver request =
      some (d.deliver request, overlay (d.deliver request).written request.output) := by
  rcases forced : d.forcedStatus with _ | word
  case some => simp only [checkedDeliver, deliver, forced, overlay_nil]
  rcases responds : (d.execute request.id request.rawOpcode request.input).response with
    _ | response <;>
    simp only [checkedDeliver, deliver, forced, checkedExecute_eq, Option.bind_eq_bind,
      Option.bind_some, responds]
  case none => rw [overlay_nil]; rfl
  generalize (d.execute request.id request.rawOpcode request.input).device = after
  by_cases short : request.output.length < response.length
  · simp only [short, if_true, overlay_nil]
    rfl
  · have cut := after.deliveredLength_le response
    have length : (response.take (after.deliveredLength response)).length =
        after.deliveredLength response := List.length_take_of_le cut
    have copied : Bytes.copyRange? request.output 0 (after.deliveredLength response)
        (response.take (after.deliveredLength response)) =
        some (overlay (response.take (after.deliveredLength response)) request.output) :=
      if_pos ⟨Nat.zero_le _, by omega, by omega⟩
    simp only [short, if_false, Bytes.range?_front cut, Option.bind_some, copied,
      after.limited_eq_take, length]
    rfl

/-- A checked send is the send. -/
theorem checkedSend_eq (info : DeviceInfo) (request : SendRequest) :
    d.checkedSend info request =
      let reply := d.send info request
      some (reply.verdict, overlay reply.written request.output, reply.device) := by
  rcases fault : d.driverFault? request with _ | reason
  · obtain ⟨log, sent⟩ := d.send_carried info fault
    simp only [checkedSend, fault, checkedDeliver_eq, sent]
    rfl
  · simp only [checkedSend, fault, d.send_refused info fault, overlay_nil]

end Sends

/-- The output size once a send has ended: a driver that refuses leaves it as it was. -/
def sizeAfter (request : SendRequest) : Except Error Receipt → UInt32
  | .ok receipt => receipt.outSize
  | .error _ => request.outSize

end EmulatedDevice

/-- **An emulated mailbox accesses nothing out of range**: for every device in every state and every
request, every range is one and every copy is between equal lengths, so that the send has a result,
the one it has without the checks.  The output keeps its length, and an output size that it had room
for is followed by one that it has room for. -/
theorem mailbox_within_bounds (d : EmulatedDevice) (info : DeviceInfo) (request : SendRequest) :
    let reply := d.send info request
    ∃ output, d.checkedSend info request = some (reply.verdict, output, reply.device) ∧
      output = overlay reply.written request.output ∧
      output.length = request.output.length ∧
      (request.outSize.toNat ≤ request.output.length →
        (EmulatedDevice.sizeAfter request reply.verdict).toNat ≤ output.length) := by
  intro reply
  refine ⟨overlay reply.written request.output, d.checkedSend_eq info request, rfl,
    length_overlay _ _, fun fits => ?_⟩
  rw [length_overlay]
  rcases verdict : reply.verdict with e | receipt
  · exact fits
  · obtain ⟨-, room, oversized, counted⟩ := (d.send_replies verdict).size
    by_cases beyond : d.called.Oversized request
    · rw [(oversized beyond).2]
      exact fits
    · exact (counted beyond).symm ▸ room

/-- A label read whose range ends past all words is refused, and a log window behind the log is
empty; neither touches the output. -/
theorem boundless_windows_checked :
    let d : EmulatedDevice := .powerOn { labelAreaSize := 16 }
    let ask (id : UInt32) (input : Bytes) : SendRequest := .ofBuffers id 0 input [7, 7]
    let window : LogRequest := ⟨Uuid.effectsLog, 0xffffffff, 0xffffffff⟩
    (∃ after, d.checkedSend d.config.info
        (ask CommandId.getLabels (le32 0xffffffff ++ le32 0xffffffff)) =
        some (.ok ⟨0, Status.invalidInput.toWord⟩, [7, 7], after)) ∧
      ∃ after, d.checkedSend d.config.info (ask CommandId.getLog window.encode) =
        some (.ok ⟨0, Status.success.toWord⟩, [7, 7], after) := by
  intro d ask window
  refine ⟨?_, ?_⟩
  · let request := ask CommandId.getLabels (le32 0xffffffff ++ le32 0xffffffff)
    obtain ⟨output, sent, laid, -⟩ := mailbox_within_bounds d d.config.info request
    have verdict : (d.send d.config.info request).verdict =
        .ok ⟨0, Status.invalidInput.toWord⟩ := by decide +kernel
    have written : (d.send d.config.info request).written = [] := by decide +kernel
    rw [verdict, laid, written] at sent
    exact ⟨_, sent⟩
  · let request := ask CommandId.getLog window.encode
    obtain ⟨output, sent, laid, -⟩ := mailbox_within_bounds d d.config.info request
    have verdict : (d.send d.config.info request).verdict = .ok ⟨0, Status.success.toWord⟩ := by
      decide +kernel
    have written : (d.send d.config.info request).written = [] := by decide +kernel
    rw [verdict, laid, written] at sent
    exact ⟨_, sent⟩

end CxlMailbox
