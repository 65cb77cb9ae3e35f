/-
# CxlMailbox.Proofs.Emulator.ReplySize — what an emulated device says it has produced

A send that the driver lets through ends in one of four ways (`Replies`): a forced status answers,
the command has no response, its response does not fit the output, or the response is delivered as
far as the limit goes.  `deliver_replies` says that there are no others.

The size that is reported is a word, so the responses have to be shorter than words can count:
`execute_measured`, by one case a command.

`reply_size_delivered` puts the two together.  The size is the number of bytes written in all ways
but one: for a response that does not fit, nothing is written and the size is left as it was on
entry, which is the length of the output (`oversized_reply_counted`).
-/
import CxlMailbox.Proofs.Emulator.Frame
import CxlMailbox.Proofs.Payload.LogList
import Mathlib.Control.Monad.Basic

namespace CxlMailbox

set_option autoImplicit false

namespace EmulatedDevice

variable {d : EmulatedDevice}

/-! ## The length of a response -/

/-- A response, if there is one, has a length that a word can count. -/
def Effect.Measured (effect : Effect) : Prop :=
  ∀ response ∈ effect.response, response.length < UInt32.size

theorem answers_measured {response : Bytes} (short : response.length < UInt32.size) :
    (d.answers response).Measured := by
  rintro _ ⟨⟩
  exact short

theorem measured_of_silent {effect : Effect} (silent : effect.response = none) :
    effect.Measured := by
  intro response member
  rw [silent] at member
  cases member

variable (d) (input : Bytes)

/-- The length that a label read asks for is a word. -/
theorem readLabels_measured : (d.readLabels input).Measured := by
  unfold readLabels
  split
  case isTrue => exact measured_of_silent rfl
  case isFalse sized =>
    have asked : fromLittleEndian (input.drop 4) < UInt32.size := by
      have word := fromLittleEndian_lt (input.drop 4)
      have length : (input.drop 4).length = 4 := by
        rw [List.length_drop]
        omega
      rwa [length] at word
    dsimp only
    split
    · exact answers_measured (Nat.lt_of_le_of_lt (List.length_take_le ..) asked)
    · exact measured_of_silent rfl

/-- Nothing longer than the effects log is read of it. -/
theorem readLog_measured : (d.readLog input).Measured := by
  unfold readLog
  split
  · exact measured_of_silent rfl
  next request _ =>
    split
    · refine answers_measured (Nat.lt_of_le_of_lt (m := effectsBytes.length) ?_ (by decide))
      rw [Bytes.slice, List.length_take, List.length_drop]
      omega
    · exact measured_of_silent rfl

theorem writeLabels_silent : (d.writeLabels input).response = none := by
  unfold writeLabels
  split
  · rfl
  · dsimp only
    split <;> rfl

theorem changeAlert_silent : (d.changeAlert input).response = none := by
  unfold changeAlert
  split
  · rfl
  · split <;> rfl

theorem changeEventPolicy_silent : (d.changeEventPolicy input).response = none := by
  unfold changeEventPolicy
  split <;> rfl

theorem changeTimestamp_silent : (d.changeTimestamp input).response = none := by
  unfold changeTimestamp
  split <;> rfl

theorem startBackground_silent (opcode : UInt16) : (d.startBackground opcode).response = none := by
  unfold startBackground
  split <;> rfl

theorem executeRaw_measured (opcode : UInt16) : (d.executeRaw opcode input).Measured := by
  fun_cases executeRaw
  case case1 => exact answers_measured (by rw [EventPolicy.length_encode]; decide)
  case case2 => exact measured_of_silent (d.changeEventPolicy_silent input)
  case case3 => exact answers_measured (by rw [FirmwareInfo.length_encode]; decide)
  case case4 | case6 => exact answers_measured (by rw [length_le64]; decide)
  case case5 => exact measured_of_silent (d.changeTimestamp_silent input)
  case case7 => exact measured_of_silent (d.startBackground_silent opcode)
  case case8 => exact measured_of_silent rfl

/-- Every response can be counted. -/
theorem execute_measured (id : UInt32) (opcode : UInt16) : (d.execute id opcode input).Measured := by
  fun_cases execute
  case case1 => exact answers_measured (by rw [Identify.length_encode]; decide)
  case case2 => exact answers_measured (by rw [Health.length_encode]; decide)
  case case3 => exact answers_measured (by rw [AlertConfig.length_encode]; decide)
  case case4 => exact measured_of_silent (d.changeAlert_silent input)
  case case5 => exact d.readLabels_measured input
  case case6 => exact measured_of_silent (d.writeLabels_silent input)
  case case7 => exact answers_measured (by rw [SupportedLog.length_encodeList]; decide)
  case case8 => exact d.readLog_measured input
  case case9 => exact d.executeRaw_measured input opcode
  case case10 => exact measured_of_silent rfl

/-! ## The ways to reply -/

/-- The front of a response is delivered. -/
theorem limited_prefix (response : Bytes) : d.limited response <+: response := by
  unfold EmulatedDevice.limited
  split
  · exact List.take_prefix ..
  · exact List.prefix_rfl

/-- The response of a command, empty if it has none. -/
def response (request : SendRequest) : Bytes :=
  (d.execute request.id request.rawOpcode request.input).response.getD []

/-- The device executes the command, and the output has no room for the response. -/
def Oversized (request : SendRequest) : Prop :=
  d.forcedStatus = none ∧ request.output.length < (d.response request).length

/-- What a device reports and writes when the driver has let a request through. -/
inductive Replies (d : EmulatedDevice) (request : SendRequest) : Receipt → Bytes → Prop
  /-- A forced status answers. -/
  | forced {word : UInt32} (at_ : d.forcedStatus = some word) : Replies d request ⟨0, word⟩ []
  /-- The command was executed and has no response. -/
  | silent (unforced : d.forcedStatus = none)
      (nothing : (d.execute request.id request.rawOpcode request.input).response = none) :
      Replies d request
        ⟨0, (d.execute request.id request.rawOpcode request.input).status.toWord⟩ []
  /-- It has one that does not fit the output. -/
  | oversized {response : Bytes} (unforced : d.forcedStatus = none)
      (responds : (d.execute request.id request.rawOpcode request.input).response = some response)
      (short : request.output.length < response.length) :
      Replies d request ⟨request.outSize, Status.invalidPayloadLength.toWord⟩ []
  /-- It has one that does. -/
  | delivered {response : Bytes} (unforced : d.forcedStatus = none)
      (responds : (d.execute request.id request.rawOpcode request.input).response = some response)
      (room : response.length ≤ request.output.length) :
      Replies d request
        ⟨UInt32.ofNat (d.limited response).length,
          (d.execute request.id request.rawOpcode request.input).status.toWord⟩
        (d.limited response)

theorem deliver_replies (request : SendRequest) :
    d.Replies request (d.deliver request).receipt (d.deliver request).written := by
  rcases forced : d.forcedStatus with _ | word
  case some =>
    rw [deliver_forced forced]
    exact .forced forced
  have same := (d.execute_lawful request).same
  rcases responds : (d.execute request.id request.rawOpcode request.input).response with
    _ | response
  case none =>
    simp only [deliver, forced, responds]
    exact .silent forced responds
  by_cases short : request.output.length < response.length
  · simp only [deliver, forced, responds, if_pos short]
    exact .oversized forced responds short
  · -- The limit is that of the device before the command, which no command changes.
    have limit : (d.execute request.id request.rawOpcode request.input).device.limited response =
        d.limited response := by
      rw [limited, limited, same.outputLimit]
    simp only [deliver, forced, responds, if_neg short, limit]
    exact .delivered forced responds (Nat.le_of_not_lt short)

variable {d}

/-- In all ways, a front of the response is written and has room in the output; and in all but one,
its length is what is reported. -/
theorem Replies.size {request : SendRequest} {receipt : Receipt} {written : Bytes}
    (replies : d.Replies request receipt written) :
    written <+: d.response request ∧ written.length ≤ request.output.length ∧
      (d.Oversized request →
        written = [] ∧ receipt = ⟨request.outSize, Status.invalidPayloadLength.toWord⟩) ∧
      (¬ d.Oversized request → receipt.outSize.toNat = written.length) := by
  cases replies with
  | forced at_ =>
    refine ⟨List.nil_prefix, Nat.zero_le _, ?_, fun _ => rfl⟩
    intro oversized
    have unforced := oversized.1
    rw [at_] at unforced
    cases unforced
  | silent unforced nothing =>
    refine ⟨List.nil_prefix, Nat.zero_le _, ?_, fun _ => rfl⟩
    intro oversized
    have short := oversized.2
    rw [response, nothing] at short
    cases short
  | @oversized response' unforced responds short =>
    have same : d.response request = response' := congrArg (Option.getD · []) responds
    refine ⟨List.nil_prefix, Nat.zero_le _, fun _ => ⟨rfl, rfl⟩, ?_⟩
    intro fits
    exact absurd ⟨unforced, same ▸ short⟩ fits
  | @delivered response' unforced responds room =>
    have same : d.response request = response' := congrArg (Option.getD · []) responds
    have front : d.limited response' <+: response' := d.limited_prefix response'
    have counted : response'.length < UInt32.size :=
      d.execute_measured request.input request.id request.rawOpcode response' responds
    refine ⟨same ▸ front, Nat.le_trans front.length_le room, ?_, ?_⟩
    · intro oversized
      exact absurd oversized.2 (Nat.not_lt.mpr (same ▸ room))
    · intro _
      exact UInt32.toNat_ofNat_of_lt' (Nat.lt_of_le_of_lt front.length_le counted)

/-- A send with a receipt is a reply of the device. -/
theorem send_replies {info : DeviceInfo} {request : SendRequest} {receipt : Receipt}
    (accepted : (d.send info request).verdict = .ok receipt) :
    d.called.Replies request receipt (d.send info request).written := by
  rcases fault : d.driverFault? request with _ | reason
  · obtain ⟨log, sent⟩ := d.send_carried info fault
    rw [sent] at accepted ⊢
    cases accepted
    exact d.called.deliver_replies request
  · rw [d.send_refused info fault] at accepted
    cases accepted

end EmulatedDevice

/-- **The reply size is what was written**, but for a response that does not fit the output: a send
that an emulated device accepts, in whatever state, has written a front of the command's response to
the front of the output and left the rest of it alone.  The reported size is the number of these
bytes; if no status is forced and the response is longer than the output, then nothing is written,
and the size is the one on entry. -/
theorem reply_size_delivered (d : EmulatedDevice) (info : DeviceInfo) (id : UInt32)
    (opcode : UInt16) (input output : Bytes) {receipt : Receipt}
    (accepted : (d.send info (.ofBuffers id opcode input output)).verdict = .ok receipt) :
    let request := SendRequest.ofBuffers id opcode input output
    let written := (d.send info request).written
    written <+: d.called.response request ∧
      overlay written output = written ++ output.drop written.length ∧
      (d.called.Oversized request →
        written = [] ∧ receipt = ⟨request.outSize, Status.invalidPayloadLength.toWord⟩) ∧
      (¬ d.called.Oversized request →
        receipt.outSize.toNat = written.length ∧
          (overlay written output).take receipt.outSize.toNat = written) := by
  intro request written
  obtain ⟨front, room, oversized, size⟩ := (EmulatedDevice.send_replies accepted).size
  refine ⟨front, ?_, oversized, ?_⟩
  · exact congrArg (· ++ output.drop written.length) (List.take_of_length_le room)
  · intro fits
    have counted : receipt.outSize.toNat = written.length := size fits
    refine ⟨counted, ?_⟩
    rw [counted]
    exact take_overlay room

/-! ## A clock of eight bytes -/

/-- A device that delivers three bytes of a response at most. -/
def EmulatedDevice.threeBytes : EmulatedDevice := { powerOn {} with outputLimit := some 3 }

/-- Its clock is cut to three bytes, and three is the size that is reported. -/
theorem reply_size_delivered_threeBytes :
    let request := SendRequest.ofBuffers CommandId.raw Opcode.getTimestamp [] [1, 2, 3, 4, 5, 6, 7, 8]
    let reply := EmulatedDevice.threeBytes.send {} request
    reply.verdict = .ok ⟨3, 0⟩ ∧ reply.written.length = 3 ∧
      overlay reply.written request.output = reply.written ++ [4, 5, 6, 7, 8] := by
  intro request reply
  have accepted : reply.verdict = .ok ⟨3, 0⟩ := by decide +kernel
  obtain ⟨-, behind, -, size⟩ := reply_size_delivered .threeBytes {} CommandId.raw
    Opcode.getTimestamp [] [1, 2, 3, 4, 5, 6, 7, 8] accepted
  have fits : ¬ EmulatedDevice.threeBytes.called.Oversized request := fun oversized =>
    absurd oversized.2 (by decide +kernel)
  have length : reply.written.length = 3 := (size fits).1.symm
  refine ⟨accepted, length, behind.trans ?_⟩
  rw [show (EmulatedDevice.threeBytes.send {} request).written.length = 3 from length]
  rfl

/-- With four bytes of room the clock is not delivered, and four is the size that is reported. -/
theorem oversized_reply_counted :
    let request := SendRequest.ofBuffers CommandId.raw Opcode.getTimestamp [] [1, 2, 3, 4]
    let reply := (EmulatedDevice.powerOn {}).send {} request
    reply.verdict = .ok ⟨4, Status.invalidPayloadLength.toWord⟩ ∧ reply.written = [] := by
  intro request reply
  exact ⟨by decide +kernel, by decide +kernel⟩

end CxlMailbox
