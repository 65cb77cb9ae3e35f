/-
# CxlMailbox.Error — why a mailbox operation fails

Every failure is a cause; the wording is in one function, `Error.message`. Refused arguments and
operations out of turn have their own causes, since callers tell them apart.
-/
import CxlMailbox.Status
import CxlMailbox.Text.Numeral

namespace CxlMailbox

set_option autoImplicit false

/-- The direction of a payload, seen from the caller. -/
inductive Direction where
  | input
  | output
  deriving DecidableEq, Repr

/-- Why an argument is refused before the device is asked. -/
inductive ArgumentFault where
  /-- A label range that starts at or past the end of the label area. -/
  | offsetBeyondArea (offset area : UInt32)
  /-- A label range that reaches past the end of the label area. -/
  | rangeExceedsArea (offset length area : UInt32)
  /-- A lent payload buffer with fewer bytes than the payload. -/
  | shortPayloadBuffer (direction : Direction) (available wanted : Nat)
  /-- A caller's label buffer with fewer bytes than the label range. -/
  | shortLabelBuffer (direction : Direction) (wanted : Nat)
  /-- A device that takes no payloads cannot deliver a log. -/
  | noPayloads
  /-- The device lists no Command Effects Log. -/
  | noEffectsLog
  /-- Any other reason, in words. -/
  | other (reason : String)
  deriving DecidableEq, Repr

namespace ArgumentFault

open Text in
def message : ArgumentFault → String
  | offsetBeyondArea offset area =>
    s!"offset {hexNumeral 1 offset.toNat} beyond label area of {hexNumeral 1 area.toNat} bytes"
  | rangeExceedsArea offset length area =>
    s!"range {hexNumeral 1 offset.toNat}+{hexNumeral 1 length.toNat} exceeds label area of " ++
      s!"{hexNumeral 1 area.toNat} bytes"
  | shortPayloadBuffer .input available wanted =>
    s!"input buffer of {available} bytes shorter than payload size {wanted}"
  | shortPayloadBuffer .output available wanted =>
    s!"output buffer of {available} bytes shorter than payload size {wanted}"
  | shortLabelBuffer .input wanted =>
    s!"buffer too small: need {wanted} bytes for label write"
  | shortLabelBuffer .output wanted =>
    s!"buffer too small: need {wanted} bytes for label read"
  | noPayloads => "device payload size is 0"
  | noEffectsLog => "device does not report a CEL"
  | other reason => reason

end ArgumentFault

/-- Why a command refuses an operation out of turn. -/
inductive StateFault where
  | catalogNotQueried
  | notValidated
  | alreadyValidated
  | inputLent
  | notSubmitted
  /-- Any other reason, in words. -/
  | other (reason : String)
  deriving DecidableEq, Repr

namespace StateFault

def message : StateFault → String
  | catalogNotQueried => "catalog not queried"
  | notValidated => "command not validated"
  | alreadyValidated => "command already validated"
  | inputLent => "input payload is borrowed"
  | notSubmitted => "command not submitted"
  | other reason => reason

end StateFault

/-- The failures of mailbox operations. -/
inductive Error where
  /-- No memory for a buffer of the size. -/
  | allocationFailed (size : Nat)
  | invalidArgument (fault : ArgumentFault)
  /-- A payload size that is negative or above the device's maximum. -/
  | payloadSize (size : Int) (max : UInt32)
  /-- Opcode 0 cannot be sent raw. -/
  | reservedOpcode
  /-- A command asked for the result of another one. -/
  | commandMismatch (expected actual : UInt32)
  | invalidState (fault : StateFault)
  /-- The device's catalog has no such command. -/
  | unsupported (id : UInt32)
  /-- The node could not be opened, or its driver refused the request. -/
  | transport (path reason : String)
  /-- The node is no longer the device that was found. -/
  | deviceNodeInvalid (path : String)
  /-- The device answered with a failure status. -/
  | device (status : Status)
  /-- A label operation ended with a status other than success. -/
  | labelStatus (status : Status)
  /-- The command went on in the background, so its output is not final. -/
  | backgroundStarted
  /-- Fewer bytes than the payload format has. -/
  | shortPayload (expected actual : Nat)
  /-- Discovery or transport failed in a way of their own. -/
  | backend (reason : String)
  deriving DecidableEq, Repr

namespace Error

def message : Error → String
  | allocationFailed size => s!"Failed to allocate {size} bytes"
  | invalidArgument fault => s!"Invalid argument: {fault.message}"
  | payloadSize size max => s!"Payload size {size} out of range (max {max})"
  | reservedOpcode => "Raw opcode 0 is reserved"
  | commandMismatch expected actual =>
    s!"Command id mismatch: expected {expected}, got {actual}"
  | invalidState fault => s!"Invalid command state: {fault.message}"
  | unsupported id => s!"Command {id} is not supported by the device"
  | transport path reason => s!"Transport error on '{path}': {reason}"
  | deviceNodeInvalid path => s!"Device node '{path}' is not the expected character device"
  | device status => s!"Device returned status {status.text}"
  | labelStatus status => s!"I/O error (status {status.code}): {status.description}"
  | backgroundStarted => "Background operation started, output is not yet available"
  | shortPayload expected actual => s!"Short payload: need {expected} bytes, got {actual}"
  | backend reason => s!"Backend error: {reason}"

end Error

/-- The way a status ends a command, a failure as an error. -/
def Status.completion (status : Status) : Except Error Completion :=
  match status.completion? with
  | some completion => .ok completion
  | none => .error (.device status)

end CxlMailbox
