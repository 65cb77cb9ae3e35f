/-
# CxlMailbox.Status — mailbox return codes

A device answers every mailbox command with a 32-bit code. The codes 0 to 22 have a name and a
description in the CXL specification; every other code, negative ones included, is kept as it
is and counts as unknown. Code 0 is success, code 1 says that a background operation was
started, and all others are failures: exactly one of the three holds of every code
(`isFailure_iff`).

No code is lost: the status that a code is classified as has that code (`code_ofCode`). A status
that says `unknown` of a specified code can be written down, but is none that a code is classified
as (`ofCode_code_iff`).
-/

namespace CxlMailbox

set_option autoImplicit false

/-- The return code of a mailbox command. -/
inductive Status where
  | success
  | backgroundStarted
  | invalidInput
  | unsupported
  | internalError
  | retryRequired
  | busy
  | mediaDisabled
  | fwTransferInProgress
  | fwTransferOutOfOrder
  | fwAuthenticationFailed
  | invalidSlot
  | activationFailedRolledBack
  | activationFailedColdReset
  | invalidHandle
  | invalidPhysicalAddress
  | injectPoisonLimitReached
  | permanentMediaFailure
  | aborted
  | invalidSecurityState
  | incorrectPassphrase
  | unsupportedMailbox
  | invalidPayloadLength
  /-- Any other code. -/
  | unknown (code : Int32)
  deriving DecidableEq, Repr

namespace Status

/-- The status of a code. -/
def ofCode (code : Int32) : Status :=
  match code with
  | 0 => success
  | 1 => backgroundStarted
  | 2 => invalidInput
  | 3 => unsupported
  | 4 => internalError
  | 5 => retryRequired
  | 6 => busy
  | 7 => mediaDisabled
  | 8 => fwTransferInProgress
  | 9 => fwTransferOutOfOrder
  | 10 => fwAuthenticationFailed
  | 11 => invalidSlot
  | 12 => activationFailedRolledBack
  | 13 => activationFailedColdReset
  | 14 => invalidHandle
  | 15 => invalidPhysicalAddress
  | 16 => injectPoisonLimitReached
  | 17 => permanentMediaFailure
  | 18 => aborted
  | 19 => invalidSecurityState
  | 20 => incorrectPassphrase
  | 21 => unsupportedMailbox
  | 22 => invalidPayloadLength
  | other => unknown other

/-- The code of a status. -/
def code : Status → Int32
  | success => 0
  | backgroundStarted => 1
  | invalidInput => 2
  | unsupported => 3
  | internalError => 4
  | retryRequired => 5
  | busy => 6
  | mediaDisabled => 7
  | fwTransferInProgress => 8
  | fwTransferOutOfOrder => 9
  | fwAuthenticationFailed => 10
  | invalidSlot => 11
  | activationFailedRolledBack => 12
  | activationFailedColdReset => 13
  | invalidHandle => 14
  | invalidPhysicalAddress => 15
  | injectPoisonLimitReached => 16
  | permanentMediaFailure => 17
  | aborted => 18
  | invalidSecurityState => 19
  | incorrectPassphrase => 20
  | unsupportedMailbox => 21
  | invalidPayloadLength => 22
  | unknown code => code

/-- The status is what its code is classified as: it is not `unknown` of a specified code. -/
def Classified : Status → Prop
  | unknown code => code < 0 ∨ 22 < code
  | _ => True

/-- Every code is that of its status. -/
@[simp] theorem code_ofCode (code : Int32) : (ofCode code).code = code := by
  unfold ofCode
  split <;> rfl

theorem classified_ofCode (code : Int32) : (ofCode code).Classified := by
  unfold ofCode
  split
  case h_24 =>
    -- The code is none of the 23 above, which is arithmetic once all of them are integers.
    change code < 0 ∨ 22 < code
    simp only [← Int32.toInt_inj, Int32.lt_iff_toInt_lt, Int32.reduceToInt] at *
    simp only [Int32.toInt, Int32.toBitVec, BitVec.reduceToInt] at *
    grind
  all_goals trivial

/-- A status is that of its code exactly if it is classified. -/
theorem ofCode_code_iff (status : Status) : ofCode status.code = status ↔ status.Classified := by
  refine ⟨fun same => same ▸ classified_ofCode status.code, fun classified => ?_⟩
  cases status with
  | unknown code =>
      change code < 0 ∨ 22 < code at classified
      change ofCode code = unknown code
      unfold ofCode
      split
      case h_24 => rfl
      all_goals exact absurd classified (by decide)
  | _ => rfl

/-- Name and description of the specified codes, from code 0 on. -/
def table : List (String × String) :=
  [("Success",
      "Success: The command completed successfully."),
    ("BackgroundCommandStarted",
      "Background Command Started: The background command started successfully. Refer " ++
        "to the Background Command Status register to retrieve the command result."),
    ("InvalidInput",
      "Invalid Input: A command input was invalid."),
    ("Unsupported",
      "Unsupported: The command is not supported."),
    ("InternalError",
      "Internal Error: The command was not completed due to an internal device error."),
    ("RetryRequired",
      "Retry Required: The command was not completed due to a temporary error. An " ++
        "optional single retry may resolve the issue."),
    ("Busy",
      "Busy: The device is currently busy processing a background operation. Wait until " ++
        "background command completes and then retry the command."),
    ("MediaDisabled",
      "Media Disabled: The command could not be completed because it requires media " ++
        "access and media is disabled."),
    ("FwTransferInProgress",
      "FW Transfer in Progress: Only one FW package can be transferred at a time. " ++
        "Complete the current FW package transfer before starting a new one."),
    ("FwTransferOutOfOrder",
      "FW Transfer Out of Order: The FW package transfer was aborted because the FW " ++
        "package content was transferred out of order."),
    ("FwAuthenticationFailed",
      "FW Authentication Failed: The FW package was not saved to the device because the " ++
        "FW package authentication failed."),
    ("InvalidSlot",
      "Invalid Slot: The FW slot specified is not supported or not valid for the " ++
        "requested operation."),
    ("ActivationFailedRolledBack",
      "Activation Failed, FW Rolled Back: The new FW failed to activate and rolled back " ++
        "to the previous active FW."),
    ("ActivationFailedColdReset",
      "Activation Failed, Cold Reset Required: The new FW failed to activate. A cold " ++
        "reset is required."),
    ("InvalidHandle",
      "Invalid Handle: One or more Event Record Handles were invalid."),
    ("InvalidPhysicalAddress",
      "Invalid Physical Address: The physical address specified is invalid."),
    ("InjectPoisonLimitReached",
      "Inject Poison Limit Reached: The devices limit on allowed poison injection has " ++
        "been reached. Clear injected poison requests before attempting to inject more."),
    ("PermanentMediaFailure",
      "Permanent Media Failure: The device could not clear poison due to a permanent " ++
        "issue with the media."),
    ("Aborted",
      "Aborted: The background command was aborted by the device."),
    ("InvalidSecurityState",
      "Invalid Security State: The command is not valid in the current security state."),
    ("IncorrectPassphrase",
      "Incorrect Passphrase: The passphrase does not match the currently set " ++
        "passphrase."),
    ("UnsupportedMailbox",
      "Unsupported Mailbox: The command is not supported on the mailbox it was issued " ++
        "on. Used to indicate an unsupported command issued on the secondary mailbox."),
    ("InvalidPayloadLength",
      "Invalid Payload Length: The payload length specified in the Command Register is " ++
        "not valid. The device is required to perform this check prior to processing any " ++
        "command defined in this specification.")]

example : table.length = 23 := by decide

/-- The table row of a status. -/
def entry? : Status → Option (String × String)
  | unknown _ => none
  | specified => table[specified.code.toNatClampNeg]?

/-- The specified name, or the code itself. -/
def name (status : Status) : String :=
  match status.entry? with
  | some row => row.1
  | none => s!"Unknown({status.code})"

def description (status : Status) : String :=
  match status.entry? with
  | some row => row.2
  | none => "Unknown Status: The device returned a status code that is not defined by the CXL " ++
      "specification."

/-- Code and description in one line. -/
def text (status : Status) : String := s!"{status.code}: {status.description}"

/-- The status that a return word stands for, read as a two's complement number. -/
def ofWord (word : UInt32) : Status := ofCode word.toInt32

/-- The return word of a status. -/
def toWord (status : Status) : UInt32 := status.code.toUInt32

@[simp] theorem toWord_ofWord (word : UInt32) : (ofWord word).toWord = word := by
  simp [ofWord, toWord]

/-- The code is the return word, read as a two's complement number. -/
theorem toInt_code (status : Status) :
    status.code.toInt = (status.toWord.toNat : Int).bmod UInt32.size :=
  BitVec.toInt_eq_toNat_bmod _

theorem ofWord_toWord {status : Status} (classified : status.Classified) :
    ofWord status.toWord = status := by
  rw [ofWord, toWord, Int32.toInt32_toUInt32]
  exact (ofCode_code_iff status).mpr classified

/-- The command completed. -/
def isSuccess (status : Status) : Bool := status == success

/-- A background operation runs; output is not final. -/
def isBackgroundStarted (status : Status) : Bool := status == backgroundStarted

/-- Every code but the two that report progress. -/
def isFailure (status : Status) : Bool := !status.isSuccess && !status.isBackgroundStarted

/-- The codes after which one more attempt is reasonable. Nothing here retries on its own. -/
def isRetryAdvised : Status → Bool
  | retryRequired | busy => true
  | _ => false

theorem isFailure_iff (status : Status) :
    status.isFailure = true ↔ status ≠ success ∧ status ≠ backgroundStarted := by
  simp [isFailure, isSuccess, isBackgroundStarted]

theorem classified_of_not_failure {status : Status} (done : status.isFailure = false) :
    status.Classified := by
  cases status with
  | unknown code => cases done
  | _ => trivial

end Status

/-- How a command that did not fail ended. -/
inductive Completion where
  /-- The output is final. -/
  | complete
  /-- The device goes on in the background. -/
  | backgroundStarted
  deriving DecidableEq, Repr

/-- The way a status ends a command; `none` for a failure. -/
def Status.completion? : Status → Option Completion
  | .success => some .complete
  | .backgroundStarted => some .backgroundStarted
  | _ => none

theorem Status.completion?_eq (status : Status) :
    status.completion? =
      if status.isSuccess then some .complete
      else if status.isBackgroundStarted then some .backgroundStarted
      else none := by
  cases status <;> rfl

end CxlMailbox
