/-
# CxlMailbox.Payload.Background — the background status word

A background operation shows in a 64-bit word: the opcode that started it, its progress in
percent, whether it still runs, the code it ended with and a vendor status. Bits 24 to 31 mean
nothing; reading drops them and writing leaves them clear.
-/
import CxlMailbox.Status
import CxlMailbox.Text.Numeral

namespace CxlMailbox

set_option autoImplicit false

structure BackgroundStatus where
  /-- The opcode of the last background command. -/
  opcode : UInt16
  percentComplete : UInt8
  running : Bool
  returnCode : Status
  extendedStatus : UInt16
  deriving DecidableEq, Repr

namespace BackgroundStatus

/-- Bytes of the word. -/
def size : Nat := 8

/-- The fields of a status word. -/
def ofWord (word : UInt64) : BackgroundStatus where
  opcode := UInt16.ofNat (word.toNat % 0x10000)
  percentComplete := UInt8.ofNat (word.toNat / 0x10000 % 0x80)
  running := word.toNat.testBit 23
  returnCode := .ofCode (Int32.ofNat (word.toNat / 0x100000000 % 0x10000))
  extendedStatus := UInt16.ofNat (word.toNat / 0x1000000000000 % 0x10000)

/-- The word of the fields; seven bits of the percentage and sixteen of the return code fit. -/
def toWord (status : BackgroundStatus) : UInt64 :=
  UInt64.ofNat
    (status.opcode.toNat + 0x10000 * (status.percentComplete.toNat % 0x80) +
      0x800000 * status.running.toNat +
      0x100000000 * (status.returnCode.toWord.toNat % 0x10000) +
      0x1000000000000 * status.extendedStatus.toNat)

/-- The fields in one line. -/
def text (status : BackgroundStatus) : String :=
  let state := if status.running then "running" else "idle"
  s!"opcode {Text.hexNumeral 4 status.opcode.toNat} {status.percentComplete}% {state} " ++
    s!"(return {status.returnCode.code}, extended {Text.hexNumeral 4 status.extendedStatus.toNat})"

/-- Nothing was ever started. -/
def idle : BackgroundStatus := ofWord 0

/-- An operation that has just been started. -/
def started (opcode : UInt16) : BackgroundStatus where
  opcode := opcode
  percentComplete := 0
  running := true
  returnCode := Status.success
  extendedStatus := 0

end BackgroundStatus

end CxlMailbox
