/-
# CxlMailbox.Inquiry — the typed commands

Each function sends one mailbox command and reads the answer, `effectsLog` and `readLog` as many
as the log takes. A getter answers only if the device completed the command; a setter answers
how the command ended, since a device may go on in the background.
-/
import CxlMailbox.Payload.Alert
import CxlMailbox.Payload.Background
import CxlMailbox.Payload.EventPolicy
import CxlMailbox.Payload.Firmware
import CxlMailbox.Payload.Health
import CxlMailbox.Payload.Identify
import CxlMailbox.Payload.Log
import CxlMailbox.Session

namespace CxlMailbox

set_option autoImplicit false

namespace Inquiry

variable {δ : Type}

/-- Sends the command with the id, without input, and decodes its final output. -/
def get {α : Type} (backend : Backend δ) (id : UInt32) (decode : Bytes → Except Error α) :
    Drive δ α := do
  Session.prepare backend id
  let _ ← Session.run backend []
  decode (← Session.outputFor id)

/-- Sends a raw command without input, whose output has `size` bytes, and decodes the output. -/
def getRaw {α : Type} (backend : Backend δ) (opcode : UInt16) (size : Nat)
    (decode : Bytes → Except Error α) : Drive δ α := do
  Session.prepareRaw backend opcode
  Session.setOutput none size
  let _ ← Session.run backend []
  decode (← Session.rawOutputFor opcode)

/-- Sends a raw command without output. -/
def setRaw (backend : Backend δ) (opcode : UInt16) (input : Bytes) : Drive δ Completion := do
  Session.prepareRaw backend opcode
  Session.setOutput none 0
  Session.run backend input

section

variable (backend : Backend δ) (info : DeviceInfo)

def identify : Task δ Error Identify :=
  (get backend CommandId.identify Identify.decode).once info

def health : Task δ Error Health :=
  (get backend CommandId.getHealthInfo Health.decode).once info

def alertConfig : Task δ Error AlertConfig :=
  (get backend CommandId.getAlertConfig AlertConfig.decode).once info

def setAlertConfig (request : AlertRequest) : Task δ Error Completion :=
  Drive.once (do
    Session.prepare backend CommandId.setAlertConfig
    Session.run backend request.encode) info

def eventPolicy : Task δ Error EventPolicy :=
  (getRaw backend Opcode.getEventPolicy EventPolicy.size EventPolicy.decode).once info

def setEventPolicy (policy : EventPolicy) : Task δ Error Completion :=
  (setRaw backend Opcode.setEventPolicy policy.encode).once info

def firmwareInfo : Task δ Error FirmwareInfo :=
  (getRaw backend Opcode.getFirmwareInfo FirmwareInfo.size FirmwareInfo.decode).once info

/-- The device's clock, in nanoseconds since 1970. -/
def timestamp : Task δ Error UInt64 :=
  (getRaw backend Opcode.getTimestamp 8 (Reader.exactly 8 Reader.u64)).once info

def setTimestamp (time : UInt64) : Task δ Error Completion :=
  (setRaw backend Opcode.setTimestamp (le64 time)).once info

/-- The state of the last background operation. -/
def backgroundStatus : Task δ Error BackgroundStatus := do
  let word ← (getRaw backend Opcode.backgroundStatus BackgroundStatus.size
    (Reader.exactly BackgroundStatus.size Reader.u64)).once info
  Task.log .debug s!"{info.name}: background status {Text.hexNumeral 16 word.toNat}"
  return BackgroundStatus.ofWord word

/-- Starts a background operation. -/
def trigger (opcode : UInt16) : Task δ Error Completion := do
  let completion ← (setRaw backend opcode []).once info
  if completion = .backgroundStarted then
    Task.log .info s!"{info.name}: background operation {Text.hexNumeral 4 opcode.toNat} started"
  return completion

def transferFirmware : Task δ Error Completion := trigger backend info Opcode.transferFirmware

def activateFirmware : Task δ Error Completion := trigger backend info Opcode.activateFirmware

/-! ## Logs -/

def supportedLogs : Task δ Error (List SupportedLog) :=
  (get backend CommandId.getSupportedLogs SupportedLog.decodeList).once info

/-- One piece of a log, of at most the requested length. -/
def readPiece (request : LogRequest) : Task δ Error Bytes :=
  Drive.once (do
    Session.prepare backend CommandId.getLog
    Session.setOutput none request.length.toNat
    let _ ← Session.run backend request.encode
    Session.outputFor CommandId.getLog) info

/-- The next bytes of a log, `wanted` of them from `offset` on, in pieces as large as the device
takes. Every piece brings at least one byte, an empty one ends the log. -/
def readPieces (uuid : Uuid) (offset : UInt32) (wanted : Nat) : Task δ Error Bytes := do
  if wanted = 0 then return []
  let length := min wanted info.payloadMax.toNat
  let piece ← readPiece backend info { uuid, offset, length := UInt32.ofNat length }
  if piece.length = 0 then return []
  let rest ← readPieces uuid (offset + UInt32.ofNat piece.length) (wanted - piece.length)
  return piece ++ rest
termination_by wanted

/-- `length` bytes of a log from `offset` on, fewer if the log ends. -/
def readLog (uuid : Uuid) (offset length : UInt32) : Task δ Error Bytes := do
  if info.payloadMax = 0 then throw (.invalidArgument .noPayloads)
  readPieces backend info uuid offset length.toNat

/-- The entries of the Command Effects Log. -/
def effectsLog : Task δ Error (List EffectsEntry) := do
  let logs ← supportedLogs backend info
  match logs.find? SupportedLog.isEffectsLog with
  | none => throw (.invalidArgument .noEffectsLog)
  | some log => return EffectsEntry.decodeLog (← readLog backend info log.uuid 0 log.size)

end

end Inquiry

end CxlMailbox
