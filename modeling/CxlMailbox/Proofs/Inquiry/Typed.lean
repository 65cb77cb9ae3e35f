/-
# CxlMailbox.Proofs.Inquiry.Typed — the typed commands as data

`Setter` has the typed commands that answer how the device ended them, and `Getter` those that
answer with a payload format.  Each can be performed over any backend, and over two backends that
answer alike it answers alike (`Setter.perform_follows`, `Getter.perform_follows`).

A getter decodes exactly the payloads that are long enough for its format, `Getter.needed`; all
others are short payloads (`Getter.decode_short`, `Getter.decode_long`).
-/
import CxlMailbox.Inquiry
import CxlMailbox.Proofs.Payload.Reading
import CxlMailbox.Proofs.Simulation

namespace CxlMailbox

set_option autoImplicit false

open Effect Session

variable {δ ε α : Type} {f : δ → ε} {backend : Backend δ} {image : Backend ε}

/-! ## Formats -/

namespace SupportedLog

/-- The bytes of a list of logs, as far as its front tells: the header, and then all entries that
the header counts. -/
def listSize (payload : Bytes) : Nat :=
  if payload.length < headerSize then headerSize
  else headerSize + fromLittleEndian (payload.take 2) * entrySize

theorem decodeList_eq (payload : Bytes) :
    decodeList payload =
      if payload.length < listSize payload then
        .error (.shortPayload (listSize payload) payload.length)
      else .ok (reading.entries (fromLittleEndian (payload.take 2)) (payload.drop headerSize)) := by
  have front := Reading.u16.exactly_eq (show 2 ≤ headerSize by decide) payload
  have count : (Reading.u16.value payload).toNat = fromLittleEndian (payload.take 2) :=
    Reading.toNat_u16 payload
  have rest := (listReading (Reading.u16.value payload).toNat).exactly_eq (Nat.le_refl _) payload
  by_cases short : payload.length < headerSize
  · rw [if_pos short] at front
    rw [listSize, if_pos short, if_pos short, decodeList, front]
    rfl
  · rw [if_neg short] at front
    rw [listSize, if_neg short, ← count, decodeList, front]
    exact rest

end SupportedLog

/-! ## Commands -/

/-- The typed commands that answer how the device ended them. -/
inductive Setter where
  | setAlertConfig (request : AlertRequest)
  | setEventPolicy (policy : EventPolicy)
  | setTimestamp (time : UInt64)
  | transferFirmware
  | activateFirmware

/-- Carries the command out. -/
def Setter.perform (backend : Backend δ) (info : DeviceInfo) : Setter → Task δ Error Completion
  | setAlertConfig request => Inquiry.setAlertConfig backend info request
  | setEventPolicy policy => Inquiry.setEventPolicy backend info policy
  | setTimestamp time => Inquiry.setTimestamp backend info time
  | transferFirmware => Inquiry.transferFirmware backend info
  | activateFirmware => Inquiry.activateFirmware backend info

/-- The typed commands that answer with a payload format. -/
inductive Getter : Type → Type where
  | identify : Getter Identify
  | health : Getter Health
  | alertConfig : Getter AlertConfig
  | eventPolicy : Getter EventPolicy
  | timestamp : Getter UInt64
  | firmwareInfo : Getter FirmwareInfo
  | backgroundStatus : Getter BackgroundStatus
  | supportedLogs : Getter (List SupportedLog)

namespace Getter

/-- Carries the command out. -/
def perform (backend : Backend δ) (info : DeviceInfo) : Getter α → Task δ Error α
  | identify => Inquiry.identify backend info
  | health => Inquiry.health backend info
  | alertConfig => Inquiry.alertConfig backend info
  | eventPolicy => Inquiry.eventPolicy backend info
  | timestamp => Inquiry.timestamp backend info
  | firmwareInfo => Inquiry.firmwareInfo backend info
  | backgroundStatus => Inquiry.backgroundStatus backend info
  | supportedLogs => Inquiry.supportedLogs backend info

/-- What the bytes of a final output stand for. -/
def decode : Getter α → Bytes → Except Error α
  | identify => Identify.decode
  | health => Health.decode
  | alertConfig => AlertConfig.decode
  | eventPolicy => EventPolicy.decode
  | timestamp => Reader.exactly 8 Reader.u64
  | firmwareInfo => FirmwareInfo.decode
  | backgroundStatus => fun payload =>
      (Reader.exactly BackgroundStatus.size Reader.u64 payload).map BackgroundStatus.ofWord
  | supportedLogs => SupportedLog.decodeList

/-- How many bytes the format takes. -/
def needed (payload : Bytes) : Getter α → Nat
  | identify => Identify.size
  | health => Health.size
  | alertConfig => AlertConfig.size
  | eventPolicy => EventPolicy.size
  | timestamp => 8
  | firmwareInfo => FirmwareInfo.size
  | backgroundStatus => BackgroundStatus.size
  | supportedLogs => SupportedLog.listSize payload

/-- Below that length the payload is short, and from there on all fields can be read. -/
theorem decode_eq (getter : Getter α) (payload : Bytes) : ∃ a, getter.decode payload =
    if payload.length < getter.needed payload then
      .error (.shortPayload (getter.needed payload) payload.length)
    else .ok a := by
  cases getter with
  | identify => exact ⟨_, Identify.reading.exactly_eq (Nat.le_refl _) payload⟩
  | health => exact ⟨_, Health.reading.exactly_eq (Nat.le_refl _) payload⟩
  | alertConfig => exact ⟨_, AlertConfig.reading.exactly_eq (Nat.le_refl _) payload⟩
  | eventPolicy => exact ⟨_, EventPolicy.reading.exactly_eq (Nat.le_refl _) payload⟩
  | timestamp => exact ⟨_, Reading.u64.exactly_eq (Nat.le_refl _) payload⟩
  | firmwareInfo => exact ⟨_, FirmwareInfo.reading.exactly_eq (Nat.le_refl _) payload⟩
  | backgroundStatus =>
      refine ⟨.ofWord (Reading.u64.value payload), ?_⟩
      have word := Reading.u64.exactly_eq (Nat.le_refl 8) payload
      change (Reader.exactly 8 Reader.u64 payload).map BackgroundStatus.ofWord = _
      rw [word, apply_ite (Except.map _)]
      rfl
  | supportedLogs => exact ⟨_, SupportedLog.decodeList_eq payload⟩

theorem decode_short {getter : Getter α} {payload : Bytes}
    (short : payload.length < getter.needed payload) :
    getter.decode payload = .error (.shortPayload (getter.needed payload) payload.length) := by
  obtain ⟨a, decoded⟩ := getter.decode_eq payload
  rw [decoded, if_pos short]

theorem decode_long {getter : Getter α} {payload : Bytes}
    (long : getter.needed payload ≤ payload.length) : ∃ a, getter.decode payload = .ok a := by
  obtain ⟨a, decoded⟩ := getter.decode_eq payload
  exact ⟨a, by rw [decoded, if_neg (Nat.not_lt.mpr long)]⟩

end Getter

/-! ## Alike backends -/

namespace Inquiry

theorem get_follows (follows : backend.Follows f image) (id : UInt32)
    (decode : Bytes → Except Error α) :
    Follows (mapDevice f) (get backend id decode) (get image id decode) :=
  (prepare_follows follows id).bind fun _ => (run_follows follows []).bind fun _ =>
    (outputFor_follows id).bind fun _ => .except _

theorem getRaw_follows (follows : backend.Follows f image) (opcode : UInt16) (size : Nat)
    (decode : Bytes → Except Error α) :
    Follows (mapDevice f) (getRaw backend opcode size decode) (getRaw image opcode size decode) :=
  (prepareRaw_follows follows opcode).bind fun _ => (inCommand_follows _).bind fun _ =>
    (run_follows follows []).bind fun _ => (rawOutputFor_follows opcode).bind fun _ => .except _

theorem setRaw_follows (follows : backend.Follows f image) (opcode : UInt16) (input : Bytes) :
    Follows (mapDevice f) (setRaw backend opcode input) (setRaw image opcode input) :=
  (prepareRaw_follows follows opcode).bind fun _ => (inCommand_follows _).bind fun _ =>
    run_follows follows input

theorem trigger_follows (follows : backend.Follows f image) (info : DeviceInfo)
    (opcode : UInt16) :
    Follows (World.mapDevice f) (trigger backend info opcode) (trigger image info opcode) := by
  refine (Drive.once_follows (setRaw_follows follows opcode []) info).bind fun completion => ?_
  split
  · exact .bind (fun _ => rfl) fun _ => .pure _
  · exact .pure _

theorem readPiece_follows (follows : backend.Follows f image) (info : DeviceInfo)
    (request : LogRequest) :
    Follows (World.mapDevice f) (readPiece backend info request) (readPiece image info request) :=
  Drive.once_follows ((prepare_follows follows _).bind fun _ => (inCommand_follows _).bind fun _ =>
    (run_follows follows _).bind fun _ => outputFor_follows _) info

/-- Every piece that is not the last shortens what is left. -/
theorem readPieces_follows (follows : backend.Follows f image) (info : DeviceInfo) (uuid : Uuid)
    (wanted : Nat) : ∀ offset : UInt32, Follows (World.mapDevice f)
      (readPieces backend info uuid offset wanted) (readPieces image info uuid offset wanted) := by
  induction wanted using Nat.strongRecOn with
  | ind wanted ih =>
      intro offset
      rw [readPieces, readPieces]
      split
      · exact .pure _
      · refine (readPiece_follows follows info _).bind fun piece => ?_
        split
        · exact .pure _
        · exact (ih (wanted - piece.length) (by omega) _).bind fun _ => .pure _

theorem readLog_follows (follows : backend.Follows f image) (info : DeviceInfo) (uuid : Uuid)
    (offset length : UInt32) :
    Follows (World.mapDevice f) (readLog backend info uuid offset length)
      (readLog image info uuid offset length) := by
  unfold readLog
  split
  · exact .bind (.throw _) fun _ => readPieces_follows follows info uuid _ offset
  · exact readPieces_follows follows info uuid _ offset

theorem effectsLog_follows (follows : backend.Follows f image) (info : DeviceInfo) :
    Follows (World.mapDevice f) (effectsLog backend info) (effectsLog image info) := by
  refine .bind (Drive.once_follows (get_follows follows _ _) info) fun logs => ?_
  split
  · exact .throw _
  · exact (readLog_follows follows info _ _ _).bind fun _ => .pure _

end Inquiry

theorem Setter.perform_follows (follows : backend.Follows f image) (info : DeviceInfo)
    (setter : Setter) :
    Follows (World.mapDevice f) (setter.perform backend info) (setter.perform image info) := by
  cases setter with
  | setAlertConfig request =>
      exact Drive.once_follows
        ((prepare_follows follows _).bind fun _ => run_follows follows _) info
  | setEventPolicy policy => exact Drive.once_follows (Inquiry.setRaw_follows follows _ _) info
  | setTimestamp time => exact Drive.once_follows (Inquiry.setRaw_follows follows _ _) info
  | transferFirmware => exact Inquiry.trigger_follows follows info _
  | activateFirmware => exact Inquiry.trigger_follows follows info _

theorem Getter.perform_follows (follows : backend.Follows f image) (info : DeviceInfo)
    (getter : Getter α) :
    Follows (World.mapDevice f) (getter.perform backend info) (getter.perform image info) := by
  cases getter with
  | identify | health | alertConfig | supportedLogs =>
      exact Drive.once_follows (Inquiry.get_follows follows _ _) info
  | eventPolicy | timestamp | firmwareInfo =>
      exact Drive.once_follows (Inquiry.getRaw_follows follows _ _ _) info
  | backgroundStatus =>
      exact (Drive.once_follows (Inquiry.getRaw_follows follows _ _ _) info).bind fun _ =>
        .bind (fun _ => rfl) fun _ => .pure _

end CxlMailbox
