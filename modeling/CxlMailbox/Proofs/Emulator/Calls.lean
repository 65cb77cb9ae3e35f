/-
# CxlMailbox.Proofs.Emulator.Calls — no call ends in a transport error

The library's calls on a device are the typed commands, the logs and the label operations.  On an
emulated device with the standard catalog each of them asks for payloads that the driver admits,
whatever the largest payload, the label area and the injected faults are:

* `DeviceCall` has the calls as data, and `DeviceCall.target?` the part of the device that a
  call is there to change;
* `get_safe`, `getRaw_safe` and `setRaw_safe` are the three shapes of typed commands, `fetch_safe`
  and `store_safe` those of label operations, `readPiece_safe` and `readPieces_safe` a log in
  pieces;
* `DeviceCall.safe`: no call ends in a transport error, and none changes another part.

`negotiated_sizes_admitted` says besides that commands which keep their negotiated payloads are
admitted over every catalog.
-/
import CxlMailbox.Proofs.Emulator.Safety
import CxlMailbox.Proofs.Inquiry.Outcome

namespace CxlMailbox

set_option autoImplicit false

open Effect

variable {α : Type} {config : DeviceConfig} {part? : Option DevicePart}

/-! ## Failures of formats and outputs -/

theorem Getter.decode_harmless (getter : Getter α) (payload : Bytes) :
    Harmless (fun _ => True) (getter.decode payload) := by
  rcases Nat.lt_or_ge payload.length (getter.needed payload) with short | long
  · rw [Getter.decode_short short]
    exact .failed rfl
  · obtain ⟨a, decoded⟩ := Getter.decode_long long
    rw [decoded]
    exact .answered trivial

namespace Command

variable (c : Command)

theorem finalResult_harmless : Harmless (fun _ => True) c.finalResult := by
  unfold finalResult
  split
  · exact .failed rfl
  · rename_i status _
    have completed := Drive.Safe.completion_harmless status
    split
    next failed =>
      rw [failed] at completed
      cases completed with | failed other => exact .failed other
    · exact .failed rfl
    · exact .answered trivial

theorem outputFor_harmless (id : UInt32) : Harmless (fun _ => True) (c.outputFor id) := by
  unfold outputFor
  split
  · exact .failed rfl
  · exact c.finalResult_harmless

theorem rawOutputFor_harmless (opcode : UInt16) :
    Harmless (fun _ => True) (c.rawOutputFor opcode) := by
  unfold rawOutputFor
  split
  · exact .failed rfl
  · exact c.finalResult_harmless

end Command

/-! ## Typed commands -/

namespace Inquiry

theorem output_safe {P : Command → Prop} {output : Command → Except Error Bytes}
    (output_harmless : ∀ c, Harmless (fun _ => True) (output c)) :
    Drive.Safe config part? P (do output (← Session.current)) fun _ _ => True :=
  Drive.Safe.current.bind fun c => .except (output_harmless c)

theorem decoding_safe {P : Command → Prop} {output : Command → Except Error Bytes}
    {decode : Bytes → Except Error α} (output_harmless : ∀ c, Harmless (fun _ => True) (output c))
    (decode_harmless : ∀ payload, Harmless (fun _ => True) (decode payload)) :
    Drive.Safe config part? P
      (do decode (← (do output (← Session.current) : Drive Emulator Bytes))) fun _ _ => True :=
  (output_safe output_harmless).bind fun payload => .except (decode_harmless payload)

/-- A command without input keeps its negotiated payloads. -/
theorem get_safe {id : UInt32} {decode : Bytes → Except Error α} (known : id ≠ CommandId.raw)
    (reads : DevicePart.of id 0 = none)
    (decode_harmless : ∀ payload, Harmless (fun _ => True) (decode payload)) :
    Drive.Safe config none (fun c => c = .unvalidated config.info)
      (get Emulator.backend id decode) fun _ _ => True := by
  refine (Drive.Safe.prepare id).bind fun _ => ?_
  refine .bind (Drive.Safe.run_nil fun c prepared => ?_) fun _ =>
    decoding_safe (fun c => c.outputFor_harmless id) decode_harmless
  obtain ⟨entry, looked, sizes⟩ := prepared
  exact looked.sendable sizes (fun raw => absurd raw known) (.inl reads)

end Inquiry

/-! ### Pass-through commands -/

/-- The entry of pass-through commands: both sizes are the caller's. -/
def CatalogEntry.passThrough : CatalogEntry := .enabled CommandId.raw variableSize variableSize

/-- With the standard catalog, the entry of an id is known. -/
theorem Command.Looked.entry_standard {id : UInt32} {opcode : UInt16} {entry known : CatalogEntry}
    {c : Command} (looked : c.Looked config id opcode entry)
    (standard : config.catalog = standardCatalog)
    (first : (standardCatalog.find? fun entry => entry.id == id) = some known) : entry = known := by
  have found := looked.first
  rw [standard, first] at found
  exact (Option.some.inj found).symm

namespace Inquiry

theorem prepareRaw_standard {opcode : UInt16} (standard : config.catalog = standardCatalog)
    (nonzero : opcode ≠ 0) {next : Drive Emulator α}
    (rest : Drive.Safe config part?
      (fun c => c.Looked config CommandId.raw opcode .passThrough) next fun _ _ => True) :
    Drive.Safe config part? (fun c => c = .unvalidated config.info)
      (do
        Session.prepareRaw Emulator.backend opcode
        next) fun _ _ => True := by
  refine (Drive.Safe.prepareRaw nonzero).bind fun _ => rest.weaken ?_
  rintro c ⟨entry, looked⟩
  obtain rfl : entry = .passThrough := looked.entry_standard standard rfl
  exact looked

/-- Any payloads of a pass-through command are admitted. -/
theorem passThrough_sendable {opcode : UInt16} {c : Command}
    (looked : c.Looked config CommandId.raw opcode .passThrough) (nonzero : opcode ≠ 0)
    (part : DevicePart.of CommandId.raw opcode = none ∨
      DevicePart.of CommandId.raw opcode = part?) : c.Sendable config part? :=
  looked.sendable ⟨fun declared => absurd declared (by decide),
    fun declared => absurd declared (by decide)⟩ (fun _ => nonzero) part

theorem getRaw_safe {opcode : UInt16} {decode : Bytes → Except Error α}
    (standard : config.catalog = standardCatalog) (nonzero : opcode ≠ 0)
    (reads : DevicePart.of CommandId.raw opcode = none) (size : Nat)
    (decode_harmless : ∀ payload, Harmless (fun _ => True) (decode payload)) :
    Drive.Safe config none (fun c => c = .unvalidated config.info)
      (getRaw Emulator.backend opcode size decode) fun _ _ => True := by
  refine prepareRaw_standard standard nonzero ?_
  refine (Drive.Safe.setOutput none size fun c output outSize looked => ?_).bind fun _ => ?_
  · exact looked.replaced c.input output outSize
  · refine .bind (Drive.Safe.run_nil fun c looked => ?_) fun _ =>
      decoding_safe (fun c => c.rawOutputFor_harmless opcode) decode_harmless
    exact passThrough_sendable looked nonzero (.inl reads)

theorem setRaw_safe (opcode : UInt16) (standard : config.catalog = standardCatalog)
    (nonzero : opcode ≠ 0) (writes : DevicePart.of CommandId.raw opcode = part?) (input : Bytes) :
    Drive.Safe config part? (fun c => c = .unvalidated config.info)
      (setRaw Emulator.backend opcode input) fun _ _ => True := by
  refine prepareRaw_standard standard nonzero ?_
  refine (Drive.Safe.setOutput none 0 fun c output outSize looked => ?_).bind fun _ => ?_
  · exact looked.replaced c.input output outSize
  · refine Drive.Safe.run input (fun c payload looked => ?_) fun c looked _ => ?_
    · exact looked.replaced payload c.output c.outSize
    · exact passThrough_sendable looked nonzero (.inr writes)

theorem trigger_safe {opcode : UInt16} (standard : config.catalog = standardCatalog)
    (nonzero : opcode ≠ 0) (writes : DevicePart.of CommandId.raw opcode = part?) :
    Task.Safe config part? (trigger Emulator.backend config.info opcode) := by
  refine (Task.Safe.once (setRaw_safe opcode standard nonzero writes [])).bind fun completion => ?_
  split
  · exact (Task.Safe.log _ _).bind fun _ => .pure _
  · exact .pure _

end Inquiry

/-! ### Commands with an input of their own -/

theorem prepare_standard {id : UInt32} {entry : CatalogEntry} {Q : α → Command → Prop}
    {next : Drive Emulator α} (standard : config.catalog = standardCatalog)
    (first : (standardCatalog.find? fun entry => entry.id == id) = some entry)
    (rest : Drive.Safe config part? (fun c => c.Looked config id 0 entry) next Q) :
    Drive.Safe config part? (fun c => c = .unvalidated config.info)
      (do
        Session.prepare Emulator.backend id
        next) Q := by
  refine (Drive.Safe.prepare id).bind fun _ => rest.weaken ?_
  rintro c ⟨other, looked, -⟩
  obtain rfl := looked.entry_standard standard first
  exact looked

/-- An input of the declared size is admitted, if any output is. -/
theorem Command.Looked.sendable_written {id : UInt32} {entry : CatalogEntry} {c : Command}
    (looked : c.Looked config id 0 entry) (known : id ≠ CommandId.raw)
    (part : DevicePart.of id 0 = none ∨ DevicePart.of id 0 = part?)
    (anyOutput : entry.sizeOut.toInt ≤ 0)
    (written : entry.sizeIn.toInt < 0 ∨ entry.sizeIn.toInt = c.input.bytes.length) :
    c.Sendable config part? :=
  looked.sendable ⟨fun declared => by omega, fun declared => by omega⟩
    (fun raw => absurd raw known) part

/-- The input of a run, where it is not empty. -/
theorem Command.input_of_run {c : Command} {input : Bytes} (nonempty : input.length ≠ 0)
    (given : input = [] ∨ c.input = .owned input) : c.input.bytes = input := by
  rcases given with rfl | written
  · exact absurd rfl nonempty
  · rw [written]
    rfl

namespace Inquiry

theorem setAlertConfig_safe (standard : config.catalog = standardCatalog)
    (request : AlertRequest) :
    Task.Safe config (some .alert) (setAlertConfig Emulator.backend config.info request) := by
  refine .once (prepare_standard standard rfl (Drive.Safe.run request.encode
    (fun c payload looked => looked.replaced payload c.output c.outSize) fun c looked given => ?_))
  have written := c.input_of_run (by simp [AlertRequest.size]) given
  exact looked.sendable_written (by decide) (.inr rfl) (by decide) (.inr (by simp [written]; rfl))

theorem readPiece_safe (standard : config.catalog = standardCatalog) (request : LogRequest) :
    Task.Safe config none (readPiece Emulator.backend config.info request) := by
  refine .once (Q := fun _ _ => True) (prepare_standard standard rfl ?_)
  refine (Drive.Safe.setOutput none request.length.toNat fun c output outSize looked => ?_).bind
    fun _ => ?_
  · exact looked.replaced c.input output outSize
  · refine Drive.Safe.bind (Drive.Safe.run request.encode (fun c payload looked => ?_)
      fun c looked given => ?_) fun _ => ?_
    · exact looked.replaced payload c.output c.outSize
    · have written := c.input_of_run (by simp [LogRequest.size]) given
      exact looked.sendable_written (by decide) (.inl rfl) (by decide)
        (.inr (by simp [written]; rfl))
    · exact output_safe fun c => c.outputFor_harmless CommandId.getLog

/-- Every piece that is not the last shortens what is left. -/
theorem readPieces_safe (standard : config.catalog = standardCatalog) (uuid : Uuid)
    (wanted : Nat) : ∀ offset : UInt32, Task.Safe config none
      (readPieces Emulator.backend config.info uuid offset wanted) := by
  induction wanted using Nat.strongRecOn with
  | ind wanted ih =>
      intro offset
      rw [readPieces]
      split
      · exact .pure []
      · refine (readPiece_safe standard _).bind fun piece => ?_
        split
        · exact .pure []
        · exact (ih (wanted - piece.length) (by omega) _).bind fun rest => .pure _

theorem readLog_safe (standard : config.catalog = standardCatalog) (uuid : Uuid)
    (offset length : UInt32) :
    Task.Safe config none (readLog Emulator.backend config.info uuid offset length) := by
  unfold readLog
  split
  · exact (Task.Safe.throw rfl).bind fun _ => readPieces_safe standard uuid _ offset
  · exact readPieces_safe standard uuid _ offset

end Inquiry

/-- The part that a setter is there to change. -/
def Setter.target : Setter → DevicePart
  | setAlertConfig _ => .alert
  | setEventPolicy _ => .eventPolicy
  | setTimestamp _ => .timestamp
  | transferFirmware | activateFirmware => .background

theorem Setter.safe (standard : config.catalog = standardCatalog) (setter : Setter) :
    Task.Safe config (some setter.target) (setter.perform Emulator.backend config.info) := by
  cases setter with
  | setAlertConfig request => exact Inquiry.setAlertConfig_safe standard request
  | setEventPolicy policy =>
      exact .once (Inquiry.setRaw_safe Opcode.setEventPolicy standard (by decide) rfl _)
  | setTimestamp time =>
      exact .once (Inquiry.setRaw_safe Opcode.setTimestamp standard (by decide) rfl _)
  | transferFirmware => exact Inquiry.trigger_safe standard (by decide) rfl
  | activateFirmware => exact Inquiry.trigger_safe standard (by decide) rfl

theorem Getter.safe (standard : config.catalog = standardCatalog) (getter : Getter α) :
    Task.Safe config none (getter.perform Emulator.backend config.info) := by
  have decodes := getter.decode_harmless
  cases getter with
  | identify | health | alertConfig | supportedLogs =>
      exact .once (Inquiry.get_safe (by decide) rfl decodes)
  | eventPolicy | timestamp | firmwareInfo =>
      exact .once (Inquiry.getRaw_safe standard (by decide) rfl _ decodes)
  | backgroundStatus =>
      refine (Task.Safe.once (Inquiry.getRaw_safe standard (by decide) rfl _
        Getter.timestamp.decode_harmless)).bind fun word => ?_
      exact (Task.Safe.log _ _).bind fun _ => .pure _

/-- The log is looked up in the list of logs, and read. -/
theorem Inquiry.effectsLog_safe (standard : config.catalog = standardCatalog) :
    Task.Safe config none (Inquiry.effectsLog Emulator.backend config.info) := by
  refine Task.Safe.bind (Getter.supportedLogs.safe standard) fun logs => ?_
  split
  · exact .throw rfl
  · exact (Inquiry.readLog_safe standard _ 0 _).bind fun _ => .pure _

/-! ## Label operations -/

namespace Labels

theorem requireSuccess_safe {P : Command → Prop} (operation : String) :
    Drive.Safe config part? P (requireSuccess operation) fun _ _ => True := by
  refine .of_apply (fun s => ?_) fun s _ => ?_ <;>
    obtain ⟨log, ran⟩ := requireSuccess_apply operation s <;> rw [ran]
  · exact ⟨log, rfl⟩
  · unfold successVerdict
    split
    · exact .failed rfl
    · split
      · exact .answered trivial
      · exact .failed rfl

theorem fetch_safe (standard : config.catalog = standardCatalog) (buffer : Bytes)
    (offset : UInt32) (n : Nat) :
    Drive.Safe config none (fun c => c = .unvalidated config.info)
      (fetch Emulator.backend buffer offset n) fun _ _ => True := by
  refine prepare_standard standard rfl (Drive.Safe.input headerSize (readHeader offset n)
    (fun c payload looked => looked.replaced payload c.output c.outSize) ?_)
  refine (Drive.Safe.setOutput (some buffer) n fun c output outSize ready => ?_).bind fun _ => ?_
  · exact ⟨ready.1.replaced c.input output outSize, ready.2⟩
  · refine (Drive.Safe.submit.weaken fun c ready => ?_).bind fun _ =>
      (requireSuccess_safe "get").bind fun _ => Drive.Safe.current.bind fun c => ?_
    · have written : c.input.bytes.length = 8 := by
        rw [ready.2]
        exact length_overlay _ _
      exact ready.1.sendable_written (by decide) (.inl rfl) (by decide)
        (.inr (by rw [written]; rfl))
    · split
      · exact .of_apply (fun _ => ⟨_, rfl⟩) fun _ _ => .failed rfl
      · exact .of_apply (fun s => ⟨s.world.log, rfl⟩) fun _ _ => .answered trivial

theorem store_safe (standard : config.catalog = standardCatalog) (data : Bytes) (offset : UInt32)
    (n : Nat) :
    Drive.Safe config (some .labels) (fun c => c = .unvalidated config.info)
      (store Emulator.backend data offset n) fun _ _ => True := by
  refine prepare_standard standard rfl ?_
  rw [← Int.natCast_add]
  refine Drive.Safe.input (headerSize + n) (writeInput offset data)
    (fun c payload looked => looked.replaced payload c.output c.outSize) ?_
  refine (Drive.Safe.submit.weaken fun c ready => ?_).bind fun _ => requireSuccess_safe "set"
  exact ready.1.sendable_written (by decide) (.inr rfl) (by decide) (.inl (by decide))

end Labels

/-- The part that a label operation is there to change. -/
def LabelCall.target? : LabelCall → Option DevicePart
  | read .. => none
  | write .. | zero .. => some .labels

theorem LabelCall.drive_safe (standard : config.catalog = standardCatalog) (call : LabelCall)
    (n : Nat) :
    Drive.Safe config call.target? (fun c => c = .unvalidated config.info)
      (call.drive Emulator.backend n) fun _ _ => True := by
  cases call with
  | read buffer offset length => exact Labels.fetch_safe standard buffer offset n
  | write data offset length => exact Labels.store_safe standard (data.take n) offset n
  | zero offset length => exact Labels.store_safe standard [] offset n

theorem LabelCall.safe (standard : config.catalog = standardCatalog) (call : LabelCall)
    {world : World Emulator} {d : EmulatedDevice} (hosts : world.device.Hosts config d) :
    let ran := call.perform Emulator.backend config.info world
    ∃ d', d.SameBut call.target? d' ∧ ran.2.device.Hosts config d' ∧
      Harmless (fun _ => True) ran.1.1 := by
  intro ran
  by_cases ranged : ∃ n, Labels.resolveLength config.info call.offset call.length = .ok n ∧
    call.Covers n
  · obtain ⟨n, resolved, covers⟩ := ranged
    obtain ⟨log, driven⟩ := call.perform_driven Emulator.backend resolved covers world
    obtain ⟨d', same, hosts', ended⟩ := call.drive_safe standard n
      ⟨.unvalidated config.info, { world with log }⟩ d hosts rfl
    rw [show ran = _ from driven]
    exact ⟨d', same, hosts', ended⟩
  · obtain ⟨fault, log, refused⟩ := call.perform_refused Emulator.backend
      (fun n resolved covers => ranged ⟨n, resolved, covers⟩) world
    rw [show ran = _ from refused]
    exact ⟨d, .refl _ d, hosts, .failed rfl⟩

/-! ## Calls as data -/

/-- The library's calls on a device. -/
inductive DeviceCall : Type 1
  | set (setter : Setter)
  | get {α : Type} (getter : Getter α)
  | readPiece (request : LogRequest)
  | readLog (uuid : Uuid) (offset length : UInt32)
  | effectsLog
  | label (call : LabelCall)

namespace DeviceCall

/-- Carries the call out and drops its result. -/
def perform {δ : Type} (backend : Backend δ) (info : DeviceInfo) : DeviceCall → Task δ Error Unit
  | set setter => do let _ ← setter.perform backend info
  | get getter => do let _ ← getter.perform backend info
  | readPiece request => do let _ ← Inquiry.readPiece backend info request
  | readLog uuid offset length => do let _ ← Inquiry.readLog backend info uuid offset length
  | effectsLog => do let _ ← Inquiry.effectsLog backend info
  | label call => fun world =>
      let ((answer, _), world) := call.perform backend info world
      (answer, world)

/-- The part of the device that the call is there to change. -/
def target? : DeviceCall → Option DevicePart
  | set setter => some setter.target
  | label call => call.target?
  | get _ | readPiece _ | readLog .. | effectsLog => none

/-- No call fails because of the transport, and none changes anything but its target. -/
theorem safe (standard : config.catalog = standardCatalog) (call : DeviceCall) :
    Task.Safe config call.target? (call.perform Emulator.backend config.info) := by
  cases call with
  | set setter => exact (setter.safe standard).bind fun _ => .pure ()
  | get getter => exact (getter.safe standard).bind fun _ => .pure ()
  | readPiece request => exact (Inquiry.readPiece_safe standard request).bind fun _ => .pure ()
  | readLog uuid offset length =>
      exact (Inquiry.readLog_safe standard uuid offset length).bind fun _ => .pure ()
  | effectsLog => exact (Inquiry.effectsLog_safe standard).bind fun _ => .pure ()
  | label call => exact fun world d hosts => call.safe standard hosts

end DeviceCall

/-! ## Admission -/

/-- The answer is no failure of the transport. -/
def Unrefused (answer : Except Error α) : Prop :=
  ∀ path reason, answer ≠ .error (.transport path reason)

theorem Harmless.unrefused {Q : α → Prop} {answer : Except Error α}
    (harmless : Harmless Q answer) : Unrefused answer := by
  rintro path reason rfl
  cases harmless with | failed other => cases other

theorem Command.Admitted.sendable {c : Command} (admitted : c.Admitted config) :
    c.Sendable config c.request.target? :=
  ⟨admitted.device, admitted.clear, fun _ => admitted.passes, .inr rfl⟩

/-- **Negotiated sizes are admitted.**  Over a device with any catalog, in any state, a command that
keeps the payloads that were negotiated for it has the entry that the driver looks at, and is never
refused; and with the standard catalog no call at all ends because the driver refused a command. -/
theorem negotiated_sizes_admitted (config : DeviceConfig) (world : World Emulator)
    (d : EmulatedDevice) (hosts : world.device.Hosts config d) :
    (∀ (origin : Origin) (c : Command), Negotiated config origin c →
      origin ≠ .unvalidated → origin ≠ .known CommandId.raw →
      (∃ entry, c.entry? = some entry ∧
        (config.catalog.find? fun entry => entry.id == c.id) = some entry) ∧
      Unrefused (Session.submit Emulator.backend ⟨c, world⟩).1) ∧
    (config.catalog = standardCatalog → ∀ call : DeviceCall,
      let ran := call.perform Emulator.backend config.info world
      Unrefused ran.1 ∧ ∃ d', ran.2.device.Hosts config d') := by
  refine ⟨fun origin c negotiated validated named => ?_, fun standard call => ?_⟩
  · have admitted := negotiated.admitted validated named
    obtain ⟨entry, found, first, -⟩ := admitted.entry
    obtain ⟨-, -, -, ended⟩ := Drive.Safe.submit ⟨c, world⟩ d hosts admitted.sendable
    exact ⟨⟨entry, found, first⟩, ended.unrefused⟩
  · obtain ⟨d', -, hosts', ended⟩ := call.safe standard world d hosts
    exact ⟨ended.unrefused, d', hosts'⟩

/-- A device with two entries for one command admits the command that is made for it, and a standard
device that fails every command, and delivers no byte of a response, refuses no clock reading. -/
theorem first_entry_admitted :
    let config : DeviceConfig := { catalog := [.enabled 4 3 2, .enabled 4 0 0] }
    let world : World Emulator := { device := .ofConfigs [config] }
    let faulty : EmulatedDevice :=
      { EmulatedDevice.powerOn {} with forcedStatus := some 9, outputLimit := some 0 }
    let made := (Origin.known 4).make Emulator.backend ⟨.unvalidated config.info, world⟩
    Unrefused (Session.submit Emulator.backend made.2).1 ∧
      Unrefused ((DeviceCall.get Getter.timestamp).perform Emulator.backend
        (DeviceConfig.info {}) { device := { devices := [faulty] } }).1 := by
  intro config world faulty made
  have hosts : world.device.Hosts config (.powerOn config) := ⟨rfl, rfl⟩
  have negotiated : Negotiated config (.known 4) made.2.command :=
    .made (.powerOn config) world hosts rfl
  have later : made.2.world.device.Hosts config
      { EmulatedDevice.powerOn config with queryCalls := 2 } := ⟨rfl, rfl⟩
  constructor
  · exact ((negotiated_sizes_admitted config made.2.world _ later).1 _ _ negotiated (by decide)
      (by decide)).2
  · exact ((negotiated_sizes_admitted {} _ faulty ⟨rfl, rfl⟩).2 rfl _).1

end CxlMailbox
