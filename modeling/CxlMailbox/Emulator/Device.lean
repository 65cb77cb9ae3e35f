/-
# CxlMailbox.Emulator.Device — an emulated memory device

The mailbox of a device that lives in memory: a catalog, a label area and the state behind the
typed commands. The driver in front of it refuses sends that do not fit the catalog; the device
itself answers with a status and, for commands that read, a response.

Two faults can be injected: a status that every command returns without being executed, and a
limit on how many bytes of a response are delivered.
-/
import CxlMailbox.Backend
import CxlMailbox.Payload.Alert
import CxlMailbox.Payload.Background
import CxlMailbox.Payload.EventPolicy
import CxlMailbox.Payload.Firmware
import CxlMailbox.Payload.Health
import CxlMailbox.Payload.Identify
import CxlMailbox.Payload.Log

namespace CxlMailbox

set_option autoImplicit false

/-! ## Configuration -/

/-- The catalog of a device that is not configured otherwise. -/
def standardCatalog : List CatalogEntry :=
  [.enabled CommandId.identify 0 67,
    .enabled CommandId.raw variableSize variableSize,
    .enabled CommandId.getSupportedLogs 0 variableSize,
    .enabled CommandId.getFirmwareInfo 0 80,
    .enabled CommandId.getLabels 8 variableSize,
    .enabled CommandId.getHealthInfo 0 18,
    .enabled CommandId.getLog 24 variableSize,
    .enabled CommandId.setLabels variableSize 0,
    .enabled CommandId.getAlertConfig 0 16,
    .enabled CommandId.setAlertConfig 12 0]

/-- How an emulated device is set up. -/
structure DeviceConfig where
  id : UInt32 := 0
  name : String := "mem0"
  major : UInt64 := 250
  minor : UInt64 := 0
  persistentSize : UInt64 := 1073741824
  volatileSize : UInt64 := 0
  payloadMax : UInt32 := 4096
  labelAreaSize : UInt32 := 1024
  firmwareVersion : String := "DUMMY 1.0"
  catalog : List CatalogEntry := standardCatalog
  deriving DecidableEq, Repr

namespace DeviceConfig

/-- The standard device with another number, and the name and node that go with it. -/
def withId (id : UInt32) : DeviceConfig :=
  { id, name := s!"mem{id}", minor := id.toUInt64 }

/-- The record that discovery makes of the device. -/
def info (config : DeviceConfig) : DeviceInfo where
  id := config.id
  name := config.name
  major := config.major
  minor := config.minor
  persistentSize := config.persistentSize
  volatileSize := config.volatileSize
  payloadMax := config.payloadMax
  labelAreaSize := config.labelAreaSize
  firmwareVersion := config.firmwareVersion
  attributePath := joinPath "/sys/bus/cxl/devices" config.name
  nodePath := joinPath "/dev/cxl" config.name

end DeviceConfig

/-! ## State -/

/-- The state of an emulated device. -/
structure EmulatedDevice where
  config : DeviceConfig
  labels : Bytes
  identify : Identify
  health : Health
  alert : AlertConfig
  eventPolicy : EventPolicy
  /-- The device's clock. -/
  timestamp : UInt64
  firmware : FirmwareInfo
  background : BackgroundStatus
  /-- The status that every command returns instead of being executed. -/
  forcedStatus : Option UInt32
  /-- Most bytes that are delivered of a response. -/
  outputLimit : Option UInt32
  /-- The minor number of the node, which is another one once the node was replaced. -/
  nodeMinor : UInt64
  queryCalls : Nat
  sendCalls : Nat
  deriving DecidableEq, Repr

namespace EmulatedDevice

/-- What a device that is switched on says of itself. -/
def identityOf (config : DeviceConfig) : Identify :=
  let units (size : UInt64) : UInt64 := UInt64.ofNat (size.toNat / Identify.capacityUnit)
  { firmwareRevision := Revision.ofText config.firmwareVersion
    totalCapacity := units (config.persistentSize + config.volatileSize)
    volatileCapacity := units config.volatileSize
    persistentCapacity := units config.persistentSize
    infoLogSize := 32
    warningLogSize := 32
    failureLogSize := 32
    fatalLogSize := 32
    labelAreaSize := config.labelAreaSize
    poisonListMax := 256
    injectPoisonLimit := 8 }

/-- The alert configuration of a device that is switched on; the under-temperature limit is
twenty degrees below zero. -/
def initialAlert : AlertConfig :=
  { programmableAlerts := AlertBit.all
    lifeUsedCritical := 100
    overTemperatureCritical := 100
    underTemperatureCritical := 0xffec }

/-- A device that is switched on. -/
def powerOn (config : DeviceConfig) : EmulatedDevice where
  config := config
  labels := Bytes.zeros config.labelAreaSize.toNat
  identify := identityOf config
  health := { temperature := 35 }
  alert := initialAlert
  eventPolicy := { info := eventSettings .msi 0 }
  timestamp := 0
  firmware :=
    { slotsSupported := 2, slotInfo := 1, activationCaps := 1,
      slot1 := Revision.ofText config.firmwareVersion }
  background := .idle
  forcedStatus := none
  outputLimit := none
  nodeMinor := config.minor
  queryCalls := 0
  sendCalls := 0

/-! ## Commands -/

/-- What a command does: the status, the response of a command that reads, and the device
afterwards. -/
structure Effect where
  status : Status
  response : Option Bytes
  device : EmulatedDevice

variable (d : EmulatedDevice)

/-- A command that reads. -/
def answers (response : Bytes) : Effect := ⟨.success, some response, d⟩

/-- A command that changed the device to `d`. -/
def succeeds : Effect := ⟨.success, none, d⟩

/-- A command that changes nothing. -/
def refuses (status : Status) : Effect := ⟨status, none, d⟩

/-- Whether a range lies in the label area. -/
def holdsRange (offset n : Nat) : Bool := offset + n ≤ d.labels.length

def readLabels (input : Bytes) : Effect :=
  if input.length ≠ 8 then d.refuses .invalidPayloadLength
  else
    let offset := fromLittleEndian (input.take 4)
    let n := fromLittleEndian (input.drop 4)
    if d.holdsRange offset n then d.answers (Bytes.slice d.labels offset n)
    else d.refuses .invalidInput

def writeLabels (input : Bytes) : Effect :=
  if input.length < 8 then d.refuses .invalidPayloadLength
  else
    let offset := fromLittleEndian (input.take 4)
    let data := input.drop 8
    if d.holdsRange offset data.length then
      succeeds { d with labels := Bytes.splice d.labels offset data }
    else d.refuses .invalidInput

def changeAlert (input : Bytes) : Effect :=
  match AlertRequest.decode input with
  | .error _ => d.refuses .invalidPayloadLength
  | .ok request =>
    if covers d.alert.programmableAlerts request.validActions then
      succeeds { d with alert := d.alert.apply request }
    else d.refuses .invalidInput

/-- The opcodes that the Command Effects Log lists, with their effects. -/
def effects : List EffectsEntry :=
  [⟨0x0102, 0⟩, ⟨0x0103, 1⟩, ⟨0x0200, 0⟩, ⟨0x0300, 0⟩, ⟨0x0301, 1⟩, ⟨0x0400, 0⟩, ⟨0x0401, 0⟩,
    ⟨0x4000, 0⟩, ⟨0x4102, 0⟩, ⟨0x4103, 1⟩, ⟨0x4200, 0⟩, ⟨0x4201, 0⟩, ⟨0x4202, 1⟩]

/-- The bytes of the Command Effects Log. -/
def effectsBytes : Bytes := EffectsEntry.encodeLog effects

def readLog (input : Bytes) : Effect :=
  match LogRequest.decode input with
  | .error _ => d.refuses .invalidPayloadLength
  | .ok request =>
    if request.uuid = Uuid.effectsLog then
      d.answers (Bytes.slice effectsBytes request.offset.toNat request.length.toNat)
    else d.refuses .invalidInput

def changeEventPolicy (input : Bytes) : Effect :=
  match EventPolicy.decode input with
  | .error _ => d.refuses .invalidPayloadLength
  | .ok policy => succeeds { d with eventPolicy := policy }

def changeTimestamp (input : Bytes) : Effect :=
  if input.length ≠ 8 then d.refuses .invalidPayloadLength
  else succeeds { d with timestamp := UInt64.ofNat (fromLittleEndian input) }

/-- Starts a background operation, unless one is running. -/
def startBackground (opcode : UInt16) : Effect :=
  if d.background.running then d.refuses .busy
  else ⟨.backgroundStarted, none, { d with background := .started opcode }⟩

/-- Executes a raw command. -/
def executeRaw (opcode : UInt16) (input : Bytes) : Effect :=
  if opcode = Opcode.getEventPolicy then d.answers d.eventPolicy.encode
  else if opcode = Opcode.setEventPolicy then d.changeEventPolicy input
  else if opcode = Opcode.getFirmwareInfo then d.answers d.firmware.encode
  else if opcode = Opcode.getTimestamp then d.answers (le64 d.timestamp)
  else if opcode = Opcode.setTimestamp then d.changeTimestamp input
  else if opcode = Opcode.backgroundStatus then d.answers (le64 d.background.toWord)
  else if opcode = Opcode.transferFirmware ∨ opcode = Opcode.activateFirmware then
    d.startBackground opcode
  else d.refuses .unsupported

/-- Executes a command. -/
def execute (id : UInt32) (opcode : UInt16) (input : Bytes) : Effect :=
  if id = CommandId.identify then d.answers d.identify.encode
  else if id = CommandId.getHealthInfo then d.answers d.health.encode
  else if id = CommandId.getAlertConfig then d.answers d.alert.encode
  else if id = CommandId.setAlertConfig then d.changeAlert input
  else if id = CommandId.getLabels then d.readLabels input
  else if id = CommandId.setLabels then d.writeLabels input
  else if id = CommandId.getSupportedLogs then
    d.answers (SupportedLog.encodeList
      [⟨Uuid.effectsLog, UInt32.ofNat (effects.length * 4)⟩])
  else if id = CommandId.getLog then d.readLog input
  else if id = CommandId.raw then d.executeRaw opcode input
  else d.refuses .unsupported

/-! ## The driver in front of the device -/

/-- Why the driver refuses a send. -/
def driverFault? (request : SendRequest) : Option String :=
  match d.config.catalog.find? fun entry => entry.id == request.id with
  | none => some "command not in catalog"
  | some entry =>
    if 0 ≤ entry.sizeIn.toInt ∧ (request.input.length : Int) ≠ entry.sizeIn.toInt then
      some "input size does not match declared size"
    else if 0 ≤ entry.sizeOut.toInt ∧ (request.output.length : Int) < entry.sizeOut.toInt then
      some "output buffer smaller than declared size"
    else if request.id = CommandId.raw ∧ request.rawOpcode = 0 then some "raw opcode 0"
    else none

/-- How a send ends: what is reported, what was written, the device afterwards and the status of
the executed command. -/
structure Delivery where
  receipt : Receipt
  written : Bytes
  device : EmulatedDevice
  executed : Option Status

/-- How much of a response is delivered. -/
def limited (response : Bytes) : Bytes :=
  match d.outputLimit with
  | some limit => response.take limit.toNat
  | none => response

/-- Carries out a send that the driver let through. A response that does not fit the output
buffer is not delivered, and the output size then stays as it was on entry. -/
def deliver (request : SendRequest) : Delivery :=
  match d.forcedStatus with
  | some word => ⟨⟨0, word⟩, [], d, none⟩
  | none =>
    let effect := d.execute request.id request.rawOpcode request.input
    match effect.response with
    | none => ⟨⟨0, effect.status.toWord⟩, [], effect.device, some effect.status⟩
    | some response =>
      if request.output.length < response.length then
        ⟨⟨request.outSize, Status.invalidPayloadLength.toWord⟩, [], effect.device,
          some .invalidPayloadLength⟩
      else
        let delivered := effect.device.limited response
        ⟨⟨UInt32.ofNat delivered.length, effect.status.toWord⟩, delivered, effect.device,
          some effect.status⟩

/-- Answers a send. -/
def send (info : DeviceInfo) (request : SendRequest) : SendReply EmulatedDevice :=
  let d := { d with sendCalls := d.sendCalls + 1 }
  match d.driverFault? request with
  | some reason => { verdict := .error (.transport info.nodePath reason), device := d }
  | none =>
    let delivery := d.deliver request
    { verdict := .ok delivery.receipt
      written := delivery.written
      device := delivery.device
      log := match delivery.executed with
        | none => []
        | some status =>
          [⟨.debug, s!"{d.config.name}: emulated id {request.id} opcode " ++
            s!"{Text.hexNumeral 4 request.rawOpcode.toNat}: status {status.code}"⟩] }

/-- Answers a catalog query: without room, the number of entries, else as many entries as there
is room for. -/
def query (buffer : QueryBuffer) : QueryReply EmulatedDevice :=
  let d := { d with queryCalls := d.queryCalls + 1 }
  if buffer.requested = 0 then
    { verdict := .ok (UInt32.ofNat d.config.catalog.length), device := d }
  else
    { verdict := .ok buffer.count, written := d.config.catalog.take buffer.requested, device := d }

end EmulatedDevice

end CxlMailbox
