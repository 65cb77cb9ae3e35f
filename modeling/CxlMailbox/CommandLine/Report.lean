/-
# CxlMailbox.CommandLine.Report — carrying commands out

Each command asks the device and prints what it answered, a line at a time. What was printed
before a failure stays printed: health information, for one, is shown before the alert
configuration is asked for. Alerts and event settings are left out where the device does not
support them.
-/
import CxlMailbox.CommandLine.Failure
import CxlMailbox.CommandLine.Listing
import CxlMailbox.CommandLine.Request
import CxlMailbox.Inquiry
import CxlMailbox.Labels
import CxlMailbox.Registry

namespace CxlMailbox.CommandLine

set_option autoImplicit false

namespace Report

variable {δ : Type}

/-- A mailbox operation as part of a command. -/
def ask {α : Type} (task : Task δ Error α) : Task δ Failure α := task.adapt .mailbox

/-- Prints one line for a field of a device. -/
def field (label value : String) : Task δ Failure Unit :=
  Task.print ("  " ++ Text.padRight 21 (label ++ ":") ++ value)

/-- Prints a heading. -/
def heading (info : DeviceInfo) : Task δ Failure Unit := Task.print s!"{info.name}:"

/-- Prints bytes as a dump. -/
def dump (data : Bytes) (base : UInt32) : Task δ Failure Unit :=
  (Text.dump data base).forM Task.print

section

variable (backend : Backend δ) (info : DeviceInfo)

/-- Prints what the device says of itself. -/
def identify : Task δ Failure Unit := do
  let id ← ask (Inquiry.identify backend info)
  let capacity (units : UInt64) : String := sizeText (Identify.inBytes units).toNat
  heading info
  field "Firmware revision" id.firmwareRevision.text
  field "Total capacity" (capacity id.totalCapacity)
  field "Volatile capacity" (capacity id.volatileCapacity)
  field "Persistent capacity" (capacity id.persistentCapacity)
  field "Partition alignment" (capacity id.partitionAlign)
  field "Event log sizes" (s!"info {id.infoLogSize}, warning {id.warningLogSize}, " ++
    s!"failure {id.failureLogSize}, fatal {id.fatalLogSize}")
  field "Label storage size" (sizeText id.labelAreaSize.toNat)
  field "Poison list max" (toString id.poisonListMax)
  field "Inject poison limit" (toString id.injectPoisonLimit)

/-! ## Health -/

/-- A value that the device may not measure. -/
def measured {α : Type} [ToString α] (value? : Option α) (unit : String) : String :=
  match value? with
  | some value => s!"{value}{unit}"
  | none => "not implemented"

/-- A warning and a critical threshold. -/
def thresholds {α : Type} [ToString α] (warn critical : α) (unit : String) : String :=
  s!"warn {warn}{unit}, critical {critical}{unit}"

/-- Prints what follows from the answer of an optional command; one the device does not support
is only logged. -/
def optional {α : Type} (absence : String) (task : Task δ Error α)
    (show? : α → Task δ Failure Unit) : Task δ Failure Unit := do
  match ← ExceptT.lift task.run with
  | .ok answer => show? answer
  | .error (.unsupported _) => Task.log .debug absence
  | .error e => throw (.mailbox e)

/-- Prints the alert configuration. -/
def alerts (config : AlertConfig) : Task δ Failure Unit := do
  field "Alerts valid" (alertFlags.text config.validAlerts.toNat)
  field "Alerts programmable" (alertFlags.text config.programmableAlerts.toNat)
  field "Life used" (thresholds config.lifeUsedWarning config.lifeUsedCritical "%")
  field "Over temperature" (thresholds config.overTemperatureWarning.toInt16
    config.overTemperatureCritical.toInt16 " C")
  field "Under temperature" (thresholds config.underTemperatureWarning.toInt16
    config.underTemperatureCritical.toInt16 " C")

/-- Prints how each event log interrupts. -/
def events (policy : EventPolicy) : Task δ Failure Unit :=
  [("info", policy.info), ("warning", policy.warning), ("failure", policy.failure),
    ("fatal", policy.fatal)].forM fun entry =>
    Task.print (s!"  Event {Text.padRight 8 entry.1}        " ++
      s!"{(InterruptMode.ofSettings entry.2).name} (vector {eventVector entry.2})")

/-- Prints health, alert configuration and event settings. -/
def health : Task δ Failure Unit := do
  let answer ← ask (Inquiry.health backend info)
  heading info
  field "Health status" (healthFlags.text (healthFlags.truncate answer.healthStatus.toNat))
  field "Media status" answer.media.name
  field "Life used" (measured answer.lifeUsedPercent? "%")
  field "Temperature" (measured answer.celsius? " C")
  field "Dirty shutdowns" (toString answer.dirtyShutdowns)
  field "Volatile errors" (toString answer.volatileErrors)
  field "Persistent errors" (toString answer.persistentErrors)
  optional "alert configuration unsupported" (Inquiry.alertConfig backend info) alerts
  optional "raw commands unsupported" (Inquiry.eventPolicy backend info) events

/-! ## Clock, firmware, background, logs -/

/-- Prints the device's clock. -/
def getTimestamp : Task δ Failure Unit := do
  let time ← ask (Inquiry.timestamp backend info)
  Task.print s!"{info.name}: {time} ns"

/-- Sets the device's clock. -/
def setTimestamp (time : UInt64) : Task δ Failure Unit := do
  match ← ask (Inquiry.setTimestamp backend info time) with
  | .complete => Task.log .info s!"{info.name}: set timestamp complete"
  | .backgroundStarted =>
    Task.print s!"{info.name}: set timestamp started in the background"
  Task.print s!"{info.name}: timestamp set to {time} ns"

/-- Prints the firmware slots, as many as the payload has room for. -/
def firmwareInfo : Task δ Failure Unit := do
  let answer ← ask (Inquiry.firmwareInfo backend info)
  heading info
  field "Slots supported" (toString answer.slotsSupported)
  field "Active slot" (toString answer.activeSlot)
  field "Staged slot" (if answer.stagedSlot = 0 then "none" else toString answer.stagedSlot)
  field "Online activation" (if answer.onlineActivation then "yes" else "no")
  (List.range' 1 (min answer.slotsSupported.toNat FirmwareInfo.slots)).forM fun slot =>
    field s!"Slot {slot} revision" ((answer.revision? slot).getD "")

/-- Prints the background status, with the result of an operation that has ended. -/
def backgroundStatus : Task δ Failure Unit := do
  let status ← ask (Inquiry.backgroundStatus backend info)
  Task.print s!"{info.name}: {status.text}"
  if !status.running && status.opcode != 0 then
    Task.print s!"  Last result: {status.returnCode.text}"

/-- Prints the logs of the device, and the Command Effects Log where it is asked for. -/
def supportedLogs (withEffects : Bool) : Task δ Failure Unit := do
  let logs ← ask (Inquiry.supportedLogs backend info)
  Task.print s!"{info.name}: {logs.length} supported logs"
  logs.forM fun log =>
    let tag := if log.isEffectsLog then " (CEL)" else ""
    Task.print s!"  {log.uuid.text} {log.size} bytes{tag}"
  if withEffects then
    let entries ← ask (Inquiry.effectsLog backend info)
    Task.print ""
    Task.print "Opcode   Effect"
    entries.forM fun entry =>
      Task.print (s!"{Text.hexNumeral 4 entry.opcode.toNat}   " ++
        s!"{Text.hexNumeral 4 entry.effect.toNat}")

/-! ## Labels -/

/-- How many bytes a label range covers. -/
def rangeLength (offset length : UInt32) : Nat :=
  if length = 0 then info.labelAreaSize.toNat - offset.toNat else length.toNat

/-- Writes a file of the host. -/
def writeFile (path : String) (content : Bytes) : Task δ Failure Unit := do
  let world ← getThe (World δ)
  match world.files.write path content with
  | .ok files => set { world with files }
  | .error fault => throw (.file fault)

/-- Reads a file of the host. -/
def readFile (path : String) : Task δ Failure Bytes := do
  match (← getThe (World δ)).files.read path with
  | .ok content => return content
  | .error fault => throw (.file fault)

/-- The bytes of a label range, read into a buffer that is made as long. -/
def labelBytes (offset length : UInt32) : Task δ Error Bytes := do
  match Labels.resolveLength info offset length with
  -- the read would say the same, but a range beyond the area may be too long for a buffer
  | .error fault => throw (.invalidArgument fault)
  | .ok _ =>
    let buffer := Bytes.zeros (rangeLength info offset length)
    let (answer, data) ← Labels.read backend info buffer offset length
    match answer with
    | .error e => throw e
    | .ok () => return data

/-- Reads a label range into a file, or prints it as a dump. -/
def readLabels (output? : Option String) (offset length : UInt32) : Task δ Failure Unit := do
  let data ← ask (labelBytes backend info offset length)
  match output? with
  | none => dump data offset
  | some path =>
    writeFile path data
    Task.print s!"{info.name}: read {data.length} label bytes to {path}"

/-- Writes the content of a file to the label area. An empty file is not written. -/
def writeLabels (input : String) (offset : UInt32) : Task δ Failure Unit := do
  let data ← readFile input
  if data.isEmpty then Task.log .warn s!"{input}: nothing to write"
  else if UInt32.size ≤ data.length then throw (.payloadTooLarge data.length)
  else
    ask (Labels.write backend info data offset (UInt32.ofNat data.length))
    Task.print (s!"{info.name}: wrote {data.length} label bytes at offset " ++
      s!"{Text.hexNumeral 1 offset.toNat}")

/-- Zeroes a label range. -/
def zeroLabels (offset length : UInt32) : Task δ Failure Unit := do
  ask (Labels.zero backend info offset length)
  Task.print (s!"{info.name}: zeroed {rangeLength info offset length} label bytes at offset " ++
    s!"{Text.hexNumeral 1 offset.toNat}")

/-! ## Raw commands -/

/-- The bytes of an input text; without a text there are none. -/
def readInput (input? : Option String) : Except Failure Bytes :=
  match input? with
  | none => .ok []
  | some text => (Text.readBytes text).mapError (.hexPayload text)

/-- A raw command, prepared and sent. The command comes back with the status. -/
def sendRaw (opcode : UInt16) (input : Bytes) (outputSize? : Option UInt32) :
    Drive δ (Status × Command) := do
  Session.prepareRaw backend opcode
  if !input.isEmpty then Session.setInput (some input) input.length
  match outputSize? with
  | some size => Session.setOutput none size.toNat
  | none => pure ()
  let status ← Session.submit backend
  return (status, ← Session.current)

/-- Sends a raw command, prints its status and dumps the output of one that did not fail. -/
def raw (opcode : UInt16) (input? : Option String) (outputSize? : Option UInt32) :
    Task δ Failure Unit := do
  let input ← readInput input?
  let (status, command) ← ask ((sendRaw backend opcode input outputSize?).once info)
  Task.print s!"{info.name}: opcode {Text.hexNumeral 4 opcode.toNat}: status {status.text}"
  if !status.isFailure && 0 < command.outSize then dump command.result 0

/-- Carries out an operation on the device; `now` is the host's clock. -/
def perform (now : UInt64) : DeviceRequest → Task δ Failure Unit
  | .readLabels output? offset length => readLabels backend info output? offset length
  | .writeLabels input offset => writeLabels backend info input offset
  | .zeroLabels offset length => zeroLabels backend info offset length
  | .identify => identify backend info
  | .health => health backend info
  | .getTimestamp => getTimestamp backend info
  | .setTimestamp time? => setTimestamp backend info (time?.getD now)
  | .firmwareInfo => firmwareInfo backend info
  | .backgroundStatus => backgroundStatus backend info
  | .supportedLogs withEffects => supportedLogs backend info withEffects
  | .raw opcode input? outputSize? => raw backend info opcode input? outputSize?

end

/-- Prints the list of devices. -/
def list (asJson : Bool) (devices : List DeviceInfo) : Task δ Failure Unit :=
  if asJson then Task.print (Listing.json devices) else (Listing.table devices).forM Task.print

/-- The device that a name or number stands for. -/
def findDevice (devices : List DeviceInfo) (name : String) : Except Failure DeviceInfo :=
  match Registry.find? devices name with
  | some info => .ok info
  | none => .error (.deviceNotFound name)

end Report

end CxlMailbox.CommandLine
