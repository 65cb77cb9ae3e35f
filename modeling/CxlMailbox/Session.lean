/-
# CxlMailbox.Session — driving a command

A `Session` is a command together with the world it works in. The operations of a command are
given twice: as functions of the session, and as data, `Operation`, which `Operation.perform`
carries out, so that a history of a command is a list of operations (`Operation.performAll`).

A session asks the backend in two places only. `query` fetches the catalog in two rounds, the
first for the number of entries and the second for the entries; `submit` sends the command once.
-/
import CxlMailbox.Command

namespace CxlMailbox

set_option autoImplicit false

/-- A command at work. -/
structure Session (δ : Type) where
  command : Command
  world : World δ

/-- A step of a session, which answers or fails. -/
abbrev Drive (δ α : Type) := ExceptT Error (StateM (Session δ)) α

namespace Session

variable {δ : Type}

/-- An effect on the world, the command untouched. -/
def inWorld {α : Type} (effect : StateM (World δ) α) : Drive δ α := fun s =>
  let (answer, world) := effect s.world
  (.ok answer, { s with world })

/-- A step of the command alone. -/
def inCommand {α : Type} (step : Command → Except Error α × Command) : Drive δ α := fun s =>
  let (answer, command) := step s.command
  (answer, { s with command })

/-- Logs a line. -/
def log (level : Level) (message : String) : Drive δ Unit := inWorld (note level message)

/-- The command as it is. -/
def current : Drive δ Command := return (← getThe (Session δ)).command

/-- Carries out a step and logs its failure, if it fails, behind a heading. -/
def reporting {α : Type} (heading : String) (step : Drive δ α) : Drive δ α :=
  tryCatch step fun e => do
    log .error s!"{heading} failed: {e.message}"
    throw e

/-! ## Catalog and resolution -/

/-- One catalog query with room for `count` entries. -/
def queryRound (backend : Backend δ) (count : UInt32) : Drive δ QueryBuffer := do
  let c ← current
  reporting s!"{c.device.name}: query commands" do
    match ← inWorld (backend.runQuery c.device (.withCapacity count)) with
    | (.ok (), buffer) => return buffer
    | (.error e, _) => throw e

/-- Fetches the catalog, unless the command is resolved or has it already. -/
def query (backend : Backend δ) : Drive δ Unit := do
  let c ← current
  match c.queryVerdict? with
  | some (.ok ()) => return
  | some (.error e) => throw e
  | none =>
    let first ← queryRound backend 0
    log .debug s!"{c.device.name}: device supports {first.count} commands"
    let second ← queryRound backend first.count
    inCommand fun c => (.ok (), c.receiveCatalog second.reported)

/-- The line that tells what a look-up of `id` found. -/
def resolutionLine (c : Command) (id : UInt32) : String :=
  match c.entries.find? fun entry => entry.id == id with
  | some entry =>
    s!"{c.device.name}: {CommandId.name id}: in: {entry.sizeIn}, out: {entry.sizeOut}, " ++
      s!"flags: {Text.hexNumeral 1 entry.flags.toNat}"
  | none => s!"{c.device.name}: {CommandId.name id} not in catalog"

/-- Looks an id up in the catalog. -/
def validate (id : UInt32) : Drive δ Unit := do
  let c ← current
  if c.resolution = .notRun ∧ c.catalog.isSome then log .debug (resolutionLine c id)
  inCommand (·.validate id)

/-- Makes payloads of the declared sizes. -/
def allocSend (id : UInt32) : Drive δ Unit := inCommand (·.allocSend id)

/-- Replaces the input. -/
def setInput (buffer? : Option Bytes) (size : Int) : Drive δ Unit :=
  inCommand (·.setInput buffer? size)

/-- Replaces the output. -/
def setOutput (buffer? : Option Bytes) (size : Int) : Drive δ Unit :=
  inCommand (·.setOutput buffer? size)

/-- Writes to the front of the input. -/
def writeInput (data : Bytes) : Drive δ Nat := inCommand (·.writeInput data)

/-! ## Sending -/

/-- Sends the command. The answer is the device's status, whatever it is; a send that does not
reach the device leaves the status as it was. -/
def submit (backend : Backend δ) : Drive δ Status := do
  let c ← current
  match c.sendFault? with
  | some e => throw e
  | none =>
    let receipt ← reporting s!"{c.device.name}: {CommandId.name c.id}" do
      let (verdict, output) ← inWorld (backend.runSend c.device c.request)
      inCommand fun c => (verdict, c.withOutput output)
    inCommand fun c => (.ok (), c.completeSend receipt)
    let sent ← current
    let status := Status.ofWord receipt.returnWord
    log .debug (s!"{c.device.name}: {CommandId.name c.id} " ++
      s!"(opcode {Text.hexNumeral 4 c.rawOpcode.toNat}): in: {c.input.bytes.length}, " ++
      s!"out: {sent.outSize}, retval: {status.code}")
    return status

/-! ## Whole commands -/

/-- Queries, validates and allocates: a command for `id`, ready to be sent. -/
def prepare (backend : Backend δ) (id : UInt32) : Drive δ Unit := do
  query backend
  validate id
  allocSend id

/-- The same for a mailbox opcode. Opcode 0 is refused before the device is asked. -/
def prepareRaw (backend : Backend δ) (opcode : UInt16) : Drive δ Unit := do
  if opcode = 0 then throw .reservedOpcode
  prepare backend CommandId.raw
  inCommand fun c => (.ok (), { c with rawOpcode := opcode })

/-- Gives the command its input, if there is one, and sends it. The answer is the way the
command ended; a failure status is logged. -/
def run (backend : Backend δ) (input : Bytes) : Drive δ Completion := do
  if !input.isEmpty then
    setInput none input.length
    let _ ← writeInput input
  let status ← submit backend
  if status.isFailure then
    log .error s!"{(← current).device.name}: firmware status: {status.text}"
  status.completion

/-- The final output of the command with the id. -/
def outputFor (id : UInt32) : Drive δ Bytes := do (← current).outputFor id

/-- The final output of the raw command with the opcode. -/
def rawOutputFor (opcode : UInt16) : Drive δ Bytes := do (← current).rawOutputFor opcode

end Session

/-- Drives a new command of a device. The answer comes with the command as it is left. -/
def Drive.onDevice {δ α : Type} (drive : Drive δ α) (info : DeviceInfo) :
    StateM (World δ) (Except Error α × Command) := fun world =>
  let (answer, session) := drive ⟨.unvalidated info, world⟩
  ((answer, session.command), session.world)

/-- Drives a new command of a device and drops it. -/
def Drive.once {δ α : Type} (drive : Drive δ α) (info : DeviceInfo) : Task δ Error α := do
  let (answer, _) ← drive.onDevice info
  answer

/-! ## Operations as data -/

/-- An operation on a command. -/
inductive Operation where
  | query
  | validate (id : UInt32)
  | allocSend (id : UInt32)
  | setInput (buffer? : Option Bytes) (size : Int)
  | setOutput (buffer? : Option Bytes) (size : Int)
  | writeInput (data : Bytes)
  | submit
  deriving DecidableEq, Repr

/-- What an operation answers. -/
inductive Answer where
  | done
  /-- So many bytes were written. -/
  | wrote (count : Nat)
  /-- The device returned the status. -/
  | returned (status : Status)
  deriving DecidableEq, Repr

namespace Operation

variable {δ : Type}

/-- Carries an operation out. -/
def perform (backend : Backend δ) : Operation → Drive δ Answer
  | query => do Session.query backend; return .done
  | validate id => do Session.validate id; return .done
  | allocSend id => do Session.allocSend id; return .done
  | setInput buffer? size => do Session.setInput buffer? size; return .done
  | setOutput buffer? size => do Session.setOutput buffer? size; return .done
  | writeInput data => return .wrote (← Session.writeInput data)
  | submit => return .returned (← Session.submit backend)

/-- The session after operations, whether each of them succeeds or not. -/
def performAll (backend : Backend δ) (ops : List Operation) (session : Session δ) : Session δ :=
  ops.foldl (fun s op => ((op.perform backend) s).2) session

end Operation

end CxlMailbox
