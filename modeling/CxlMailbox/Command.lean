/-
# CxlMailbox.Command — one mailbox command and its life

A command belongs to one device. It is resolved against the device's catalog exactly once: from
`notRun` it becomes `found` or `unsupported`, and stays so. A resolved command has an input and
an output payload, either its own or lent by the caller, and after a send the status the device
returned.

This module is the pure part: each operation maps a command to an answer and the command
afterwards, which is there after a failure, too. What the device and its driver contribute
arrives as arguments (`receiveCatalog`, `completeSend`).
-/
import CxlMailbox.Backend

namespace CxlMailbox

set_option autoImplicit false

/-- How far a command is resolved. -/
inductive Resolution where
  /-- Its id was not looked up yet. -/
  | notRun
  /-- Its id belongs to an entry of the catalog. -/
  | found
  /-- The catalog has no entry with its id. -/
  | unsupported
  deriving DecidableEq, Repr

/-- The name of a resolution. -/
def Resolution.name : Resolution → String
  | notRun => "NotRun"
  | found => "Ok"
  | unsupported => "Unsupported"

/-- The bytes that go to or come from the device. -/
inductive Payload where
  | absent
  /-- A buffer of the command's own. -/
  | owned (bytes : Bytes)
  /-- The first bytes of a buffer of the caller; `rest` are those behind them. -/
  | lent (window rest : Bytes)
  deriving DecidableEq, Repr

namespace Payload

def bytes : Payload → Bytes
  | absent => []
  | owned bytes => bytes
  | lent window _ => window

/-- The payload with other content of the same length. -/
def withBytes (payload : Payload) (content : Bytes) : Payload :=
  match payload with
  | absent => absent
  | owned bytes => owned (overlay content bytes)
  | lent window rest => lent (overlay content window) rest

@[simp] theorem length_bytes_withBytes (payload : Payload) (content : Bytes) :
    (payload.withBytes content).bytes.length = payload.bytes.length := by
  cases payload <;> simp [withBytes, bytes]

/-- The whole buffer of the caller, if one is lent. -/
def lender? : Payload → Option Bytes
  | lent window rest => some (window ++ rest)
  | _ => none

/-- A payload of `n` bytes: zeros, or the front of a buffer that has them. -/
def make (n : Nat) : Option Bytes → Payload
  | none => owned (Bytes.zeros n)
  | some buffer => lent (buffer.take n) (buffer.drop n)

end Payload

structure Command where
  device : DeviceInfo
  resolution : Resolution := .notRun
  /-- The device's catalog, once it was fetched. -/
  catalog : Option (List CatalogEntry) := none
  /-- The place of its entry in the catalog, once it was found. -/
  index? : Option Nat := none
  id : UInt32 := CommandId.invalid
  /-- The mailbox opcode of a raw command. -/
  rawOpcode : UInt16 := 0
  input : Payload := .absent
  output : Payload := .absent
  /-- The output size agreed on, and after a send the one reported. -/
  outSize : Nat := 0
  /-- The status of the last send that reached the device. -/
  status : Option Status := none
  deriving DecidableEq, Repr

namespace Command

/-- A command of which nothing is settled yet. -/
def unvalidated (device : DeviceInfo) : Command := { device }

/-- The catalog, empty before it was fetched. -/
def entries (c : Command) : List CatalogEntry := c.catalog.getD []

/-- The catalog entry the command was resolved to. -/
def entry? (c : Command) : Option CatalogEntry := do
  let index ← c.index?
  c.entries[index]?

/-! ## Resolution -/

/-- Why a catalog query is refused or needless; `none` if it has to be sent. -/
def queryVerdict? (c : Command) : Option (Except Error Unit) :=
  match c.resolution with
  | .found => some (.ok ())
  | .unsupported => some (.error (.unsupported c.id))
  | .notRun => if c.catalog.isSome then some (.ok ()) else none

/-- The command with the catalog that a query brought. -/
def receiveCatalog (c : Command) (catalog : List CatalogEntry) : Command :=
  { c with catalog := some catalog }

/-- Looks an id up in the catalog. Only a command that is not resolved yet changes. -/
def validate (c : Command) (id : UInt32) : Except Error Unit × Command :=
  match c.resolution with
  | .unsupported => (.error (.unsupported c.id), c)
  | .found =>
    if id = c.id then (.ok (), c) else (.error (.invalidState .alreadyValidated), c)
  | .notRun =>
    match c.catalog with
    | none => (.error (.invalidState .catalogNotQueried), c)
    | some catalog =>
      match catalog.findIdx? fun entry => entry.id == id with
      | some index => (.ok (), { c with id, resolution := .found, index? := some index })
      | none =>
        (.error (.unsupported id), { c with id, resolution := .unsupported, index? := none })

/-! ## Payloads -/

/-- A payload size the device accepts, as a number of bytes. -/
def checkSize (c : Command) (size : Int) : Except Error Nat :=
  if size < 0 ∨ (c.device.payloadMax.toNat : Int) < size then
    .error (.payloadSize size c.device.payloadMax)
  else .ok size.toNat

/-- The output size that a declared size stands for. -/
def declaredOutput (c : Command) (entry : CatalogEntry) : Int :=
  if entry.sizeOut < 0 then c.device.payloadMax.toNat else entry.sizeOut.toInt

/-- The command with an input of the declared size. -/
def allocInput (c : Command) (entry : CatalogEntry) : Except Error Unit × Command :=
  if 0 < entry.sizeIn then
    match c.checkSize entry.sizeIn.toInt with
    | .ok n => (.ok (), { c with input := .make n none })
    | .error e => (.error e, c)
  else (.ok (), c)

/-- The command with an output of the declared size. -/
def allocOutput (c : Command) (entry : CatalogEntry) : Except Error Unit × Command :=
  if 0 < c.declaredOutput entry then
    match c.checkSize (c.declaredOutput entry) with
    | .ok n => (.ok (), { c with output := .make n none, outSize := n })
    | .error e => (.error e, c)
  else (.ok (), c)

/-- Payloads of the sizes that the catalog declares for `id`: the input first, then the output.
A declared size of zero leaves a payload as it is. -/
def allocSend (c : Command) (id : UInt32) : Except Error Unit × Command :=
  match c.entry? with
  | none => (.error (.invalidState .notValidated), c)
  | some entry =>
    if entry.id ≠ id then (.error (.commandMismatch id entry.id), c)
    else match c.allocInput entry with
      | (.error e, c) => (.error e, c)
      | (.ok (), c) => c.allocOutput entry

/-- A payload of a size of the caller's choice, in the caller's buffer if there is one. -/
def checkPayload (c : Command) (direction : Direction) (buffer? : Option Bytes) (size : Int) :
    Except Error (Nat × Payload) :=
  match c.checkSize size with
  | .error e => .error e
  | .ok n =>
    match buffer? with
    | none => .ok (n, .make n none)
    | some buffer =>
      if n ≤ buffer.length then .ok (n, .make n (some buffer))
      else .error (.invalidArgument (.shortPayloadBuffer direction buffer.length n))

/-- Replaces the input. -/
def setInput (c : Command) (buffer? : Option Bytes) (size : Int) : Except Error Unit × Command :=
  match c.checkPayload .input buffer? size with
  | .ok (_, payload) => (.ok (), { c with input := payload })
  | .error e => (.error e, c)

/-- Replaces the output; the output size becomes that of the payload. -/
def setOutput (c : Command) (buffer? : Option Bytes) (size : Int) : Except Error Unit × Command :=
  match c.checkPayload .output buffer? size with
  | .ok (n, payload) => (.ok (), { c with output := payload, outSize := n })
  | .error e => (.error e, c)

/-- Writes to the front of the input as much as fits, and says how much. A lent input cannot be
written. -/
def writeInput (c : Command) (data : Bytes) : Except Error Nat × Command :=
  match c.input with
  | .lent _ _ => (.error (.invalidState .inputLent), c)
  | payload =>
    (.ok (min data.length payload.bytes.length), { c with input := payload.withBytes data })

/-! ## Sending -/

/-- Why a send is refused; `none` if the command can be sent. -/
def sendFault? (c : Command) : Option Error :=
  match c.resolution with
  | .notRun => some (.invalidState .notValidated)
  | .unsupported => some (.unsupported c.id)
  | .found => none

/-- The command as the driver gets it. -/
def request (c : Command) : SendRequest :=
  .ofBuffers c.id c.rawOpcode c.input.bytes c.output.bytes

/-- The command after its output buffer was written. -/
def withOutput (c : Command) (content : Bytes) : Command :=
  { c with output := c.output.withBytes content }

/-- The command after the driver reported a send as done. -/
def completeSend (c : Command) (receipt : Receipt) : Command :=
  { c with
    outSize := min receipt.outSize.toNat c.output.bytes.length
    status := some (Status.ofWord receipt.returnWord) }

/-! ## Results -/

/-- The output, as much of it as the device reported. -/
def result (c : Command) : Bytes := c.output.bytes.take c.outSize

/-- The output, provided the device completed the command. -/
def finalResult (c : Command) : Except Error Bytes :=
  match c.status with
  | none => .error (.invalidState .notSubmitted)
  | some status =>
    match status.completion with
    | .error e => .error e
    | .ok .backgroundStarted => .error .backgroundStarted
    | .ok .complete => .ok c.result

/-- The final output of the command with the id. -/
def outputFor (c : Command) (id : UInt32) : Except Error Bytes :=
  if c.id ≠ id then .error (.commandMismatch id c.id) else c.finalResult

/-- The final output of the raw command with the opcode. -/
def rawOutputFor (c : Command) (opcode : UInt16) : Except Error Bytes :=
  if c.id ≠ CommandId.raw ∨ c.rawOpcode ≠ opcode then
    .error (.commandMismatch opcode.toUInt32 c.rawOpcode.toUInt32)
  else c.finalResult

end Command

end CxlMailbox
