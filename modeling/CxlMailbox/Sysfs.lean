/-
# CxlMailbox.Sysfs — memory devices of the host

The host publishes each memory device as a directory of attributes, `mem` and a number, beside a
character device of the same name. `discover` reads all of them, in the order of number and
name, and passes over those it cannot read; `probe` reads one, and fails at the first thing that
is wrong.

Before a request is sent, the node is opened and compared with the record. Then the request is put
into the words and buffers of the driver behind the node, which is a parameter: a `Driver` answers
in any way at all. `Driver.absent` is that of a host without such devices.
-/
import CxlMailbox.Backend
import CxlMailbox.Text.Blank

namespace CxlMailbox

set_option autoImplicit false

/-- Where the host keeps its devices. -/
structure SysfsRoots where
  /-- Directory of the attribute directories. -/
  attributes : String := "/sys/bus/cxl/devices"
  /-- Directory of the device nodes. -/
  nodes : String := "/dev/cxl"
  deriving DecidableEq, Repr

/-- Why a device of the host is not usable, or the host not searchable. -/
inductive SysfsError where
  | deviceNotFound (name : String)
  | attributeUnreadable (path reason : String)
  | attributeMalformed (path value : String)
  | nodeUnusable (path reason : String)
  | invalidParameter (parameter message : String)
  deriving DecidableEq, Repr

namespace SysfsError

def message : SysfsError → String
  | deviceNotFound name => s!"CXL memory device not found: {name}"
  | attributeUnreadable path reason => s!"Failed to read sysfs attribute '{path}': {reason}"
  | attributeMalformed path value => s!"Failed to parse sysfs attribute '{path}': {value}"
  | nodeUnusable path reason => s!"Failed to stat device node '{path}': {reason}"
  | invalidParameter parameter message => s!"Invalid parameter '{parameter}': {message}"

/-- As a failure of the backend. -/
def toError (e : SysfsError) : Error := .backend e.message

end SysfsError

namespace Sysfs

/-! ## Options -/

/-- Takes one setting into the roots. Settings with other keys have no effect. -/
def applyOption (roots : SysfsRoots) (key value : String) : Except SysfsError SysfsRoots :=
  if key = "sysfs" then
    if value.isEmpty then .error (.invalidParameter "sysfs" "path must not be empty")
    else .ok { roots with attributes := value }
  else if key = "dev" then
    if value.isEmpty then .error (.invalidParameter "dev" "path must not be empty")
    else .ok { roots with nodes := value }
  else .ok roots

/-- Takes settings in order into the standard roots; a later one wins. -/
def parseOptions {δ : Type} (options : List (String × String)) :
    Task δ SysfsError SysfsRoots :=
  options.foldlM (fun roots setting => do
    if setting.1 ≠ "sysfs" ∧ setting.1 ≠ "dev" then
      Task.log .warn s!"Unknown linux_cxl option: {setting.1}={setting.2}"
    applyOption roots setting.1 setting.2) {}

/-- The roots that settings choose, announced in the log. -/
def chooseRoots {δ : Type} (options : List (String × String)) : Task δ SysfsError SysfsRoots := do
  let roots ← parseOptions options
  Task.log .info s!"Using CXL sysfs root {roots.attributes} and device root {roots.nodes}"
  return roots

/-! ## Attributes -/

/-- The text of an attribute: its content up to the first character that is not printable
ASCII, without the blanks at the end. -/
def attributeText (content : List Char) : String :=
  String.ofList (Text.trimEnd (content.takeWhile fun c => 0x20 ≤ c.toNat && c.toNat ≤ 0x7e))

/-- The number of an attribute text below 2^64: hexadecimal behind `0x`, octal behind another
zero, else decimal. -/
def attributeNumber? (text : String) : Option Nat :=
  let number? (radix : Nat) (digits : List Char) : Option Nat :=
    (Text.readNumeral radix UInt64.size digits).toOption
  match text.toList with
  | '0' :: 'x' :: digits | '0' :: 'X' :: digits => number? 16 digits
  | '0' :: c :: digits => number? 8 (c :: digits)
  | digits => number? 10 digits

/-- Reads an attribute of a device as text. -/
def readText (files : FileTree) (dir leaf : String) : Except SysfsError String :=
  let path := joinPath dir leaf
  match files.readText path with
  | .ok content => .ok (attributeText content)
  | .error fault => .error (.attributeUnreadable path fault.message)

/-- Reads an attribute of a device as a 64-bit number. -/
def readNumber (files : FileTree) (dir leaf : String) : Except SysfsError UInt64 := do
  let text ← readText files dir leaf
  match attributeNumber? text with
  | some n => return UInt64.ofNat n
  | none => throw (.attributeMalformed (joinPath dir leaf) text)

/-- Reads an attribute of a device as a 32-bit number. -/
def readSmallNumber (files : FileTree) (dir leaf : String) : Except SysfsError UInt32 := do
  let n ← readNumber files dir leaf
  if n.toNat < UInt32.size then return n.toUInt32
  else throw (.attributeMalformed (joinPath dir leaf) (toString n))

/-! ## Discovery -/

/-- The number of a device name: `mem` and decimal digits, of a value below 2^32. -/
def deviceNumber? (name : String) : Option UInt32 :=
  match name.toList with
  | 'm' :: 'e' :: 'm' :: digits =>
    if digits.isEmpty || !digits.all Char.isDigit then none
    else (Text.readNumeral 10 UInt32.size digits).toOption.map UInt32.ofNat
  | _ => none

/-- Major and minor number of a character device. -/
def nodeNumbers (files : FileTree) (path : String) : Except SysfsError (UInt64 × UInt64) :=
  match files.lookup path with
  | .error fault => .error (.nodeUnusable path fault.message)
  | .ok (.device major minor) => .ok (major, minor)
  | .ok _ => .error (.nodeUnusable path FileFault.notCharacterDevice.message)

/-- Reads everything about one device. -/
def probe (roots : SysfsRoots) (files : FileTree) (name : String) :
    Except SysfsError DeviceInfo := do
  match deviceNumber? name with
  | none => throw (.deviceNotFound name)
  | some id =>
    let dir := joinPath roots.attributes name
    if !files.isDirectory dir then throw (.deviceNotFound s!"{name} ({dir})")
    let nodePath := joinPath roots.nodes name
    let (major, minor) ← nodeNumbers files nodePath
    return {
      id, name, major, minor
      persistentSize := ← readNumber files dir "pmem/size"
      volatileSize := ← readNumber files dir "ram/size"
      payloadMax := ← readSmallNumber files dir "payload_max"
      labelAreaSize := ← readSmallNumber files dir "label_storage_size"
      firmwareVersion := ← readText files dir "firmware_version"
      attributePath := dir
      nodePath }

/-- What is logged about a device that was found. -/
def foundLine (info : DeviceInfo) : LogLine :=
  ⟨.debug, s!"{info.name}: node {info.major}:{info.minor}, firmware '{info.firmwareVersion}'"⟩

/-- Reads everything about one device, and logs that it was found. -/
def inspect {δ : Type} (roots : SysfsRoots) (name : String) : Task δ SysfsError DeviceInfo := do
  let info ← probe roots (← getThe (World δ)).files name
  Task.log .debug (foundLine info).message
  return info

/-- What is logged about reading a device. -/
def probeLine (name : String) : Except SysfsError DeviceInfo → LogLine
  | .ok info => foundLine info
  | .error e => ⟨.warn, s!"Skipping {name}: {e.message}"⟩

/-- Number and name of a device come in order. -/
def inOrder (a b : UInt32 × String) : Bool :=
  a.1 < b.1 || (a.1 == b.1 && (a.2 < b.2 || a.2 == b.2))

/-- The device names among the entries of a directory, in order. -/
def deviceNames (names : List String) : List String :=
  let numbered := names.filterMap fun name => (deviceNumber? name).map fun id => (id, name)
  (numbered.mergeSort inOrder).map (·.2)

/-- Reads every device of the host that can be read. -/
def discover (roots : SysfsRoots) (files : FileTree) : Discovery Unit :=
  match files.list roots.attributes with
  | .error fault =>
    { found := [], device := ()
      log := [⟨.warn, s!"Cannot read {roots.attributes}: {fault.message}"⟩] }
  | .ok names =>
    let ordered := deviceNames names
    { found := ordered.filterMap fun name => (probe roots files name).toOption
      device := ()
      log := ordered.map fun name => probeLine name (probe roots files name) }

/-! ## Requests -/

/-- What is logged about a node that is not the recorded device. -/
def mismatchLine (info : DeviceInfo) (isDevice : Bool) (major minor : UInt64) : LogLine :=
  ⟨.error, s!"{info.name}: {info.nodePath} is {major}:{minor} (char: {isDevice}), " ++
    s!"expected {info.major}:{info.minor}"⟩

/-- Opens a node and compares it with the record; a failure comes with the line that is logged
about it. -/
def openNode (files : FileTree) (info : DeviceInfo) : Except (Error × List LogLine) Unit :=
  match files.lookup info.nodePath with
  | .error fault => .error (.transport info.nodePath fault.message, [])
  | .ok .directory => .error (.transport info.nodePath FileFault.isDirectory.message, [])
  | .ok (.device major minor) =>
    if major = info.major ∧ minor = info.minor then .ok ()
    else .error (.deviceNodeInvalid info.nodePath, [mismatchLine info true major minor])
  | .ok _ => .error (.deviceNodeInvalid info.nodePath, [mismatchLine info false 0 0])

/-! ### The driver -/

/-- A send in the words and buffers of the driver. -/
structure DriverSend where
  id : UInt32
  rawOpcode : UInt16
  inSize : UInt32
  input : Bytes
  outSize : Int32
  /-- The output buffer as it is before the send. -/
  output : Bytes
  deriving DecidableEq, Repr

/-- The words that the driver leaves after a send. -/
structure DriverReceipt where
  outSize : Int32
  returnWord : UInt32
  deriving DecidableEq, Repr

/-- The driver's answer to a send; a refusal is told in words. -/
structure DriverReply (δ : Type) where
  verdict : Except String DriverReceipt
  /-- The bytes laid over the front of the output buffer, also by a send that is refused. -/
  written : Bytes := []
  device : δ

/-- The driver of the devices behind nodes, which are told apart by their numbers. -/
structure Driver (δ : Type) where
  /-- Answers a catalog query with words that are laid over the front of its buffer. -/
  queryCommands : (major minor : UInt64) → (buffer : List UInt32) → δ →
    Except String (List UInt32) × δ
  sendCommand : (major minor : UInt64) → DriverSend → δ → DriverReply δ

/-- How many words there are in front of the entries of a query: the count, and a reserved one. -/
def queryHeaderWords : Nat := 2

/-- How many words an entry takes. -/
def entryWords : Nat := 4

/-- The buffer of a query: how many entries are asked for, and room for as many. -/
def queryWords (buffer : QueryBuffer) : List UInt32 :=
  UInt32.ofNat buffer.requested :: 0 :: List.replicate (buffer.requested * entryWords) 0

/-- The entries in the words behind the header. -/
def entriesOf : List UInt32 → List CatalogEntry
  | id :: flags :: sizeIn :: sizeOut :: rest =>
    { id, flags, sizeIn := sizeIn.toInt32, sizeOut := sizeOut.toInt32 } :: entriesOf rest
  | _ => []

namespace Driver

variable {δ : Type}

/-- A host without devices that answer mailbox requests. -/
def absent : Driver Unit where
  queryCommands _ _ _ _ := (.error FileFault.noMailbox.message, ())
  sendCommand _ _ _ _ := { verdict := .error FileFault.noMailbox.message, device := () }

/-- Asks the driver for the catalog. -/
def query (driver : Driver δ) (info : DeviceInfo) (buffer : QueryBuffer) (device : δ) :
    QueryReply δ :=
  match driver.queryCommands info.major info.minor (queryWords buffer) device with
  | (.error reason, device) => { verdict := .error (.transport info.nodePath reason), device }
  | (.ok written, device) =>
    let words := overlay written (queryWords buffer)
    let count := words.headD 0
    { verdict := .ok count
      written := entriesOf (words.drop queryHeaderWords)
      device
      log := [⟨.debug, s!"{info.name}: query commands: n_commands {count}"⟩] }

/-- Hands a send to the driver, if the sizes of both payloads fit its words. A negative output size
counts as none. -/
def send (driver : Driver δ) (info : DeviceInfo) (request : SendRequest) (device : δ) :
    SendReply δ :=
  if UInt32.size ≤ request.input.length then
    { verdict := .error (.invalidArgument (.other "input payload too large")), device }
  else if 0x80000000 ≤ request.output.length then
    { verdict := .error (.invalidArgument (.other "output payload too large")), device }
  else
    let reply := driver.sendCommand info.major info.minor
      { id := request.id
        rawOpcode := request.rawOpcode
        inSize := UInt32.ofNat request.input.length
        input := request.input
        outSize := Int32.ofNat request.output.length
        output := request.output } device
    let verdict := match reply.verdict with
      | .ok receipt =>
        .ok { outSize := UInt32.ofNat receipt.outSize.toInt.toNat, returnWord := receipt.returnWord }
      | .error reason => .error (.transport info.nodePath reason)
    { verdict, written := reply.written, device := reply.device }

end Driver

/-- The devices of the host as a backend: the driver is asked about a node once that was opened and
compared with the record. -/
def backend {δ : Type} (roots : SysfsRoots) (driver : Driver δ) : Backend δ where
  discover files device :=
    let search := discover roots files
    { found := search.found, device, log := search.log }
  query files info buffer device :=
    match openNode files info with
    | .error refusal => { verdict := .error refusal.1, device, log := refusal.2 }
    | .ok () => driver.query info buffer device
  send files info request device :=
    match openNode files info with
    | .error refusal => { verdict := .error refusal.1, device, log := refusal.2 }
    | .ok () => driver.send info request device

end Sysfs

end CxlMailbox
