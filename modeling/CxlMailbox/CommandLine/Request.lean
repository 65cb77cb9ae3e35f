/-
# CxlMailbox.CommandLine.Request — the commands of the program

What the words of a command line ask for: a `Request`, either for the list of devices or for one
operation on one device, and the options around it, which choose the backend and how much is
logged. `grammar` says which words there are, `Invocation.ofWords` reads them.
-/
import CxlMailbox.CommandLine.Grammar
import CxlMailbox.Text.Utf8

namespace CxlMailbox.CommandLine

set_option autoImplicit false

/-- An operation on a device. -/
inductive DeviceRequest where
  /-- Reads a label range, into a file or as a dump. -/
  | readLabels (output? : Option String) (offset length : UInt32)
  /-- Writes the content of a file to the label area. -/
  | writeLabels (input : String) (offset : UInt32)
  | zeroLabels (offset length : UInt32)
  | identify
  | health
  | getTimestamp
  /-- Sets the device's clock, without a time to that of the host. -/
  | setTimestamp (time? : Option UInt64)
  | firmwareInfo
  | backgroundStatus
  | supportedLogs (withEffects : Bool)
  /-- Sends a raw command, with hexadecimal input, and dumps the output. -/
  | raw (opcode : UInt16) (input? : Option String) (outputSize? : Option UInt32)
  deriving DecidableEq, Repr

inductive Request where
  | list (json : Bool)
  | on (device : String) (request : DeviceRequest)
  deriving DecidableEq, Repr

namespace Request

/-! ## Words -/

/-- The device that a command is about. -/
def deviceWord : Positional := { name := "memdev" }

/-- Where a label range starts. -/
def offsetFlag : Flag := { long := "offset", short? := some 's', action := .take .size }

/-- How long a label range is; zero reaches to the end of the area. -/
def lengthFlag : Flag := { long := "length", short? := some 'l', action := .take .size }

def text (m : Matches) (name : String) : String := (m.text? name).getD ""

def word (m : Matches) (name : String) : UInt32 := UInt32.ofNat ((m.number? name).getD 0)

/-- A command on a device. -/
def deviceCommand (flags : List Flag) (operands : List Positional)
    (request : Matches → DeviceRequest) : Grammar Request :=
  .command flags (deviceWord :: operands) fun m => .on (text m deviceWord.name) (request m)

/-- A command on a device without further arguments. -/
def plainCommand (request : DeviceRequest) : Grammar Request :=
  deviceCommand [] [] fun _ => request

/-- The commands of the program. -/
def grammar : Grammar Request := .group
  [("list", .command [{ long := "json", action := .set }] [] fun m =>
      .list (m.isGiven "json")),
    ("read-labels", deviceCommand
      [{ long := "output", short? := some 'o', action := .take .path }, offsetFlag, lengthFlag] []
      fun m => .readLabels (m.text? "output") (word m "offset") (word m "length")),
    ("write-labels", deviceCommand
      [{ long := "input", short? := some 'i', action := .take .path, required := true },
        offsetFlag] []
      fun m => .writeLabels (text m "input") (word m "offset")),
    ("zero-labels", deviceCommand [offsetFlag, lengthFlag] [] fun m =>
      .zeroLabels (word m "offset") (word m "length")),
    ("identify", plainCommand .identify),
    ("health", plainCommand .health),
    ("timestamp", .group
      [("get", plainCommand .getTimestamp),
        ("set", deviceCommand [] [{ name := "value", kind := .time, required := false }] fun m =>
          .setTimestamp ((m.number? "value").map UInt64.ofNat))]),
    ("fw-info", plainCommand .firmwareInfo),
    ("bo-status", plainCommand .backgroundStatus),
    ("supported-logs", deviceCommand [{ long := "cel", action := .set }] [] fun m =>
      .supportedLogs (m.isGiven "cel")),
    ("raw", deviceCommand
      [{ long := "input", short? := some 'i', action := .take .text },
        { long := "output-size", short? := some 'n', action := .take .size }]
      [{ name := "opcode", kind := .opcode }]
      fun m => .raw (UInt16.ofNat ((m.number? "opcode").getD 0)) (m.text? "input")
        ((m.number? "output-size").map UInt32.ofNat))]

end Request

/-- The options that every command takes. -/
def sharedFlags : List Flag :=
  [{ long := "verbose", short? := some 'v', action := .count },
    { long := "backend", short? := some 'b', action := .take .text },
    { long := "sysfs-root", action := .take .path },
    { long := "dev-root", action := .take .path },
    { long := "help", short? := some 'h', action := .help }]

/-- The options that stand only in front of the command. -/
def programFlags : List Flag := [{ long := "version", short? := some 'V', action := .version }]

/-- Everything a command line asks for. -/
structure Invocation where
  request : Request
  /-- How often more logging was asked for. -/
  verbosity : Nat := 0
  /-- The backend's name, and its settings behind a colon. -/
  backend : String := "linux"
  /-- The path of the attribute directories, in the bytes of the host. -/
  sysfsRoot? : Option Bytes := none
  /-- The path of the device nodes. -/
  devRoot? : Option Bytes := none
  deriving DecidableEq, Repr

namespace Invocation

/-- Reads a command line. -/
def ofWords (words : List String) : Except Refusal Invocation := do
  let (request, levels) ← Request.grammar.parse sharedFlags programFlags words
  let text? (name : String) : Option String :=
    match lookup? levels name with
    | some (.text text) => some text
    | _ => none
  return {
    request
    verbosity := match lookup? levels "verbose" with
      | some (.number n) => n
      | _ => 0
    backend := (text? "backend").getD "linux"
    sysfsRoot? := (text? "sysfs-root").map Text.Utf8.encode
    devRoot? := (text? "dev-root").map Text.Utf8.encode }

end Invocation

end CxlMailbox.CommandLine
