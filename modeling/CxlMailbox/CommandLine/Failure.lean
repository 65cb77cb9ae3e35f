/-
# CxlMailbox.CommandLine.Failure — why a command fails

The failures of the program as a whole: those of the mailbox, of the host's files and of the
search for devices, and the program's own. `message` is what is told of a command that fails;
what prevents a command from being started is told in the form of `diagnosis`.
-/
import CxlMailbox.Sysfs
import CxlMailbox.Text.HexBytes
import CxlMailbox.Text.Quoted

namespace CxlMailbox.CommandLine

set_option autoImplicit false

inductive Failure where
  | mailbox (e : Error)
  /-- No device has the name or number. -/
  | deviceNotFound (name : String)
  | unknownBackend (name : String)
  /-- A backend setting without an equals sign. -/
  | malformedSetting (piece : String)
  /-- The input text of a raw command spells no bytes. -/
  | hexPayload (text : String) (fault : Text.HexFault)
  /-- More bytes than a 32-bit length can tell. -/
  | payloadTooLarge (size : Nat)
  | file (fault : FileFault)
  | sysfs (e : SysfsError)
  deriving DecidableEq, Repr

namespace Failure

/-- What is wrong with a hexadecimal text. -/
def hexReason (text : String) : Text.HexFault → String
  | .oddLength => s!"odd number of hex digits in '{text}'"
  | .noByte => text

def message : Failure → String
  | mailbox e => e.message
  | deviceNotFound name => s!"No CXL memory device matching '{name}'"
  | unknownBackend name => s!"Unknown backend '{name}'"
  | malformedSetting piece => s!"Invalid parameter format: '{piece}' (expected key=value)"
  | hexPayload text fault => s!"Invalid hex payload: {hexReason text fault}"
  | payloadTooLarge size => s!"Payload of {size} bytes is too large"
  | file fault => fault.message
  | sysfs e => e.message

/-- A cause with the text it is about. -/
def about (cause text : String) : String := s!"{cause}({Text.quoted text})"

/-- The failures that keep a command from being started, by cause and text. -/
def diagnosis : Failure → String
  | deviceNotFound name => about "MemdevNotFound" name
  | unknownBackend name => about "UnknownBackend" name
  | malformedSetting piece => about "InvalidParameter" piece
  | sysfs (.invalidParameter parameter reason) =>
    "InvalidParameter \x7b name: " ++ Text.quoted parameter ++ ", message: " ++
      Text.quoted reason ++ " \x7d"
  | other => other.message

end Failure

end CxlMailbox.CommandLine
