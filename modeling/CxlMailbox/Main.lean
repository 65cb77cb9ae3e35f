/-
# CxlMailbox.Main — the program

The thin layer around `CommandLine.run`: it reads the clock and the file that the command line
names, and afterwards writes what the run has written. The numbers of device nodes cannot be read
from here, so a host appears without devices and without a driver; the emulated device is all there.
-/
import CxlMailbox.CommandLine.Program
import Std.Time.DateTime.Timestamp

namespace CxlMailbox

set_option autoImplicit false

namespace Main

open CommandLine

/-- The operation on a device that words ask for. -/
def operation? (words : List String) : Option DeviceRequest :=
  match Invocation.ofWords words with
  | .ok { request := .on _ operation, .. } => some operation
  | _ => none

/-- The files that words name: the input file with its content, and a place for the output
file. -/
def gather (words : List String) : IO FileTree := do
  match operation? words with
  | some (.writeLabels input _) =>
    try
      let content ← IO.FS.readBinFile input
      return FileTree.empty.put (.ofPath input) (.file content.toList)
    catch _ => return .empty
  | some (.readLabels (some output) _ _) =>
    return FileTree.empty.makeParents (.ofPath output)
  | _ => return .empty

/-- Writes the output file, if the run has written it. -/
def deliver (words : List String) (files : FileTree) : IO Unit := do
  match operation? words with
  | some (.readLabels (some output) _ _) =>
    match files.read output with
    | .ok content => IO.FS.writeBinFile output (ByteArray.mk content.toArray)
    | .error _ => return
  | _ => return

/-- The host's clock, in nanoseconds since 1970. -/
def clock : IO UInt64 := do
  let now ← Std.Time.Timestamp.now
  return UInt64.ofInt now.toNanosecondsSinceUnixEpoch.toInt

/-- Runs the program with words and ends with its exit code. -/
def execute (words : List String) : IO UInt32 := do
  let host : Host Unit :=
    { now := ← clock, files := ← gather words, driver := .absent, device := () }
  let outcome := run Invocation.ofWords host words
  for line in outcome.log do
    IO.eprintln line.text
  IO.print outcome.stdout
  IO.eprint outcome.stderr
  deliver words outcome.files
  return UInt32.ofNat outcome.exitCode

end Main

end CxlMailbox

def main (words : List String) : IO UInt32 := CxlMailbox.Main.execute words
