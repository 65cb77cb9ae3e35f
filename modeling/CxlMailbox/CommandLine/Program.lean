/-
# CxlMailbox.CommandLine.Program — a run of the program

A run reads its words, chooses a backend, finds the device and carries the command out; `run` is
all of it, for any reader of command lines and on any `Host`. It ends with an exit code, what was
printed, and the files as they are then: 0 if the command succeeded or only information on the
program was asked for, 2 if the words were refused, and 1 for every other failure, with a line that
tells why.
-/
import CxlMailbox.CommandLine.Report
import CxlMailbox.Emulator

namespace CxlMailbox.CommandLine

set_option autoImplicit false

/-! ## Choosing a backend -/

/-- A backend that can be chosen. -/
inductive Choice where
  /-- The devices of the host. -/
  | host (roots : SysfsRoots)
  /-- One emulated device, which is gone when the run ends. -/
  | emulated
  deriving DecidableEq, Repr

/-- A text in front of the first `mark`, and what is behind it, if there is one. -/
def splitAt? (mark : Char) (text : String) : String × Option String :=
  let chars := text.toList
  let front := String.ofList (chars.takeWhile (· ≠ mark))
  match chars.dropWhile (· ≠ mark) with
  | [] => (front, none)
  | _ :: rest => (front, some (String.ofList rest))

/-- A setting `key=value`. -/
def parseSetting (piece : String) : Except Failure (String × String) :=
  match splitAt? '=' piece with
  | (key, some value) => .ok (key, value)
  | (_, none) => .error (.malformedSetting piece)

/-- What stands between the commas of a text. Nothing between two of them is no piece. -/
def commaPieces (text : String) : List String :=
  ((text.toList.splitOn ',').map String.ofList).filter (· ≠ "")

/-- The name of a backend and its settings. A colon ends the name; settings stand between commas,
and empty ones mean nothing. -/
def parseBackend (text : String) : Except Failure (String × List (String × String)) := do
  let (name, rest) := splitAt? ':' text
  return (name, ← (commaPieces (rest.getD "")).mapM parseSetting)

/-- The settings that the options of the command line stand for. -/
def rootSettings (invocation : Invocation) : List (String × String) :=
  (invocation.sysfsRoot?.map fun root => ("sysfs", Text.Utf8.lossyText root)).toList ++
    (invocation.devRoot?.map fun root => ("dev", Text.Utf8.lossyText root)).toList

/-- Chooses the backend that the command line names. The options for the roots count after the
settings of the backend. -/
def choose {δ : Type} (invocation : Invocation) : Task δ Failure Choice := do
  let (name, settings) ← parseBackend invocation.backend
  Task.log .debug s!"backend {name} with {settings.length} parameters"
  if name = "linux" then
    let roots ← (Sysfs.chooseRoots (settings ++ rootSettings invocation)).adapt .sysfs
    return .host roots
  else if name = "dummy" then
    if !settings.isEmpty then Task.log .warn "dummy backend takes no parameters"
    return .emulated
  else throw (.unknownBackend name)

/-! ## Running -/

/-- How a run ends that was not refused. -/
inductive Ending where
  | done
  /-- The backend or the device was not there. -/
  | notStarted (failure : Failure)
  /-- The command itself failed. -/
  | failed (failure : Failure)
  deriving DecidableEq, Repr

/-- The line that tells of a failure. -/
def Ending.report : Ending → String
  | .done => ""
  | .notStarted failure => s!"Error: {failure.diagnosis}\n"
  | .failed failure => s!"Error: {failure.message}\n"

def Ending.exitCode : Ending → Nat
  | .done => 0
  | .notStarted _ | .failed _ => 1

/-- How a command ended. -/
def Ending.ofResult : Except Failure Unit → Ending
  | .ok () => .done
  | .error failure => .failed failure

section

variable {δ : Type}

/-- Carries out a request on the devices of a backend. -/
def serve (backend : Backend δ) (now : UInt64) (request : Request) :
    StateM (World δ) Ending := do
  let (devices, registry) ← Registry.devices backend (← Registry.create)
  let ending ← match request with
    | .list asJson => .ofResult <$> (Report.list asJson devices).run
    | .on name operation =>
      match Report.findDevice devices name with
      | .error failure => pure (.notStarted failure)
      | .ok info => .ofResult <$> (Report.perform backend info now operation).run
  let _ ← registry.drop
  return ending

end

/-- What is left of a run. -/
structure Outcome where
  exitCode : Nat
  stdout : String
  stderr : String
  files : FileTree
  /-- The log lines that the verbosity lets through. -/
  log : List LogLine := []

/-- Whether a log line is shown. -/
def isShown (verbosity : Nat) (line : LogLine) : Bool := line.level ≠ .debug || verbosity ≠ 0

/-- The outcome of a run that was not refused. -/
def finish {δ : Type} (verbosity : Nat) (ending : Ending) (world : World δ) : Outcome where
  exitCode := ending.exitCode
  stdout := world.printed
  stderr := ending.report
  files := world.files
  log := world.log.toList.filter (isShown verbosity)

/-- The program's name and version. -/
def versionLine : String := "cxlmem 0.1.0\n"

/-- How the program is called. -/
def usage : String := "Usage: cxlmem [OPTIONS] <COMMAND>\n"

/-- The outcome of a run whose words were refused. -/
def refused (files : FileTree) : Refusal → Outcome
  | .displayVersion => { exitCode := 0, stdout := versionLine, stderr := "", files }
  | .displayHelp => { exitCode := 0, stdout := usage, stderr := "", files }
  | refusal => { exitCode := 2, stdout := "", stderr := s!"error: {refusal.name}\n{usage}", files }

/-- What a run has around it. -/
structure Host (δ : Type) where
  /-- The clock, in nanoseconds since 1970. -/
  now : UInt64
  files : FileTree
  driver : Sysfs.Driver δ
  /-- The devices behind the driver. -/
  device : δ

/-- What a run starts with. -/
def Host.world {δ : Type} (host : Host δ) : World δ := { device := host.device, files := host.files }

/-- Carries out what a command line asks for. -/
def execute {δ : Type} (host : Host δ) (invocation : Invocation) : Outcome :=
  let (choice, world) := (choose invocation).run host.world
  match choice with
  | .error failure => finish invocation.verbosity (.notStarted failure) world
  | .ok (.host roots) =>
    let (ending, world) := serve (Sysfs.backend roots host.driver) host.now invocation.request world
    finish invocation.verbosity ending world
  | .ok .emulated =>
    let (ending, world) := serve Emulator.backend host.now invocation.request
      { world with device := Emulator.ofConfigs [{}] }
    finish invocation.verbosity ending world

/-- Runs the program on a command line, which is read by `parse`. -/
def run {δ ω : Type} (parse : ω → Except Refusal Invocation) (host : Host δ) (words : ω) : Outcome :=
  match parse words with
  | .error refusal => refused host.files refusal
  | .ok invocation => execute host invocation

end CxlMailbox.CommandLine
