/-
# CxlMailbox.World — the state that operations work in

A `World` has the state of a backend, of whatever type, the files of the host, the lines logged
so far and the text printed so far. A `Task` is an operation on it: it answers or fails, and in
both cases leaves a world behind, so that what happened before a failure is never lost.
-/
import CxlMailbox.Files

namespace CxlMailbox

set_option autoImplicit false

/-- How much a log line matters. -/
inductive Level where
  | error
  | warn
  | info
  | debug
  deriving DecidableEq, Repr

def Level.name : Level → String
  | error => "ERROR"
  | warn => "WARN"
  | info => "INFO"
  | debug => "DEBUG"

structure LogLine where
  level : Level
  message : String
  deriving DecidableEq, Repr

/-- Level and message in one line. -/
def LogLine.text (line : LogLine) : String := line.level.name ++ " " ++ line.message

/-- Everything an operation can see or change; `δ` is the backend's own state. -/
structure World (δ : Type) where
  device : δ
  files : FileTree := .empty
  log : Array LogLine := #[]
  printed : String := ""

namespace World

variable {δ : Type}

/-- The world after one more log line. -/
def logged (world : World δ) (level : Level) (message : String) : World δ :=
  { world with log := world.log.push ⟨level, message⟩ }

end World

/-- An operation that answers with an `α` or fails with an `ε`. -/
abbrev Task (δ ε α : Type) := ExceptT ε (StateM (World δ)) α

section Effects

variable {δ : Type}

/-- Logs a line. -/
def note (level : Level) (message : String) : StateM (World δ) Unit :=
  modify fun world => world.logged level message

/-- Prints a line. -/
def printLine (line : String) : StateM (World δ) Unit :=
  modify fun world => { world with printed := world.printed ++ line ++ "\n" }

/-- Logs a line as a task that cannot fail. -/
def Task.log {ε : Type} (level : Level) (message : String) : Task δ ε Unit :=
  ExceptT.lift (note level message)

/-- Prints a line as a task that cannot fail. -/
def Task.print {ε : Type} (line : String) : Task δ ε Unit := ExceptT.lift (printLine line)

end Effects

end CxlMailbox
