/-
# CxlMailbox.CommandLine.Grammar — command line words

A command line is read level by level: the words of the program up to the name of a command, then
the words of the command. At each level words are options, with one or two dashes in front,
values of options, and positional arguments; behind a lone `--` every word is a positional one.

A value is taken as it stands when its word is met, but read only when the next argument comes or
the words end. So of two faults the one that is completed first is reported, and `parse` fails
with exactly one `Refusal`.

A level may allow options that any command below repeats; `lookup?` takes such an option from the
deepest level that has it.
-/
import CxlMailbox.Text.Numeral

namespace CxlMailbox.CommandLine

set_option autoImplicit false

/-- Why a command line is not carried out. Asking for help or for the version is among the
reasons. -/
inductive Refusal where
  | unknownArgument
  | invalidSubcommand
  | missingSubcommand
  | missingRequiredArgument
  /-- An option without its value, or a path without characters. -/
  | invalidValue
  /-- A value behind an option that takes none. -/
  | tooManyValues
  /-- An option that is given twice at one level. -/
  | argumentConflict
  | valueValidation (message : String)
  | displayHelp
  | displayVersion
  /-- Nothing at all is given where a command is needed. -/
  | displayHelpOnMissingArgumentOrSubcommand
  deriving DecidableEq, Repr

/-- The name of a kind of refusal. -/
def Refusal.name : Refusal → String
  | unknownArgument => "UnknownArgument"
  | invalidSubcommand => "InvalidSubcommand"
  | missingSubcommand => "MissingSubcommand"
  | missingRequiredArgument => "MissingRequiredArgument"
  | invalidValue => "InvalidValue"
  | tooManyValues => "TooManyValues"
  | argumentConflict => "ArgumentConflict"
  | valueValidation _ => "ValueValidation"
  | displayHelp => "DisplayHelp"
  | displayVersion => "DisplayVersion"
  | displayHelpOnMissingArgumentOrSubcommand => "DisplayHelpOnMissingArgumentOrSubcommand"

/-! ## Values -/

/-- What an argument means. -/
inductive Value where
  /-- It was given. -/
  | present
  | text (text : String)
  | number (number : Nat)
  deriving DecidableEq, Repr

/-- How the word of a value is read. -/
inductive ValueKind where
  | text
  | path
  /-- Hexadecimal behind `0x`, else decimal; below 2^32. -/
  | size
  /-- Hexadecimal, with or without `0x`; below 2^16. -/
  | opcode
  /-- Decimal, below 2^64. -/
  | time
  deriving DecidableEq, Repr

/-- The digits of a hexadecimal number behind `0x` or `0X`. -/
def hexDigits? : List Char → Option (List Char)
  | '0' :: 'x' :: digits => some digits
  | '0' :: 'X' :: digits => some digits
  | _ => none

/-- Reads a number, its fault behind a heading. -/
def readNumber (radix bound : Nat) (heading : String) (digits : List Char) :
    Except String Nat :=
  match Text.readNumeral radix bound digits with
  | .ok n => .ok n
  | .error fault => .error (heading ++ fault.message)

/-- Reads an offset, a length or a size. -/
def readSize (word : String) : Except String Nat :=
  match hexDigits? word.toList with
  | some digits => readNumber 16 UInt32.size "Invalid hex value: " digits
  | none => readNumber 10 UInt32.size "Invalid number: " word.toList

/-- Reads an opcode. -/
def readOpcode (word : String) : Except String Nat :=
  readNumber 16 UInt16.size "Invalid opcode: " ((hexDigits? word.toList).getD word.toList)

/-- Reads a point in time. -/
def readTime (word : String) : Except String Nat := readNumber 10 UInt64.size "" word.toList

namespace ValueKind

/-- A number that was read, or the refusal of its word. -/
def ofNumber : Except String Nat → Except Refusal Value
  | .ok n => .ok (.number n)
  | .error message => .error (.valueValidation message)

/-- Reads the word of a value. -/
def read : ValueKind → String → Except Refusal Value
  | text, word => .ok (.text word)
  | path, word => if word.isEmpty then .error .invalidValue else .ok (.text word)
  | size, word => ofNumber (readSize word)
  | opcode, word => ofNumber (readOpcode word)
  | time, word => ofNumber (readTime word)

end ValueKind

/-! ## Arguments -/

/-- What an option does. -/
inductive Action where
  | set
  /-- Every occurrence counts, up to 255 of them. -/
  | count
  | help
  | version
  | take (kind : ValueKind)
  deriving DecidableEq, Repr

structure Flag where
  /-- The name behind two dashes. -/
  long : String
  /-- The letter behind one dash. -/
  short? : Option Char := none
  action : Action
  required : Bool := false
  deriving DecidableEq, Repr

structure Positional where
  name : String
  kind : ValueKind := .text
  required : Bool := true
  deriving DecidableEq, Repr

/-- A value that waits to be read. -/
structure Pending where
  name : String
  kind : ValueKind
  /-- The word, once it was met. -/
  word? : Option String
  deriving DecidableEq, Repr

/-- The arguments of one level, as far as its words were met. -/
structure Matches where
  /-- Arguments by name, in the order in which they were read. -/
  given : List (String × Value) := []
  pending : Option Pending := none
  /-- Positional arguments that have no word yet. -/
  free : List Positional
  /-- Whether a lone `--` was met. -/
  trailing : Bool := false
  deriving DecidableEq, Repr

namespace Matches

/-- The value of an argument. -/
def value? (m : Matches) (name : String) : Option Value :=
  (m.given.find? fun entry => entry.1 == name).map (·.2)

/-- The text of an argument. -/
def text? (m : Matches) (name : String) : Option String :=
  match m.value? name with
  | some (.text text) => some text
  | _ => none

/-- The number of an argument. -/
def number? (m : Matches) (name : String) : Option Nat :=
  match m.value? name with
  | some (.number n) => some n
  | _ => none

/-- Whether an argument was given. -/
def isGiven (m : Matches) (name : String) : Bool := (m.value? name).isSome

/-- Whether the next word is the value of an option. -/
def awaiting (m : Matches) : Bool :=
  match m.pending with
  | some { word? := none, .. } => !m.trailing
  | _ => false

/-- Records an argument that may be given once. -/
def record (m : Matches) (name : String) (value : Value) : Matches :=
  { m with given := m.given ++ [(name, value)] }

/-- Reads the value that waits. -/
def settle (m : Matches) : Except Refusal Matches :=
  match m.pending with
  | none => .ok m
  | some pending =>
    match pending.word? with
    | none => .error .invalidValue
    | some word =>
      if m.isGiven pending.name then .error .argumentConflict
      else match pending.kind.read word with
        | .ok value => .ok { m.record pending.name value with pending := none }
        | .error refusal => .error refusal

/-- One more occurrence of a counted option. -/
def countUp (m : Matches) (name : String) : Matches :=
  let n := min 255 ((m.number? name).getD 0 + 1)
  { m with given := m.given.filter (·.1 != name) ++ [(name, .number n)] }

/-- An option without a value of its own, or in front of it. -/
def meet (m : Matches) (flag : Flag) : Except Refusal Matches := do
  let m ← m.settle
  match flag.action with
  | .set =>
    if m.isGiven flag.long then throw .argumentConflict
    return m.record flag.long .present
  | .count => return m.countUp flag.long
  | .help => throw .displayHelp
  | .version => throw .displayVersion
  | .take kind => return { m with pending := some ⟨flag.long, kind, none⟩ }

/-- An option with its value attached, which is read at once. -/
def attach (m : Matches) (flag : Flag) (word : String) : Except Refusal Matches := do
  match flag.action with
  | .take kind =>
    let m ← m.settle
    { m with pending := some ⟨flag.long, kind, some word⟩ }.settle
  | _ => throw .tooManyValues

/-- A word behind two dashes: a name, and behind an equals sign a value. -/
def long (flags : List Flag) (m : Matches) (body : List Char) : Except Refusal Matches :=
  let name := String.ofList (body.takeWhile (· ≠ '='))
  match flags.find? fun flag => flag.long == name with
  | none => .error .unknownArgument
  | some flag =>
    match body.dropWhile (· ≠ '=') with
    | [] => m.meet flag
    | _ :: value => m.attach flag (String.ofList value)

/-- A word behind one dash: letters of options, the last of which may have its value behind it,
with or without an equals sign. -/
def shorts (flags : List Flag) (m : Matches) : List Char → Except Refusal Matches
  | [] => .ok m
  | letter :: rest =>
    match flags.find? fun flag => flag.short? == some letter with
    | none => .error .unknownArgument
    | some flag =>
      match flag.action, rest with
      | .take _, '=' :: value => m.attach flag (String.ofList value)
      | .take _, _ :: _ => m.attach flag (String.ofList rest)
      | _, _ => do shorts flags (← m.meet flag) rest

/-- A word that is no option. `unexpected` is the refusal if no positional argument is free. -/
def plain (unexpected : Refusal) (m : Matches) (word : String) : Except Refusal Matches :=
  match m.free with
  | [] => .error unexpected
  | next :: free => do
    let m ← m.settle
    return { m with free, pending := some ⟨next.name, next.kind, some word⟩ }

/-- The value of the option that waits for one. -/
def fill (m : Matches) (word : String) : Matches :=
  { m with pending := m.pending.map fun pending => { pending with word? := some word } }

/-- Takes one word of the level. -/
def take (flags : List Flag) (unexpected : Refusal) (m : Matches) (word : String) :
    Except Refusal Matches :=
  if m.trailing then m.plain unexpected word
  else
    match word.toList with
    | ['-', '-'] => .ok { m with trailing := true }
    | '-' :: '-' :: body => m.long flags body
    | '-' :: letter :: rest => m.shorts flags (letter :: rest)
    | _ => if m.awaiting then .ok (m.fill word) else m.plain unexpected word

end Matches

/-! ## Levels -/

/-- The commands below a level, each with a result of type `α` for its arguments. -/
inductive Grammar (α : Type) where
  | command (flags : List Flag) (positionals : List Positional) (result : Matches → α)
  | group (commands : List (String × Grammar α))

namespace Grammar

variable {α : Type}

/-- The name of the command that stands at every group and explains others. -/
def helpWord : String := "help"

/-- The commands of a group. -/
def commands : Grammar α → List (String × Grammar α)
  | command _ _ _ => []
  | group commands => commands

/-- The command with a name. -/
def find? (g : Grammar α) (name : String) : Option (Grammar α) :=
  (g.commands.find? fun entry => entry.1 == name).map (·.2)

/-- Whether commands are expected. -/
def isGroup (g : Grammar α) : Bool := !g.commands.isEmpty

/-- Whether a word is the name of a command. -/
def isCommandName (g : Grammar α) (word : String) : Bool :=
  g.isGroup && (word == helpWord || (g.find? word).isSome)

/-- The options of a command's own. -/
def ownFlags : Grammar α → List Flag
  | command flags _ _ => flags
  | group _ => []

/-- The positional arguments of a command. -/
def positionals : Grammar α → List Positional
  | command _ positionals _ => positionals
  | group _ => []

/-- How a request for help on the command that words name ends. -/
def explain (g : Grammar α) : List String → Refusal
  | [] => .displayHelp
  | word :: rest =>
    match g.find? word with
    | some inner => inner.explain rest
    | none => if g.isGroup && word == helpWord && rest.isEmpty then .displayHelp
              else .invalidSubcommand

/-- The refusal of a word that is no argument of the level. -/
def unexpected (g : Grammar α) (trailing : Bool) (word : String) : Refusal :=
  if g.isGroup && !(trailing && g.isCommandName word) then .invalidSubcommand
  else .unknownArgument

/-- Reads the last value of a level below which no command was met, and checks that nothing is
missing. -/
def close (g : Grammar α) (m : Matches) : Except Refusal (α × List Matches) := do
  let m ← m.settle
  match g with
  | .command flags positionals result =>
    let wanted := (positionals.filter (·.required)).map (·.name) ++
      (flags.filter (·.required)).map (·.long)
    if wanted.all m.isGiven then return (result m, [m]) else throw .missingRequiredArgument
  | .group _ =>
    throw (if m.given.isEmpty then .displayHelpOnMissingArgumentOrSubcommand
      else .missingSubcommand)

/-- Reads the words of a level and of all below it. `shared` are the options that every command
below takes as well; `here` are the other options of this level. The arguments come back level by
level. -/
def readWords (shared here : List Flag) (g : Grammar α) (m : Matches) :
    List String → Except Refusal (α × List Matches)
  | [] => g.close m
  | word :: rest => do
    if g.isCommandName word && !m.trailing && !m.awaiting then
      match g.find? word with
      | none => throw (g.explain rest)
      | some inner =>
        let (result, below) ←
          readWords shared inner.ownFlags inner { free := inner.positionals } rest
        return (result, (← m.settle) :: below)
    else
      let m ← m.take (here ++ shared) (g.unexpected m.trailing word) word
      readWords shared here g m rest

/-- Reads a whole command line. -/
def parse (shared here : List Flag) (g : Grammar α) (words : List String) :
    Except Refusal (α × List Matches) :=
  g.readWords shared here { free := [] } words

end Grammar

/-- The value of a shared option: that of the deepest level which has it. -/
def lookup? (levels : List Matches) (name : String) : Option Value :=
  levels.reverse.findSome? fun m => m.value? name

end CxlMailbox.CommandLine
