/-
# CxlMailbox.Wire — packed payload formats

A payload format reads its fields one after the other from the front of the bytes. `Reader` is
such a reading: it knows how many bytes it has passed, and a field that is not all there ends it as
a short payload. `Reader.exactly` asks for the bytes of the whole format before anything is read.
-/
import CxlMailbox.Bytes
import CxlMailbox.Error

namespace CxlMailbox

set_option autoImplicit false

/-- A place in a payload. -/
structure Cursor where
  /-- How many bytes are in front of the place. -/
  position : Nat
  /-- The bytes behind it. -/
  rest : Bytes
  deriving DecidableEq, Repr

namespace Cursor

/-- The place in front of a payload. -/
def start (payload : Bytes) : Cursor := ⟨0, payload⟩

/-- The place `n` bytes further on. -/
def advance (place : Cursor) (n : Nat) : Cursor := ⟨place.position + n, place.rest.drop n⟩

/-- How many bytes the payload has. -/
def length (place : Cursor) : Nat := place.position + place.rest.length

end Cursor

/-- A reading of fields of a payload. -/
abbrev Reader := StateT Cursor (Except Error)

namespace Reader

/-- The next `n` bytes. -/
def bytes (n : Nat) : Reader Bytes := fun place =>
  if n ≤ place.rest.length then .ok (place.rest.take n, place.advance n)
  else .error (.shortPayload (place.position + n) place.length)

/-- Passes over `n` reserved bytes. -/
def skip (n : Nat) : Reader Unit := do
  let _ ← bytes n
  return

/-- The next `n` bytes as a field. -/
def block (n : Nat) : Reader (Block n) := return Block.ofBytes n (← bytes n)

/-- The number that the next `n` bytes are. -/
def word (n : Nat) : Reader Nat := return fromLittleEndian (← bytes n)

def u8 : Reader UInt8 := return UInt8.ofNat (← word 1)
def u16 : Reader UInt16 := return UInt16.ofNat (← word 2)
def u32 : Reader UInt32 := return UInt32.ofNat (← word 4)
def u64 : Reader UInt64 := return UInt64.ofNat (← word 8)

/-- The results of reading `count` times. -/
def times {α : Type} (reader : Reader α) : (count : Nat) → Reader (List α)
  | 0 => pure []
  | count + 1 => do
    let first ← reader
    let rest ← times reader count
    return first :: rest

/-- Reads a format of `size` bytes; a shorter payload is refused before anything is read. -/
def exactly {α : Type} (size : Nat) (reader : Reader α) (payload : Bytes) : Except Error α :=
  if payload.length < size then .error (.shortPayload size payload.length)
  else (reader (.start payload)).map Prod.fst

end Reader

end CxlMailbox
