/-
# CxlMailbox.Payload.Log — device logs

A device lists its logs by UUID and size and hands them out in pieces. The Command Effects Log,
one of them, has an entry of four bytes for every opcode the device implements.

The list is a count and as many entries of 20 bytes; the count has 16 bits, so a longer list
keeps only its length modulo 65536 in front.
-/
import CxlMailbox.Text.HexBytes
import CxlMailbox.Wire

namespace CxlMailbox

set_option autoImplicit false

/-- A log identifier. -/
abbrev Uuid := Block 16

namespace Uuid

/-- The identifier as lower-case text in five groups. -/
def text (uuid : Uuid) : String :=
  let group (offset n : Nat) := Text.hexText (Bytes.slice uuid.bytes offset n)
  String.intercalate "-" [group 0 4, group 4 2, group 6 2, group 8 2, group 10 6]

/-- The identifier that a text of 32 digits spells, dashes aside. -/
def ofText? (text : String) : Option Uuid := do
  let bytes ← Text.readPairs (text.toList.filter (· ≠ '-'))
  if h : bytes.length = 16 then some ⟨bytes, h⟩ else none

/-- The Command Effects Log. -/
def effectsLog : Uuid :=
  ⟨[0x0d, 0xa9, 0xc0, 0xb5, 0xbf, 0x41, 0x4b, 0x78, 0x8f, 0x79, 0x96, 0xb1, 0x62, 0x3b, 0x3f,
    0x17], by decide⟩

end Uuid

/-! ## The list of logs -/

/-- One log of a device. -/
structure SupportedLog where
  uuid : Uuid
  size : UInt32
  deriving DecidableEq, Repr

namespace SupportedLog

/-- Bytes in front of the entries of a list. -/
def headerSize : Nat := 8

/-- Bytes of one entry of a list. -/
def entrySize : Nat := 20

/-- Whether this is the Command Effects Log. -/
def isEffectsLog (log : SupportedLog) : Bool := log.uuid == Uuid.effectsLog

def encode (log : SupportedLog) : Bytes := log.uuid.bytes ++ le32 log.size

def reader : Reader SupportedLog := do
  let uuid ← Reader.block 16
  let size ← Reader.u32
  return { uuid, size }

def encodeList (logs : List SupportedLog) : Bytes :=
  le16 (UInt16.ofNat logs.length) ++ (Bytes.zeros 6 ++ logs.flatMap encode)

/-- Reads the count first, and then, if all entries are there, the entries. -/
def decodeList (payload : Bytes) : Except Error (List SupportedLog) := do
  let count ← Reader.exactly headerSize Reader.u16 payload
  Reader.exactly (headerSize + count.toNat * entrySize)
    (do Reader.skip headerSize; Reader.times reader count.toNat) payload

end SupportedLog

/-! ## A piece of a log -/

/-- The request for a piece of a log. -/
structure LogRequest where
  uuid : Uuid := default
  offset : UInt32 := 0
  length : UInt32 := 0
  deriving DecidableEq, Repr

namespace LogRequest

/-- Bytes of the payload. -/
def size : Nat := 24

def encode (v : LogRequest) : Bytes := v.uuid.bytes ++ (le32 v.offset ++ le32 v.length)

def reader : Reader LogRequest := do
  let uuid ← Reader.block 16
  let offset ← Reader.u32
  let length ← Reader.u32
  return { uuid, offset, length }

def decode (payload : Bytes) : Except Error LogRequest := Reader.exactly size reader payload

@[simp] theorem length_encode (v : LogRequest) : v.encode.length = size := by
  simp [encode, size, v.uuid.length_bytes]

end LogRequest

/-! ## The Command Effects Log -/

/-- An opcode the device implements, with the effects of its command. -/
structure EffectsEntry where
  opcode : UInt16
  effect : UInt16
  deriving DecidableEq, Repr

namespace EffectsEntry

def encode (entry : EffectsEntry) : Bytes := le16 entry.opcode ++ le16 entry.effect

def encodeLog (entries : List EffectsEntry) : Bytes := entries.flatMap encode

/-- The entries of a log; up to three bytes at the end that make no entry are ignored. -/
def decodeLog : Bytes → List EffectsEntry
  | a :: b :: c :: d :: rest =>
    { opcode := UInt16.ofNat (fromLittleEndian [a, b]),
      effect := UInt16.ofNat (fromLittleEndian [c, d]) } :: decodeLog rest
  | _ => []

end EffectsEntry

end CxlMailbox
