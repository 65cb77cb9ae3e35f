/-
# CxlMailbox.Payload.Firmware — firmware slots

The answer to Get FW Info, 80 bytes: how many slots the device has, which one is active and
which is staged for the next activation, and the revision in each of four slots. Slots are
numbered from 1.
-/
import CxlMailbox.Payload.Revision
import CxlMailbox.Wire

namespace CxlMailbox

set_option autoImplicit false

structure FirmwareInfo where
  slotsSupported : UInt8 := 0
  /-- Bits 0 to 2 number the active slot, bits 3 to 5 the staged one. -/
  slotInfo : UInt8 := 0
  /-- Bit 0 says that activation needs no reset. -/
  activationCaps : UInt8 := 0
  slot1 : Revision := default
  slot2 : Revision := default
  slot3 : Revision := default
  slot4 : Revision := default
  deriving DecidableEq, Repr

namespace FirmwareInfo

/-- Bytes of the payload. -/
def size : Nat := 80

/-- Revision slots in the payload. -/
def slots : Nat := 4

def encode (v : FirmwareInfo) : Bytes :=
  le8 v.slotsSupported ++ (le8 v.slotInfo ++ (le8 v.activationCaps ++ (Bytes.zeros 13 ++
    (v.slot1.bytes ++ (v.slot2.bytes ++ (v.slot3.bytes ++ v.slot4.bytes))))))

def reader : Reader FirmwareInfo := do
  let slotsSupported ← Reader.u8
  let slotInfo ← Reader.u8
  let activationCaps ← Reader.u8
  Reader.skip 13
  let slot1 ← Reader.block 16
  let slot2 ← Reader.block 16
  let slot3 ← Reader.block 16
  let slot4 ← Reader.block 16
  return { slotsSupported, slotInfo, activationCaps, slot1, slot2, slot3, slot4 }

def decode (payload : Bytes) : Except Error FirmwareInfo := Reader.exactly size reader payload

@[simp] theorem length_encode (v : FirmwareInfo) : v.encode.length = size := by
  simp [encode, size, v.slot1.length_bytes, v.slot2.length_bytes, v.slot3.length_bytes,
    v.slot4.length_bytes]

/-- The number of the active slot, 0 for none. -/
def activeSlot (v : FirmwareInfo) : Nat := v.slotInfo.toNat % 8

/-- The number of the slot staged for the next activation, 0 for none. -/
def stagedSlot (v : FirmwareInfo) : Nat := v.slotInfo.toNat / 8 % 8

/-- Firmware can be activated without a reset. -/
def onlineActivation (v : FirmwareInfo) : Bool := v.activationCaps.toNat.testBit 0

/-- The revision field of a slot. -/
def slot? (v : FirmwareInfo) : Nat → Option Revision
  | 1 => some v.slot1
  | 2 => some v.slot2
  | 3 => some v.slot3
  | 4 => some v.slot4
  | _ => none

/-- The revision text of a slot. -/
def revision? (v : FirmwareInfo) (slot : Nat) : Option String :=
  (v.slot? slot).map Revision.text

/-- Another revision in a slot; a number that is no slot changes nothing. -/
def setSlot (v : FirmwareInfo) (slot : Nat) (revision : Revision) : FirmwareInfo :=
  match slot with
  | 1 => { v with slot1 := revision }
  | 2 => { v with slot2 := revision }
  | 3 => { v with slot3 := revision }
  | 4 => { v with slot4 := revision }
  | _ => v

theorem slot?_setSlot (v : FirmwareInfo) (slot other : Nat) (revision : Revision) :
    (v.setSlot slot revision).slot? other =
      if other = slot ∧ (v.slot? slot).isSome then some revision else v.slot? other := by
  match slot with
  | 0 | 1 | 2 | 3 | 4 | n + 5 =>
    match other with
    | 0 | 1 | 2 | 3 | 4 | m + 5 => simp [setSlot, slot?]

end FirmwareInfo

end CxlMailbox
