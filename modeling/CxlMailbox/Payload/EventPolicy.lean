/-
# CxlMailbox.Payload.EventPolicy — how event logs interrupt

One byte for each of the four event logs: bits 0 and 1 choose how the log interrupts, bits 4 to
7 are the number of the interrupt message. Bits 2 and 3 mean nothing, but are kept.
-/
import CxlMailbox.Wire

namespace CxlMailbox

set_option autoImplicit false

/-- How an event log interrupts. -/
inductive InterruptMode where
  | none
  | msi
  | firmware
  | reserved
  deriving DecidableEq, Repr

namespace InterruptMode

/-- The two bits of a mode. -/
def toNat : InterruptMode → Nat
  | none => 0
  | msi => 1
  | firmware => 2
  | reserved => 3

/-- The mode that the two low bits of a settings byte choose. -/
def ofSettings (settings : UInt8) : InterruptMode :=
  match settings.toNat % 4 with
  | 0 => none
  | 1 => msi
  | 2 => firmware
  | _ => reserved

def name : InterruptMode → String
  | none => "None"
  | msi => "Msi"
  | firmware => "Firmware"
  | reserved => "Reserved"

/-- Every mode. -/
def all : List InterruptMode := [none, msi, firmware, reserved]

end InterruptMode

/-- The settings byte of a mode and the low four bits of a message number. -/
def eventSettings (mode : InterruptMode) (vector : UInt8) : UInt8 :=
  UInt8.ofNat (mode.toNat + 16 * (vector.toNat % 16))

/-- The message number of a settings byte. -/
def eventVector (settings : UInt8) : UInt8 := UInt8.ofNat (settings.toNat / 16)

theorem ofSettings_eventSettings (mode : InterruptMode) (vector : UInt8) :
    InterruptMode.ofSettings (eventSettings mode vector) = mode := by
  have h : (eventSettings mode vector).toNat % 4 = mode.toNat := by
    simp only [eventSettings, UInt8.toNat_ofNat']
    cases mode <;> simp only [InterruptMode.toNat] <;> omega
  cases mode <;> simp [InterruptMode.ofSettings, h, InterruptMode.toNat]

theorem eventVector_eventSettings (mode : InterruptMode) (vector : UInt8) :
    (eventVector (eventSettings mode vector)).toNat = vector.toNat % 16 := by
  simp only [eventVector, eventSettings, UInt8.toNat_ofNat']
  cases mode <;> simp only [InterruptMode.toNat] <;> omega

/-- The settings byte of each event log. -/
structure EventPolicy where
  info : UInt8 := 0
  warning : UInt8 := 0
  failure : UInt8 := 0
  fatal : UInt8 := 0
  deriving DecidableEq, Repr

namespace EventPolicy

/-- Bytes of the payload, in both directions. -/
def size : Nat := 4

def encode (v : EventPolicy) : Bytes := le8 v.info ++ (le8 v.warning ++ (le8 v.failure ++ le8 v.fatal))

def reader : Reader EventPolicy := do
  let info ← Reader.u8
  let warning ← Reader.u8
  let failure ← Reader.u8
  let fatal ← Reader.u8
  return { info, warning, failure, fatal }

def decode (payload : Bytes) : Except Error EventPolicy := Reader.exactly size reader payload

@[simp] theorem length_encode (v : EventPolicy) : v.encode.length = size := by
  simp [encode, size]

end EventPolicy

end CxlMailbox
