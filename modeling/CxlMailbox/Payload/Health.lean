/-
# CxlMailbox.Payload.Health — health information

The answer to Get Health Info, 18 bytes. Two fields have a value that says the device does not
measure them; the extended status byte packs two two-bit states and two overflow bits.
-/
import CxlMailbox.Wire

namespace CxlMailbox

set_option autoImplicit false

structure Health where
  healthStatus : UInt8 := 0
  mediaStatus : UInt8 := 0
  extendedStatus : UInt8 := 0
  lifeUsed : UInt8 := 0
  temperature : UInt16 := 0
  dirtyShutdowns : UInt32 := 0
  volatileErrors : UInt32 := 0
  persistentErrors : UInt32 := 0
  deriving DecidableEq, Repr

/-- What the media status byte means. -/
inductive MediaStatus where
  | normal
  | notReady
  | writePersistencyLost
  | allDataLost
  | powerLossPersistencyLoss
  | shutdownPersistencyLoss
  | persistencyLossImminent
  | powerLossDataLoss
  | shutdownDataLoss
  | dataLossImminent
  | reserved (byte : UInt8)
  deriving DecidableEq, Repr

namespace MediaStatus

def ofByte (byte : UInt8) : MediaStatus :=
  match byte.toNat with
  | 0 => normal
  | 1 => notReady
  | 2 => writePersistencyLost
  | 3 => allDataLost
  | 4 => powerLossPersistencyLoss
  | 5 => shutdownPersistencyLoss
  | 6 => persistencyLossImminent
  | 7 => powerLossDataLoss
  | 8 => shutdownDataLoss
  | 9 => dataLossImminent
  | _ => reserved byte

def name : MediaStatus → String
  | normal => "Normal"
  | notReady => "NotReady"
  | writePersistencyLost => "WritePersistencyLost"
  | allDataLost => "AllDataLost"
  | powerLossPersistencyLoss => "PowerLossPersistencyLoss"
  | shutdownPersistencyLoss => "ShutdownPersistencyLoss"
  | persistencyLossImminent => "PersistencyLossImminent"
  | powerLossDataLoss => "PowerLossDataLoss"
  | shutdownDataLoss => "ShutdownDataLoss"
  | dataLossImminent => "DataLossImminent"
  | reserved byte => s!"Reserved({byte})"

end MediaStatus

namespace Health

/-- Bytes of the payload. -/
def size : Nat := 18

def encode (v : Health) : Bytes :=
  le8 v.healthStatus ++ (le8 v.mediaStatus ++ (le8 v.extendedStatus ++ (le8 v.lifeUsed ++
    (le16 v.temperature ++ (le32 v.dirtyShutdowns ++ (le32 v.volatileErrors ++
      le32 v.persistentErrors))))))

def reader : Reader Health := do
  let healthStatus ← Reader.u8
  let mediaStatus ← Reader.u8
  let extendedStatus ← Reader.u8
  let lifeUsed ← Reader.u8
  let temperature ← Reader.u16
  let dirtyShutdowns ← Reader.u32
  let volatileErrors ← Reader.u32
  let persistentErrors ← Reader.u32
  return {
    healthStatus, mediaStatus, extendedStatus, lifeUsed, temperature, dirtyShutdowns,
    volatileErrors, persistentErrors }

def decode (payload : Bytes) : Except Error Health := Reader.exactly size reader payload

@[simp] theorem length_encode (v : Health) : v.encode.length = size := by simp [encode, size]

def media (v : Health) : MediaStatus := MediaStatus.ofByte v.mediaStatus

/-- Used life in percent, unless the device does not measure it. -/
def lifeUsedPercent? (v : Health) : Option UInt8 :=
  if v.lifeUsed = 0xff then none else some v.lifeUsed

/-- The temperature in degrees Celsius, unless the device does not measure it. -/
def celsius? (v : Health) : Option Int16 :=
  if v.temperature = 0xffff then none else some v.temperature.toInt16

/-- Bits 0 and 1 of the extended status. -/
def lifeUsedState (v : Health) : Nat := v.extendedStatus.toNat % 4

/-- Bits 2 and 3 of the extended status. -/
def temperatureState (v : Health) : Nat := v.extendedStatus.toNat / 4 % 4

/-- Bit 4: more corrected volatile errors than the threshold. -/
def volatileOverThreshold (v : Health) : Bool := v.extendedStatus.toNat.testBit 4

/-- Bit 5: more corrected persistent errors than the threshold. -/
def persistentOverThreshold (v : Health) : Bool := v.extendedStatus.toNat.testBit 5

end Health

end CxlMailbox
