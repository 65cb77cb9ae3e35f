/-
# CxlMailbox.Payload.Alert — alert configuration

The configuration a device reports takes 16 bytes, the request that changes it 12. A request
names the alerts it is about, and for these carries a threshold and an enable bit; the byte
between the life threshold and the temperatures is reserved.
-/
import CxlMailbox.FlagSet
import CxlMailbox.Wire

namespace CxlMailbox

set_option autoImplicit false

namespace AlertBit

/-- The bit of the life used warning; the other alerts follow in the order of their flags. -/
def lifeUsed : UInt8 := 1
def overTemperature : UInt8 := 2
def underTemperature : UInt8 := 4
def volatileErrors : UInt8 := 8
def persistentErrors : UInt8 := 16

/-- Every named alert. -/
def all : UInt8 := 31

end AlertBit

/-- Whether every bit of `bits` is set in `mask`. -/
def covers (mask bits : UInt8) : Bool := mask &&& bits == bits

/-- The configuration of the alerts as the device reports it. -/
structure AlertConfig where
  validAlerts : UInt8 := 0
  programmableAlerts : UInt8 := 0
  lifeUsedCritical : UInt8 := 0
  lifeUsedWarning : UInt8 := 0
  overTemperatureCritical : UInt16 := 0
  underTemperatureCritical : UInt16 := 0
  overTemperatureWarning : UInt16 := 0
  underTemperatureWarning : UInt16 := 0
  volatileErrorsWarning : UInt16 := 0
  persistentErrorsWarning : UInt16 := 0
  deriving DecidableEq, Repr

namespace AlertConfig

/-- Bytes of the payload. -/
def size : Nat := 16

def encode (v : AlertConfig) : Bytes :=
  le8 v.validAlerts ++ (le8 v.programmableAlerts ++ (le8 v.lifeUsedCritical ++
    (le8 v.lifeUsedWarning ++ (le16 v.overTemperatureCritical ++
      (le16 v.underTemperatureCritical ++ (le16 v.overTemperatureWarning ++
        (le16 v.underTemperatureWarning ++ (le16 v.volatileErrorsWarning ++
          le16 v.persistentErrorsWarning))))))))

def reader : Reader AlertConfig := do
  let validAlerts ← Reader.u8
  let programmableAlerts ← Reader.u8
  let lifeUsedCritical ← Reader.u8
  let lifeUsedWarning ← Reader.u8
  let overTemperatureCritical ← Reader.u16
  let underTemperatureCritical ← Reader.u16
  let overTemperatureWarning ← Reader.u16
  let underTemperatureWarning ← Reader.u16
  let volatileErrorsWarning ← Reader.u16
  let persistentErrorsWarning ← Reader.u16
  return {
    validAlerts, programmableAlerts, lifeUsedCritical, lifeUsedWarning, overTemperatureCritical,
    underTemperatureCritical, overTemperatureWarning, underTemperatureWarning,
    volatileErrorsWarning, persistentErrorsWarning }

def decode (payload : Bytes) : Except Error AlertConfig := Reader.exactly size reader payload

@[simp] theorem length_encode (v : AlertConfig) : v.encode.length = size := by
  simp [encode, size]

end AlertConfig

/-- A request to change warning thresholds and to enable or disable warnings. -/
structure AlertRequest where
  /-- The alerts the request is about. -/
  validActions : UInt8 := 0
  /-- Those of them that are to be enabled. -/
  enableActions : UInt8 := 0
  lifeUsedWarning : UInt8 := 0
  overTemperatureWarning : UInt16 := 0
  underTemperatureWarning : UInt16 := 0
  volatileErrorsWarning : UInt16 := 0
  persistentErrorsWarning : UInt16 := 0
  deriving DecidableEq, Repr

namespace AlertRequest

/-- Bytes of the payload. -/
def size : Nat := 12

def encode (v : AlertRequest) : Bytes :=
  le8 v.validActions ++ (le8 v.enableActions ++ (le8 v.lifeUsedWarning ++ (le8 0 ++
    (le16 v.overTemperatureWarning ++ (le16 v.underTemperatureWarning ++
      (le16 v.volatileErrorsWarning ++ le16 v.persistentErrorsWarning))))))

def reader : Reader AlertRequest := do
  let validActions ← Reader.u8
  let enableActions ← Reader.u8
  let lifeUsedWarning ← Reader.u8
  Reader.skip 1
  let overTemperatureWarning ← Reader.u16
  let underTemperatureWarning ← Reader.u16
  let volatileErrorsWarning ← Reader.u16
  let persistentErrorsWarning ← Reader.u16
  return {
    validActions, enableActions, lifeUsedWarning, overTemperatureWarning,
    underTemperatureWarning, volatileErrorsWarning, persistentErrorsWarning }

def decode (payload : Bytes) : Except Error AlertRequest := Reader.exactly size reader payload

@[simp] theorem length_encode (v : AlertRequest) : v.encode.length = size := by
  simp [encode, size]

end AlertRequest

/-- The configuration after a request: for every alert the request is about, its threshold and
its enable bit are those of the request; all else stays. -/
def AlertConfig.apply (config : AlertConfig) (request : AlertRequest) : AlertConfig :=
  let about := request.validActions
  { config with
    lifeUsedWarning :=
      if covers about AlertBit.lifeUsed then request.lifeUsedWarning else config.lifeUsedWarning
    overTemperatureWarning :=
      if covers about AlertBit.overTemperature then request.overTemperatureWarning
      else config.overTemperatureWarning
    underTemperatureWarning :=
      if covers about AlertBit.underTemperature then request.underTemperatureWarning
      else config.underTemperatureWarning
    volatileErrorsWarning :=
      if covers about AlertBit.volatileErrors then request.volatileErrorsWarning
      else config.volatileErrorsWarning
    persistentErrorsWarning :=
      if covers about AlertBit.persistentErrors then request.persistentErrorsWarning
      else config.persistentErrorsWarning
    validAlerts := (config.validAlerts &&& ~~~about) ||| (request.enableActions &&& about) }

end CxlMailbox
