/-
# CxlMailbox.Catalog — commands a device supports

A device reports its commands as a catalog: for each command the driver's id, capability flags
and the declared payload sizes, `-1` for a size that varies up to the device's maximum.

The catalog is fetched into a `QueryBuffer`, a count in front of entry slots. `reported` is what
the buffer says, never more than it has slots for; `fill` lays the entries that a driver wrote
over the first slots, and `reported_fill` says which entries the buffer then reports.
-/
import CxlMailbox.Bytes

namespace CxlMailbox

set_option autoImplicit false

/-! ## Command ids -/

namespace CommandId

def invalid : UInt32 := 0
def identify : UInt32 := 1
/-- The pass-through command, which carries a mailbox opcode of the caller's choice. -/
def raw : UInt32 := 2
def getSupportedLogs : UInt32 := 3
def getFirmwareInfo : UInt32 := 4
def getLabels : UInt32 := 6
def getHealthInfo : UInt32 := 7
def getLog : UInt32 := 8
def setLabels : UInt32 := 10
def getAlertConfig : UInt32 := 11
def setAlertConfig : UInt32 := 12

/-- The names of the ids, from id 0 on. -/
def names : List String :=
  ["Invalid Command", "Identify Command", "Raw device command", "Get Supported Logs",
    "Get FW Info", "Get Partition Information", "Get Label Storage Area", "Get Health Info",
    "Get Log", "Set Partition Information", "Set Label Storage Area", "Get Alert Configuration",
    "Set Alert Configuration", "Get Shutdown State", "Set Shutdown State", "Get Poison List",
    "Inject Poison", "Clear Poison", "Get Scan Media Capabilities", "Scan Media",
    "Get Scan Media Results"]

/-- The name of an id. -/
def name (id : UInt32) : String := names[id.toNat]?.getD "Unknown Command"

end CommandId

/-! ## Mailbox opcodes of raw commands -/

namespace Opcode

def getEventPolicy : UInt16 := 0x0102
def setEventPolicy : UInt16 := 0x0103
def getFirmwareInfo : UInt16 := 0x0200
def getTimestamp : UInt16 := 0x0300
def setTimestamp : UInt16 := 0x0301
def backgroundStatus : UInt16 := 0xcd00
def transferFirmware : UInt16 := 0xcd01
def activateFirmware : UInt16 := 0xcd02

end Opcode

/-! ## Catalog entries -/

/-- A declared payload size that varies up to the device's maximum. -/
def variableSize : Int32 := -1

/-- One supported command. -/
structure CatalogEntry where
  id : UInt32 := 0
  flags : UInt32 := 0
  /-- Declared input size, negative for a variable one. -/
  sizeIn : Int32 := 0
  /-- Declared output size, negative for a variable one. -/
  sizeOut : Int32 := 0
  deriving DecidableEq, Repr, Inhabited

namespace CatalogEntry

/-- An entry the driver passes through. -/
def enabled (id : UInt32) (sizeIn sizeOut : Int32) : CatalogEntry :=
  { id, flags := 1, sizeIn, sizeOut }

end CatalogEntry

/-! ## Catalog queries -/

/-- The buffer of a catalog query: a count, and slots for the entries. With count zero the
driver answers with the number of its commands, otherwise it fills the slots. -/
structure QueryBuffer where
  count : UInt32
  slots : List CatalogEntry
  deriving DecidableEq, Repr

namespace QueryBuffer

/-- Slots for `count` entries, none filled. -/
def withCapacity (count : UInt32) : QueryBuffer :=
  { count, slots := List.replicate count.toNat {} }

/-- The number of slots. -/
def capacity (buffer : QueryBuffer) : Nat := buffer.slots.length

/-- How many entries a driver is asked for. -/
def requested (buffer : QueryBuffer) : Nat := min buffer.count.toNat buffer.slots.length

/-- The entries the buffer reports. -/
def reported (buffer : QueryBuffer) : List CatalogEntry := buffer.slots.take buffer.count.toNat

/-- The buffer after a driver has set the count and written entries to the first slots. -/
def fill (buffer : QueryBuffer) (count : UInt32) (written : List CatalogEntry) : QueryBuffer :=
  { count, slots := overlay written buffer.slots }

/-- A driver that fills every slot is reported entry by entry. -/
theorem reported_fill {buffer : QueryBuffer} {written : List CatalogEntry}
    (h : written.length = buffer.capacity) (count : UInt32) :
    (buffer.fill count written).reported = written.take count.toNat := by
  simp [fill, reported, overlay_of_length_eq h]

end QueryBuffer

end CxlMailbox
