/-
# CxlMailbox.Device — what is known of a memory device

Discovery records a memory device once: its number and name, the numbers of its device node, its
sizes, and where its attributes and its node are. The record never changes afterwards; before
anything is sent, a backend checks that the node still has the recorded numbers.
-/
import CxlMailbox.Text.Quoted

namespace CxlMailbox

set_option autoImplicit false

structure DeviceInfo where
  /-- The number in the device's name. -/
  id : UInt32 := 0
  name : String := ""
  /-- Numbers of the device node. -/
  major : UInt64 := 0
  minor : UInt64 := 0
  /-- Capacities in bytes. -/
  persistentSize : UInt64 := 0
  volatileSize : UInt64 := 0
  /-- Most bytes of a mailbox payload. -/
  payloadMax : UInt32 := 0
  /-- Bytes of the label storage area. -/
  labelAreaSize : UInt32 := 0
  firmwareVersion : String := ""
  /-- Directory of the device's attributes. -/
  attributePath : String := ""
  /-- Path of the device node. -/
  nodePath : String := ""
  deriving DecidableEq, Repr, Inhabited

namespace DeviceInfo

open Text in
/-- The record in one line, for diagnosis. -/
def debugText (info : DeviceInfo) : String :=
  let fields :=
    [("id", toString info.id), ("devname", quoted info.name), ("major", toString info.major),
      ("minor", toString info.minor), ("pmem_size", toString info.persistentSize),
      ("ram_size", toString info.volatileSize), ("payload_max", toString info.payloadMax),
      ("lsa_size", toString info.labelAreaSize),
      ("firmware_version", quoted info.firmwareVersion),
      ("sysfs_path", quoted info.attributePath), ("dev_path", quoted info.nodePath)]
  let inner := String.intercalate ", " (fields.map fun field => field.1 ++ ": " ++ field.2)
  "Memdev \x7b info: MemdevInfo \x7b " ++ inner ++ " \x7d \x7d"

end DeviceInfo

end CxlMailbox
