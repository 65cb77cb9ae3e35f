/-
# CxlMailbox.CommandLine.Listing — the list of devices

Devices are listed as a table with one line for each, or as a JSON array for other programs. The
table rounds sizes down to whole units; the array has them in bytes.
-/
import CxlMailbox.Device

namespace CxlMailbox.CommandLine

set_option autoImplicit false

/-- The binary units of sizes, largest first. -/
def sizeUnits : List (Nat × String) :=
  [(0x40000000, "GiB"), (0x100000, "MiB"), (0x400, "KiB"), (1, "B")]

/-- A size in the largest binary unit of which it has at least one, rounded down. -/
def sizeText (bytes : Nat) : String :=
  match sizeUnits.find? fun unit => unit.1 ≤ bytes with
  | some (unit, symbol) => s!"{bytes / unit} {symbol}"
  | none => "0 B"

namespace Listing

/-! ## Table -/

/-- Columns side by side: the first starts at the left margin, the next five end at their right
margins, and the last is as wide as its text. -/
def row (name node persistent volatile payload labels firmware : String) : String :=
  let right := Text.padLeft 10 ' '
  String.intercalate " "
    [Text.padRight 8 name, Text.padLeft 8 ' ' node, right persistent, right volatile,
      right payload, right labels] ++ "  " ++ firmware

/-- The line of a device. -/
def deviceRow (info : DeviceInfo) : String :=
  row info.name s!"{info.major}:{info.minor}" (sizeText info.persistentSize.toNat)
    (sizeText info.volatileSize.toNat) (sizeText info.payloadMax.toNat)
    (sizeText info.labelAreaSize.toNat) info.firmwareVersion

/-- The lines of the table. -/
def table : List DeviceInfo → List String
  | [] => ["No CXL memory devices found"]
  | devices =>
    row "Memdev" "Node" "PMEM" "RAM" "Payload" "LSA" "Firmware" ::
      "".pushn '-' 76 :: devices.map deviceRow

/-! ## JSON -/

/-- A character inside a JSON string. -/
def jsonChar (c : Char) : String :=
  if c = '"' then "\\\""
  else if c = '\\' then "\\\\"
  else if c = '\n' then "\\n"
  else if c = '\r' then "\\r"
  else if c = '\t' then "\\t"
  else if c = '\x08' then "\\b"
  else if c = '\x0c' then "\\f"
  else if c.toNat < 0x20 then "\\u" ++ Text.hexDigits 4 c.toNat
  else String.singleton c

/-- A JSON string. -/
def jsonString (text : String) : String :=
  "\"" ++ String.join (text.toList.map jsonChar) ++ "\""

/-- Keys and values of a device. -/
def jsonFields (info : DeviceInfo) : List (String × String) :=
  [("memdev", jsonString info.name), ("id", toString info.id), ("major", toString info.major),
    ("minor", toString info.minor), ("pmem_size", toString info.persistentSize),
    ("ram_size", toString info.volatileSize), ("payload_max", toString info.payloadMax),
    ("label_storage_size", toString info.labelAreaSize),
    ("firmware_version", jsonString info.firmwareVersion)]

/-- A device as a JSON object, two levels deep. -/
def jsonObject (info : DeviceInfo) : String :=
  let member (field : String × String) := "    " ++ jsonString field.1 ++ ": " ++ field.2
  "  \x7b\n" ++ String.intercalate ",\n" ((jsonFields info).map member) ++ "\n  \x7d"

/-- Devices as a JSON array. -/
def json : List DeviceInfo → String
  | [] => "[]"
  | devices => "[\n" ++ String.intercalate ",\n" (devices.map jsonObject) ++ "\n]"

end Listing

end CxlMailbox.CommandLine
