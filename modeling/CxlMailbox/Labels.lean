/-
# CxlMailbox.Labels — the label storage area

The label area of a device is read, written and zeroed by ranges. A length of zero reaches from
the offset to the end of the area. A range outside the area, or a caller's buffer shorter than
the range, is refused before the device is asked; after that each operation sends one command,
and every status but success is a failure.
-/
import CxlMailbox.Session

namespace CxlMailbox

set_option autoImplicit false

namespace Labels

variable {δ : Type}

/-- Bytes in front of the data of a write, and of a whole read request. -/
def headerSize : Nat := 8

/-- The length of a range that lies within the label area. -/
def resolveLength (info : DeviceInfo) (offset length : UInt32) : Except ArgumentFault Nat :=
  let area := info.labelAreaSize
  if length = 0 ∧ area ≤ offset then .error (.offsetBeyondArea offset area)
  else
    let n := if length = 0 then area.toNat - offset.toNat else length.toNat
    if area.toNat < offset.toNat + n then .error (.rangeExceedsArea offset (UInt32.ofNat n) area)
    else .ok n

/-- The input of a read: where, and how much. -/
def readHeader (offset : UInt32) (n : Nat) : Bytes := le32 offset ++ le32 (UInt32.ofNat n)

/-- The input of a write: where, four reserved bytes, and the data. -/
def writeInput (offset : UInt32) (data : Bytes) : Bytes := le32 offset ++ (Bytes.zeros 4 ++ data)

/-- Fails unless the last send ended with success. -/
def requireSuccess (operation : String) : Drive δ Unit := do
  let c ← Session.current
  match c.status with
  | none => throw (.invalidState .notSubmitted)
  | some status =>
    if !status.isSuccess then
      Session.log .error s!"{c.device.name}: lsa {operation}: {status.description}"
      throw (.labelStatus status)

/-- The announcement of an operation on a resolved range. -/
def announce (info : DeviceInfo) (operation : String) (offset : UInt32) (n : Nat) :
    StateM (World δ) Unit :=
  note .debug (s!"{info.name}: lsa {operation}: offset {Text.hexNumeral 1 offset.toNat} " ++
    s!"length {Text.hexNumeral 1 n}")

/-- Reads `n` label bytes straight into the front of the caller's buffer. -/
def fetch (backend : Backend δ) (buffer : Bytes) (offset : UInt32) (n : Nat) : Drive δ Unit := do
  Session.prepare backend CommandId.getLabels
  Session.setInput none headerSize
  let _ ← Session.writeInput (readHeader offset n)
  Session.setOutput (some buffer) n
  let _ ← Session.submit backend
  requireSuccess "get"
  let c ← Session.current
  if c.outSize < n then
    Session.log .error s!"{c.device.name}: lsa get: device returned {c.outSize} of {n} bytes"
    throw (.shortPayload n c.outSize)

/-- Writes `n` label bytes, those of `data` and then zeros. -/
def store (backend : Backend δ) (data : Bytes) (offset : UInt32) (n : Nat) : Drive δ Unit := do
  Session.prepare backend CommandId.setLabels
  Session.setInput none (headerSize + n)
  let _ ← Session.writeInput (writeInput offset data)
  let _ ← Session.submit backend
  requireSuccess "set"

/-- Reads a range of the label area into the front of the caller's buffer. The buffer comes back
after a failure, too, with whatever the device has written to it. -/
def read (backend : Backend δ) (info : DeviceInfo) (buffer : Bytes) (offset length : UInt32) :
    StateM (World δ) (Except Error Unit × Bytes) := do
  match resolveLength info offset length with
  | .error fault => return (.error (.invalidArgument fault), buffer)
  | .ok n =>
    announce info "get" offset n
    if buffer.length < n then
      return (.error (.invalidArgument (.shortLabelBuffer .output n)), buffer)
    let (answer, command) ← (fetch backend buffer offset n).onDevice info
    return (answer, command.output.lender?.getD buffer)

/-- Writes the front of `data` to a range of the label area. -/
def write (backend : Backend δ) (info : DeviceInfo) (data : Bytes) (offset length : UInt32) :
    Task δ Error Unit := do
  match resolveLength info offset length with
  | .error fault => throw (.invalidArgument fault)
  | .ok n =>
    ExceptT.lift (announce info "set" offset n)
    if data.length < n then throw (.invalidArgument (.shortLabelBuffer .input n))
    (store backend (data.take n) offset n).once info

/-- Zeroes a range of the label area. -/
def zero (backend : Backend δ) (info : DeviceInfo) (offset length : UInt32) :
    Task δ Error Unit := do
  match resolveLength info offset length with
  | .error fault => throw (.invalidArgument fault)
  | .ok n =>
    ExceptT.lift (announce info "zero" offset n)
    (store backend [] offset n).once info

end Labels

end CxlMailbox
