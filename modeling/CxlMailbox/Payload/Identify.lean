/-
# CxlMailbox.Payload.Identify — what a device says of itself

The answer to Identify, 67 bytes: a firmware revision, capacities in multiples of 256 MiB, the
sizes of the event logs and of the label area, and the limits on poisoned addresses. The largest
poison list is a 24-bit number on the wire.
-/
import CxlMailbox.Payload.Revision
import CxlMailbox.Wire

namespace CxlMailbox

set_option autoImplicit false

structure Identify where
  firmwareRevision : Revision := default
  totalCapacity : UInt64 := 0
  volatileCapacity : UInt64 := 0
  persistentCapacity : UInt64 := 0
  partitionAlign : UInt64 := 0
  infoLogSize : UInt16 := 0
  warningLogSize : UInt16 := 0
  failureLogSize : UInt16 := 0
  fatalLogSize : UInt16 := 0
  labelAreaSize : UInt32 := 0
  /-- Most records of a poison list; 24 bits on the wire. -/
  poisonListMax : UInt32 := 0
  injectPoisonLimit : UInt16 := 0
  poisonCaps : UInt8 := 0
  telemetryCaps : UInt8 := 0
  deriving DecidableEq, Repr

namespace Identify

/-- Bytes of the payload. -/
def size : Nat := 67

/-- The unit of the capacity fields. -/
def capacityUnit : Nat := 256 * 1024 * 1024

def encode (v : Identify) : Bytes :=
  v.firmwareRevision.bytes ++ (le64 v.totalCapacity ++ (le64 v.volatileCapacity ++
    (le64 v.persistentCapacity ++ (le64 v.partitionAlign ++ (le16 v.infoLogSize ++
      (le16 v.warningLogSize ++ (le16 v.failureLogSize ++ (le16 v.fatalLogSize ++
        (le32 v.labelAreaSize ++ (littleEndian 3 v.poisonListMax.toNat ++
          (le16 v.injectPoisonLimit ++ (le8 v.poisonCaps ++ le8 v.telemetryCaps))))))))))))

def reader : Reader Identify := do
  let firmwareRevision ← Reader.block 16
  let totalCapacity ← Reader.u64
  let volatileCapacity ← Reader.u64
  let persistentCapacity ← Reader.u64
  let partitionAlign ← Reader.u64
  let infoLogSize ← Reader.u16
  let warningLogSize ← Reader.u16
  let failureLogSize ← Reader.u16
  let fatalLogSize ← Reader.u16
  let labelAreaSize ← Reader.u32
  let poisonListMax ← Reader.word 3
  let injectPoisonLimit ← Reader.u16
  let poisonCaps ← Reader.u8
  let telemetryCaps ← Reader.u8
  return {
    firmwareRevision, totalCapacity, volatileCapacity, persistentCapacity, partitionAlign,
    infoLogSize, warningLogSize, failureLogSize, fatalLogSize, labelAreaSize,
    poisonListMax := UInt32.ofNat poisonListMax, injectPoisonLimit, poisonCaps, telemetryCaps }

def decode (payload : Bytes) : Except Error Identify := Reader.exactly size reader payload

@[simp] theorem length_encode (v : Identify) : v.encode.length = size := by
  simp [encode, size, v.firmwareRevision.length_bytes]

/-- A capacity field in bytes; a number that takes more than 64 bits is cut to the largest. -/
def inBytes (capacity : UInt64) : UInt64 :=
  UInt64.ofNat (min (capacity.toNat * capacityUnit) (UInt64.size - 1))

end Identify

end CxlMailbox
