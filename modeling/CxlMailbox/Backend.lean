/-
# CxlMailbox.Backend — the two mailbox requests, and who answers them

A backend finds memory devices and answers two requests about them: the catalog query and the
send. It is a record of functions over a state of its own, so every possible behaviour of a
driver and device is a value of `Backend δ`, whether emulated, played from a script or read from
the host.

What a backend writes into a buffer is laid over the buffer's front (`overlay`): it can change
any byte of it but never its length. This also holds when the request fails.
-/
import CxlMailbox.Catalog
import CxlMailbox.Device
import CxlMailbox.Error
import CxlMailbox.World

namespace CxlMailbox

set_option autoImplicit false

/-- A send as the driver gets it. -/
structure SendRequest where
  id : UInt32
  /-- The mailbox opcode of a raw command, 0 for all others. -/
  rawOpcode : UInt16
  input : Bytes
  /-- The output buffer as it is before the send. -/
  output : Bytes
  /-- The output size on entry. -/
  outSize : UInt32
  /-- The return word on entry. -/
  returnWord : UInt32 := 0
  deriving DecidableEq, Repr

namespace SendRequest

/-- A request whose output size starts at the size of the output buffer. -/
def ofBuffers (id : UInt32) (rawOpcode : UInt16) (input output : Bytes) : SendRequest :=
  { id, rawOpcode, input, output
    outSize := if output.length < UInt32.size then UInt32.ofNat output.length else 0xffffffff }

end SendRequest

/-- What a completed send reports. -/
structure Receipt where
  /-- How many bytes of output the device says it has produced. -/
  outSize : UInt32
  /-- The device's return code as a word. -/
  returnWord : UInt32
  deriving DecidableEq, Repr

/-- The answer to a send. -/
structure SendReply (δ : Type) where
  verdict : Except Error Receipt
  /-- The bytes laid over the front of the output buffer. -/
  written : Bytes := []
  device : δ
  log : List LogLine := []

/-- The answer to a catalog query. -/
structure QueryReply (δ : Type) where
  /-- The count in front of the entries, as the driver leaves it. -/
  verdict : Except Error UInt32
  /-- The entries laid over the first slots. -/
  written : List CatalogEntry := []
  device : δ
  log : List LogLine := []

/-- The answer to a search for devices. -/
structure Discovery (δ : Type) where
  found : List DeviceInfo
  device : δ
  log : List LogLine := []

/-- Finds devices and answers the two mailbox requests. The files of the host are visible to
it, but only to read. -/
structure Backend (δ : Type) where
  discover : FileTree → δ → Discovery δ
  query : FileTree → DeviceInfo → QueryBuffer → δ → QueryReply δ
  send : FileTree → DeviceInfo → SendRequest → δ → SendReply δ

namespace Backend

variable {δ : Type}

/-- Searches for devices. -/
def runDiscovery (backend : Backend δ) : StateM (World δ) (List DeviceInfo) := fun world =>
  let reply := backend.discover world.files world.device
  (reply.found, { world with device := reply.device, log := world.log ++ reply.log })

/-- Sends a catalog query; the buffer is left as the backend wrote it. -/
def runQuery (backend : Backend δ) (info : DeviceInfo) (buffer : QueryBuffer) :
    StateM (World δ) (Except Error Unit × QueryBuffer) := fun world =>
  let reply := backend.query world.files info buffer world.device
  let world := { world with device := reply.device, log := world.log ++ reply.log }
  match reply.verdict with
  | .ok count => ((.ok (), buffer.fill count reply.written), world)
  | .error e => ((.error e, buffer.fill buffer.count reply.written), world)

/-- Sends a command; the output is left as the backend wrote it. -/
def runSend (backend : Backend δ) (info : DeviceInfo) (request : SendRequest) :
    StateM (World δ) (Except Error Receipt × Bytes) := fun world =>
  let reply := backend.send world.files info request world.device
  ((reply.verdict, overlay reply.written request.output),
    { world with device := reply.device, log := world.log ++ reply.log })

end Backend

end CxlMailbox
