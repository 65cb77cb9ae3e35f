/-
# CxlMailbox.Registry — the devices of a program

A registry searches for devices once, when they are first asked for, and keeps what it found: of
several devices with one number the first (`firstById`), in the order of discovery. All handles
of a registry share this list; when the last handle goes, the registry is released.
-/
import CxlMailbox.Backend

namespace CxlMailbox

set_option autoImplicit false

structure Registry where
  /-- The devices, once they were searched for. -/
  known? : Option (List DeviceInfo) := none
  /-- How many handles there are. -/
  handles : Nat := 1
  deriving DecidableEq, Repr

namespace Registry

variable {δ : Type}

/-- The devices of a list whose number none before them has, those in `seen` counted. -/
def firstById (seen : List UInt32) : List DeviceInfo → List DeviceInfo
  | [] => []
  | info :: rest =>
    if info.id ∈ seen then firstById seen rest
    else info :: firstById (info.id :: seen) rest

/-- The lines that tell which devices of a list are kept. -/
def keptLines (seen : List UInt32) : List DeviceInfo → List LogLine
  | [] => []
  | info :: rest =>
    if info.id ∈ seen then
      ⟨.debug, s!"{info.name}: duplicate memdev id {info.id}, keeping first"⟩ ::
        keptLines seen rest
    else
      ⟨.debug, s!"{info.name}: pmem {info.persistentSize} ram {info.volatileSize} " ++
        s!"payload_max {info.payloadMax} lsa {info.labelAreaSize}"⟩ ::
        keptLines (info.id :: seen) rest

/-- A registry over a backend, with one handle. -/
def create : StateM (World δ) Registry := do
  note .info "context created"
  return {}

/-- The devices; the first call searches for them. -/
def devices (backend : Backend δ) (registry : Registry) :
    StateM (World δ) (List DeviceInfo × Registry) := do
  match registry.known? with
  | some known => return (known, registry)
  | none =>
    let found ← backend.runDiscovery
    modify fun world => { world with log := world.log ++ keptLines [] found }
    let known := firstById [] found
    return (known, { registry with known? := some known })

/-- The device with a number. -/
def byId? (known : List DeviceInfo) (id : UInt32) : Option DeviceInfo :=
  known.find? fun info => info.id == id

/-- The device that a text names: by its number if the text is one, else by its name. -/
def find? (known : List DeviceInfo) (name : String) : Option DeviceInfo :=
  match Text.readNumeral 10 UInt32.size name.toList with
  | .ok id => byId? known (UInt32.ofNat id)
  | .error _ => known.find? fun info => info.name == name

/-- One more handle. -/
def clone (registry : Registry) : Registry := { registry with handles := registry.handles + 1 }

/-- One handle less; with the last one the registry is released. -/
def drop (registry : Registry) : StateM (World δ) Registry := do
  if registry.handles = 1 then
    note .info s!"context released ({(registry.known?.getD []).length} memdevs)"
  return { registry with handles := registry.handles - 1 }

/-- The registry in one line, for diagnosis. -/
def debugText (registry : Registry) : String :=
  "Context \x7b enumerated: " ++ toString registry.known?.isSome ++ ", refs: " ++
    toString registry.handles ++ " \x7d"

end Registry

end CxlMailbox
