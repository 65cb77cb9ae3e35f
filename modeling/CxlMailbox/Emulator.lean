/-
# CxlMailbox.Emulator — a backend of emulated devices

Requests go to the first device with the number in the caller's record. Before the device sees a
request, its node is compared with the record: a node that was replaced is refused.
-/
import CxlMailbox.Emulator.Device

namespace CxlMailbox

set_option autoImplicit false

/-- Emulated devices in the order of discovery. -/
structure Emulator where
  devices : List EmulatedDevice
  discoverCalls : Nat := 0
  deriving DecidableEq, Repr

namespace Emulator

/-- Devices that are switched on. -/
def ofConfigs (configs : List DeviceConfig) : Emulator := { devices := configs.map .powerOn }

/-- The device with a number. -/
def device? (e : Emulator) (id : UInt32) : Option EmulatedDevice :=
  e.devices.find? fun d => d.config.id == id

/-- Changes the first device that satisfies a condition. -/
def updateFirst (p : EmulatedDevice → Bool) (f : EmulatedDevice → EmulatedDevice) :
    List EmulatedDevice → List EmulatedDevice
  | [] => []
  | d :: rest => if p d then f d :: rest else d :: updateFirst p f rest

/-- Changes the device with a number, if there is one. -/
def update (e : Emulator) (id : UInt32) (f : EmulatedDevice → EmulatedDevice) : Emulator :=
  { e with devices := updateFirst (fun d => d.config.id == id) f e.devices }

/-! ## Injected faults -/

/-- Every command returns the status, or none any more. -/
def forceStatus (e : Emulator) (id : UInt32) (status : Option UInt32) : Emulator :=
  e.update id fun d => { d with forcedStatus := status }

/-- At most so many bytes of every response are delivered, or all again. -/
def limitOutput (e : Emulator) (id : UInt32) (limit : Option UInt32) : Emulator :=
  e.update id fun d => { d with outputLimit := limit }

/-- The node becomes that of another device. -/
def replaceNode (e : Emulator) (id : UInt32) : Emulator :=
  e.update id fun d => { d with nodeMinor := d.config.minor + 1000 }

/-! ## The backend -/

/-- The device a record stands for, once its node was checked; else the failure, with the line
that is logged about it. -/
def deviceFor (e : Emulator) (info : DeviceInfo) :
    Except (Error × List LogLine) EmulatedDevice :=
  match e.device? info.id with
  | none => .error (.transport info.nodePath "no such device", [])
  | some d =>
    if d.config.major = info.major ∧ d.nodeMinor = info.minor then .ok d
    else .error (.deviceNodeInvalid info.nodePath,
      [⟨.error, s!"{info.name}: node is {d.config.major}:{d.nodeMinor}, " ++
        s!"expected {info.major}:{info.minor}"⟩])

/-- The emulated devices as a backend. -/
def backend : Backend Emulator where
  discover _ e :=
    { found := e.devices.map (·.config.info)
      device := { e with discoverCalls := e.discoverCalls + 1 } }
  query _ info buffer e :=
    match e.deviceFor info with
    | .error (fault, log) => { verdict := .error fault, device := e, log }
    | .ok d =>
      let reply := d.query buffer
      { reply with device := e.update info.id fun _ => reply.device }
  send _ info request e :=
    match e.deviceFor info with
    | .error (fault, log) => { verdict := .error fault, device := e, log }
    | .ok d =>
      let reply := d.send info request
      { reply with device := e.update info.id fun _ => reply.device }

end Emulator

end CxlMailbox
