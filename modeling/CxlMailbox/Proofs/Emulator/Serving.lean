/-
# CxlMailbox.Proofs.Emulator.Serving — an emulated device that serves a command

`Emulator.Holds e config area` says that the device of a configuration is there, without injected
faults and with the label area `area`.  Commands keep it, up to the area:

* `holds_of_powerOn`: an emulator that is switched on holds every device, its label area zero;
* `serves`: it serves its catalog;
* `prepare_emulated` makes a command from the first offered entry with its id;
* `send_answers` and `send_succeeds` are the sends of commands that read and that write.
-/
import CxlMailbox.Proofs.Emulator.Hosting

namespace CxlMailbox

set_option autoImplicit false

/-! ## The device of a configuration -/

/-- The device of a configuration with a label area, and without injected faults. -/
structure EmulatedDevice.Holds (d : EmulatedDevice) (config : DeviceConfig) (area : Bytes) :
    Prop where
  configured : d.config = config
  labels : d.labels = area
  forcedStatus : d.forcedStatus = none
  outputLimit : d.outputLimit = none
  nodeMinor : d.nodeMinor = config.minor

theorem EmulatedDevice.Holds.intact {d : EmulatedDevice} {config : DeviceConfig} {area : Bytes}
    (held : d.Holds config area) : d.Intact :=
  ⟨held.forcedStatus, held.outputLimit, held.nodeMinor.trans (congrArg _ held.configured.symm)⟩

namespace Emulator

variable {e : Emulator} {config : DeviceConfig} {area : Bytes} {d : EmulatedDevice}

/-- The emulator answers for a configuration with such a device. -/
def Holds (e : Emulator) (config : DeviceConfig) (area : Bytes) : Prop :=
  ∃ d, e.device? config.id = some d ∧ d.Holds config area

/-- Devices that are switched on have zeros as labels; of several with one number, the first
answers. -/
theorem holds_of_powerOn {configs : List DeviceConfig}
    (first : configs.find? (fun other => other.id == config.id) = some config)
    (started : e.devices = configs.map .powerOn) :
    e.Holds config (Bytes.zeros config.labelAreaSize.toNat) :=
  ⟨.powerOn config, (Hosts.of_powerOn first started).found, rfl, rfl, rfl, rfl, rfl⟩

theorem holds_iff : e.Holds config area ↔ ∃ d, e.Hosts config d ∧ d.Holds config area := by
  constructor
  · rintro ⟨d, found, held⟩
    exact ⟨d, ⟨found, held.configured⟩, held⟩
  · rintro ⟨d, hosts, held⟩
    exact ⟨d, hosts.found, held⟩

/-- A device serves its catalog, and goes on doing so. -/
theorem serves (config : DeviceConfig) (area : Bytes) :
    backend.Serves config.info config.catalog fun e => e.Holds config area := by
  simp only [holds_iff]
  exact serves_where (fun _ held => held.nodeMinor) fun _ _ held => { held with }

end Emulator

/-! ## Commands -/

namespace Emulator

variable {config : DeviceConfig} {area : Bytes}

/-- A command for an offered entry is made up to its payloads, which may be too large. -/
theorem prepare_emulated {world : World Emulator} (holds : world.device.Holds config area)
    {id : UInt32} {entry : CatalogEntry}
    (offered : config.offered.find? (fun entry => entry.id == id) = some entry) :
    ∃ index world', Holds world'.device config area ∧
      let c := Command.matched config.info config.offered id index
      c.entry? = some entry ∧ entry.id = id ∧
      Session.prepare backend id ⟨.unvalidated config.info, world⟩ =
        ((c.allocSend id).1, ⟨(c.allocSend id).2, world'⟩) := by
  obtain ⟨same, index, here, validated⟩ := Command.validate_first config.info offered
  obtain ⟨held, log, ran⟩ := Session.prepare_served (serves config area) world holds id
  let s : Session Emulator := ⟨.unvalidated config.info, world⟩
  refine ⟨index, (s.moved _ log).world, held, here, same, ran.trans ?_⟩
  rw [show reachablePart config.catalog = config.offered from rfl, Command.construct, validated]
  rfl

/-! ## Sends -/

theorem Holds.replaced {e : Emulator} (holds : e.Holds config area) {d : EmulatedDevice}
    {area' : Bytes} (held : d.Holds config area') :
    (e.update config.id fun _ => d).Holds config area' := by
  obtain ⟨_, found, _⟩ := holds
  exact ⟨d, device?_update found held.configured, held⟩

variable {request : SendRequest}

/-- A send that the driver lets through is carried out by the device. -/
theorem send_delivers {e : Emulator} (holds : e.Holds config area) (files : FileTree)
    (passes : ∀ d : EmulatedDevice, d.config = config → d.driverFault? request = none) :
    ∃ d : EmulatedDevice, d.Holds config area ∧ ∃ log,
      backend.send files config.info request e =
        { verdict := .ok (d.deliver request).receipt, written := (d.deliver request).written
          device := e.update config.id fun _ => (d.deliver request).device, log } := by
  obtain ⟨d, hosts, held⟩ := holds_iff.mp holds
  obtain ⟨log, sent⟩ := d.send_carried config.info (passes d held.configured)
  refine ⟨d.called, { held with }, log, ?_⟩
  rw [send_reached hosts.found (hosts.hasNode_iff.mpr held.nodeMinor), sent]
  rfl

/-- A command that reads is answered with its response, if the output has room for it. -/
theorem send_answers {e : Emulator} (holds : e.Holds config area) (files : FileTree)
    (passes : ∀ d : EmulatedDevice, d.config = config → d.driverFault? request = none)
    (response : Bytes) (room : response.length ≤ request.output.length)
    (executes : ∀ d : EmulatedDevice, d.Holds config area →
      d.execute request.id request.rawOpcode request.input = d.answers response) :
    ∃ e' log, Holds e' config area ∧ backend.send files config.info request e =
      { verdict := .ok ⟨UInt32.ofNat response.length, 0⟩, written := response
        device := e', log } := by
  obtain ⟨d, held, log, sent⟩ := send_delivers holds files passes
  obtain ⟨executed, delivered⟩ := held.intact.deliver (executes d held)
    fun _ answered => by cases answered; exact room
  rw [delivered] at sent
  exact ⟨_, log, holds.replaced held, sent⟩

/-- A command that writes reports success and delivers nothing. -/
theorem send_succeeds {e : Emulator} {area' : Bytes} (holds : e.Holds config area)
    (files : FileTree)
    (passes : ∀ d : EmulatedDevice, d.config = config → d.driverFault? request = none)
    (executes : ∀ d : EmulatedDevice, d.Holds config area → ∃ d', d'.Holds config area' ∧
      d.execute request.id request.rawOpcode request.input = EmulatedDevice.succeeds d') :
    ∃ e' log, Holds e' config area' ∧ backend.send files config.info request e =
      { verdict := .ok ⟨0, 0⟩, device := e', log } := by
  obtain ⟨d, held, log, sent⟩ := send_delivers holds files passes
  obtain ⟨d', held', executed⟩ := executes d held
  obtain ⟨status, delivered⟩ := held.intact.deliver executed nofun
  rw [delivered] at sent
  exact ⟨_, log, holds.replaced held', sent⟩

end Emulator

end CxlMailbox
