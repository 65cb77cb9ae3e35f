/-
# CxlMailbox.Proofs.Emulator.Hosting — the device behind a record, in whatever state

`Emulator.Hosts e config d` says that the emulator answers for a configuration with the device `d`.
That asks nothing of the device: its node may be replaced, and faults may be injected. A device is
`EmulatedDevice.Intact` if neither was done to it.

* `Intact.deliver`: a device without faults delivers what its execution comes to;
* `query_reached` and `send_reached`: a request reaches the device if the record has its node;
  `query_refused` and `send_refused`: else it is refused and nothing changes;
* `prepare_hosted`: a command is made as the catalog says, or the node is refused;
* `submit_hosted`: a command that the driver lets through gets what the device delivers, or the
  node is refused.
-/
import CxlMailbox.Emulator
import CxlMailbox.Proofs.Command.Construction
import CxlMailbox.Proofs.Emulator.Frame
import CxlMailbox.Proofs.Reply

namespace CxlMailbox

set_option autoImplicit false

/-! ## Nodes -/

/-- The record has the numbers of the device's node. -/
def EmulatedDevice.HasNode (d : EmulatedDevice) (info : DeviceInfo) : Prop :=
  d.config.major = info.major ∧ d.nodeMinor = info.minor

instance (d : EmulatedDevice) (info : DeviceInfo) : Decidable (d.HasNode info) :=
  inferInstanceAs (Decidable (_ ∧ _))

theorem EmulatedDevice.SameBut.hasNode_iff {part? : Option DevicePart} {d d' : EmulatedDevice}
    (same : d.SameBut part? d') (info : DeviceInfo) : d'.HasNode info ↔ d.HasNode info := by
  rw [HasNode, HasNode, same.config, same.nodeMinor]

/-! ## Devices without faults -/

namespace EmulatedDevice

/-- No fault is injected, and the node was not replaced. -/
structure Intact (d : EmulatedDevice) : Prop where
  unforced : d.forcedStatus = none
  unlimited : d.outputLimit = none
  node : d.nodeMinor = d.config.minor

variable {d d' : EmulatedDevice}

theorem Intact.powerOn (config : DeviceConfig) : (EmulatedDevice.powerOn config).Intact :=
  ⟨rfl, rfl, rfl⟩

theorem SameBut.intact {part? : Option DevicePart} (same : d.SameBut part? d')
    (intact : d.Intact) : d'.Intact :=
  ⟨same.forcedStatus.trans intact.unforced, same.outputLimit.trans intact.unlimited, by
    rw [same.nodeMinor, same.config, intact.node]⟩

/-- What the execution comes to is delivered, if the output has room for the response. -/
theorem Intact.deliver (intact : d.Intact) {request : SendRequest} {effect : Effect}
    (executes : d.execute request.id request.rawOpcode request.input = effect)
    (room : ∀ response ∈ effect.response, response.length ≤ request.output.length) :
    ∃ executed, d.deliver request =
      ⟨⟨UInt32.ofNat (effect.response.getD []).length, effect.status.toWord⟩,
        effect.response.getD [], effect.device, executed⟩ := by
  have unlimited : effect.device.outputLimit = none := by
    rw [← executes, (d.execute_lawful request).same.outputLimit, intact.unlimited]
  simp only [EmulatedDevice.deliver, intact.unforced, executes]
  rcases answered : effect.response with _ | response
  · exact ⟨_, rfl⟩
  · simp only [Nat.not_lt.mpr (room response answered), if_false, limited, unlimited]
    exact ⟨_, rfl⟩

end EmulatedDevice

/-! ## Requests -/

namespace Emulator

variable {e : Emulator} {info : DeviceInfo} {d : EmulatedDevice}

theorem deviceFor_found (found : e.device? info.id = some d) :
    e.deviceFor info = if d.HasNode info then .ok d else
      .error (.deviceNodeInvalid info.nodePath,
        [⟨.error, s!"{info.name}: node is {d.config.major}:{d.nodeMinor}, " ++
          s!"expected {info.major}:{info.minor}"⟩]) := by
  simp only [deviceFor, found]
  rfl

theorem query_reached (found : e.device? info.id = some d) (node : d.HasNode info)
    (files : FileTree) (buffer : QueryBuffer) :
    backend.query files info buffer e =
      { d.query buffer with device := e.update info.id fun _ => (d.query buffer).device } := by
  simp only [backend, deviceFor_found found, if_pos node]

theorem query_refused (found : e.device? info.id = some d) (moved : ¬ d.HasNode info)
    (files : FileTree) (buffer : QueryBuffer) :
    ∃ log, backend.query files info buffer e =
      { verdict := .error (.deviceNodeInvalid info.nodePath), device := e, log } := by
  simp only [backend, deviceFor_found found, if_neg moved]
  exact ⟨_, rfl⟩

theorem send_reached (found : e.device? info.id = some d) (node : d.HasNode info)
    (files : FileTree) (request : SendRequest) :
    backend.send files info request e =
      { d.send info request with
        device := e.update info.id fun _ => (d.send info request).device } := by
  simp only [backend, deviceFor_found found, if_pos node]

theorem send_refused (found : e.device? info.id = some d) (moved : ¬ d.HasNode info)
    (files : FileTree) (request : SendRequest) :
    ∃ log, backend.send files info request e =
      { verdict := .error (.deviceNodeInvalid info.nodePath), device := e, log } := by
  simp only [backend, deviceFor_found found, if_neg moved]
  exact ⟨_, rfl⟩

/-! ## Hosts -/

theorem find?_updateFirst {p : EmulatedDevice → Bool} {f : EmulatedDevice → EmulatedDevice}
    {devices : List EmulatedDevice} (found : devices.find? p = some d) (kept : p (f d) = true) :
    (updateFirst p f devices).find? p = some (f d) := by
  induction devices with
  | nil => cases found
  | cons head rest ih =>
      by_cases here : p head = true
      · simp only [List.find?_cons, here, Option.some.injEq] at found
        subst found
        simp [updateFirst, here, kept]
      · simp only [List.find?_cons, here] at found
        simp [updateFirst, here, ih found]

/-- The device that is put in another's place is the one that answers from then on. -/
theorem device?_update {config : DeviceConfig} (found : e.device? config.id = some d)
    {d' : EmulatedDevice} (same : d'.config = config) :
    (e.update config.id fun _ => d').device? config.id = some d' :=
  find?_updateFirst found (by simp [same])

/-- The emulator answers for the configuration with the device. -/
structure Hosts (e : Emulator) (config : DeviceConfig) (d : EmulatedDevice) : Prop where
  found : e.device? config.id = some d
  configured : d.config = config

namespace Hosts

variable {config : DeviceConfig} {d' : EmulatedDevice}

theorem put (hosts : e.Hosts config d) (same : d'.config = config) :
    (e.update config.id fun _ => d').Hosts config d' :=
  ⟨device?_update hosts.found same, same⟩

theorem unique (hosts : e.Hosts config d) (hosts' : e.Hosts config d') : d = d' :=
  Option.some.inj (hosts.found.symm.trans hosts'.found)

/-- Of several configurations with one number, the first is hosted. -/
theorem of_powerOn {configs : List DeviceConfig}
    (first : configs.find? (fun other => other.id == config.id) = some config)
    (started : e.devices = configs.map .powerOn) : e.Hosts config (.powerOn config) := by
  refine ⟨?_, rfl⟩
  rw [device?, started, List.find?_map]
  exact congrArg (Option.map EmulatedDevice.powerOn) first

/-- The record of the configuration has the node until that is replaced. -/
theorem hasNode_iff (hosts : e.Hosts config d) :
    d.HasNode config.info ↔ d.nodeMinor = config.minor := by
  rw [EmulatedDevice.HasNode, hosts.configured]
  exact and_iff_right rfl

end Hosts

end Emulator

/-! ## Commands -/

/-- The catalog as far as a query brings it: the number of entries is a word. -/
def DeviceConfig.offered (config : DeviceConfig) : List CatalogEntry :=
  config.catalog.take (UInt32.ofNat config.catalog.length).toNat

/-- The first offered entry with an id is the first of the whole catalog. -/
theorem DeviceConfig.find?_catalog {config : DeviceConfig} {p : CatalogEntry → Bool}
    {entry : CatalogEntry} (offered : config.offered.find? p = some entry) :
    config.catalog.find? p = some entry := by
  rw [← List.take_append_drop (UInt32.ofNat config.catalog.length).toNat config.catalog,
    List.find?_append]
  rw [show (config.catalog.take _).find? p = some entry from offered]
  rfl

namespace Emulator

variable {e : Emulator} {config : DeviceConfig} {d : EmulatedDevice}

/-- What holds of a device, whatever its counters are, goes on holding while it serves its
catalog. -/
theorem serves_where {P : EmulatedDevice → Prop}
    (node : ∀ d, P d → d.nodeMinor = config.minor)
    (counted : ∀ d n, P d → P { d with queryCalls := n }) :
    backend.Serves config.info config.catalog fun e => ∃ d, e.Hosts config d ∧ P d := by
  have queried (e : Emulator) (d : EmulatedDevice) (hosts : e.Hosts config d) (holds : P d)
      (files : FileTree) (buffer : QueryBuffer) :
      let reply := backend.query files config.info buffer e
      reply.verdict = (d.query buffer).verdict ∧ reply.written = (d.query buffer).written ∧
        ∃ d', reply.device.Hosts config d' ∧ P d' := by
    intro reply
    have reached : reply = _ :=
      query_reached hosts.found (hosts.hasNode_iff.mpr (node d holds)) files buffer
    rw [reached]
    refine ⟨rfl, rfl, (d.query buffer).device, ?_, ?_⟩
    · exact hosts.put ((d.query_same buffer).config.trans hosts.configured)
    · unfold EmulatedDevice.query
      dsimp only
      split <;> exact counted d _ holds
  constructor
  case counts =>
    rintro files e ⟨d, hosts, holds⟩ reply
    obtain ⟨verdict, -, held⟩ := queried e d hosts holds files (.withCapacity 0)
    refine ⟨verdict.trans ?_, held⟩
    rw [EmulatedDevice.query, if_pos (by simp [QueryBuffer.withCapacity, QueryBuffer.requested])]
    simp only [hosts.configured]
  case fills =>
    rintro files e n ⟨d, hosts, holds⟩ some_ reply
    obtain ⟨verdict, written, held⟩ := queried e d hosts holds files (.withCapacity n)
    have asked : (QueryBuffer.withCapacity n).requested = n.toNat := by
      simp [QueryBuffer.withCapacity, QueryBuffer.requested]
    have nonzero : n.toNat ≠ 0 := by simpa [← UInt32.toNat_inj] using some_
    rw [EmulatedDevice.query, asked, if_neg nonzero] at verdict written
    refine ⟨verdict, ?_, held⟩
    rw [written, hosts.configured]

/-- The device that is hosted serves its catalog, and stays the same up to its counters. -/
theorem Hosts.serves (hosts : e.Hosts config d) (node : d.HasNode config.info) :
    backend.Serves config.info config.catalog fun e =>
      ∃ d', e.Hosts config d' ∧ d.SameBut none d' :=
  serves_where (fun _ same => same.nodeMinor.trans (hosts.hasNode_iff.mp node))
    fun d' n same => same.trans (.counted none d' n _)

open Effect Session

variable {world : World Emulator}

/-- A command is made as the catalog says, if the node is that of the record. -/
theorem prepare_hosted (hosts : world.device.Hosts config d) (node : d.HasNode config.info)
    (id : UInt32) :
    let s : Session Emulator := ⟨.unvalidated config.info, world⟩
    let made := (Command.unvalidated config.info).construct config.offered id
    ∃ (d' : EmulatedDevice) (t : Session Emulator), d.SameBut none d' ∧
      t.world.device.Hosts config d' ∧ prepare backend id s = (made.1, t) ∧
      t.command = made.2 := by
  intro s made
  obtain ⟨⟨d', hosts', same⟩, log, ran⟩ :=
    prepare_served (hosts.serves node) world ⟨d, hosts, .refl none d⟩ id
  exact ⟨d', _, same, hosts', ran, rfl⟩

/-- With a replaced node no command is made. -/
theorem prepare_moved (hosts : world.device.Hosts config d) (moved : ¬ d.HasNode config.info)
    (id : UInt32) :
    ∃ t : Session Emulator, t.world.device.Hosts config d ∧
      prepare backend id ⟨.unvalidated config.info, world⟩ =
        (.error (.deviceNodeInvalid config.info.nodePath), t) := by
  let s : Session Emulator := ⟨.unvalidated config.info, world⟩
  obtain ⟨log, refused⟩ := query_refused hosts.found moved s.world.files (.withCapacity 0)
  obtain ⟨log', queried⟩ := query_fetches backend (s := s) rfl
  rw [show backend.query s.world.files s.command.device _ s.world.device = _ from refused]
    at queried
  exact ⟨_, hosts, bind_error queried _⟩

variable {s : Session Emulator}

/-- A command that the driver lets through gets what the device delivers. -/
theorem submit_hosted (hosts : s.world.device.Hosts config d) (node : d.HasNode config.info)
    (device : s.command.device = config.info) (clear : s.command.sendFault? = none)
    (passes : d.driverFault? s.command.request = none) :
    let delivery := d.called.deliver s.command.request
    ∃ t : Session Emulator,
      submit backend s = (.ok (Status.ofWord delivery.receipt.returnWord), t) ∧
      t.command = s.command.received delivery.receipt delivery.written ∧
      t.world.device.Hosts config delivery.device := by
  intro delivery
  obtain ⟨log, carried⟩ := d.send_carried config.info passes
  have same := (d.send_same config.info s.command.request).config
  rw [carried] at same
  obtain ⟨log', ran⟩ := submit_sends backend clear
  rw [device, send_reached hosts.found node, carried] at ran
  exact ⟨_, ran, rfl, hosts.put (same.trans hosts.configured)⟩

/-- With a replaced node no command is sent. -/
theorem submit_moved (hosts : s.world.device.Hosts config d) (moved : ¬ d.HasNode config.info)
    (device : s.command.device = config.info) (clear : s.command.sendFault? = none) :
    ∃ t : Session Emulator, t.world.device.Hosts config d ∧
      submit backend s = (.error (.deviceNodeInvalid config.info.nodePath), t) := by
  obtain ⟨log, refused⟩ := send_refused hosts.found moved s.world.files s.command.request
  obtain ⟨log', ran⟩ := submit_sends backend clear
  rw [device, refused] at ran
  refine ⟨_, ?_, ran⟩
  exact hosts

end Emulator

end CxlMailbox
