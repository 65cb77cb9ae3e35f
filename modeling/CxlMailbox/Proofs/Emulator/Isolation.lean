/-
# CxlMailbox.Proofs.Emulator.Isolation — handles, devices and who sees what

A registry keeps of several devices with one number the first, and the emulator answers for a
number with the first device that has it.  Both searches pick the same device, and what is asked of
one device is seen by no other:

* `Access` has what can be asked of an emulator as data, and `Access.reaction` what the one device
  that is asked does;
* `perform_routed`: an access is the reaction of the device at its slot, and the devices at all
  other slots stay as they are;
* `mapM_projected`: so a run, seen from one slot, is the run of the accesses to that slot alone.

`devices_isolated` puts them together for every list of configurations.
-/
import CxlMailbox.Proofs.Emulator.Hosting
import CxlMailbox.Proofs.Registry

namespace CxlMailbox

set_option autoImplicit false

/-! ## Slots -/

/-- The position of the first configuration with a number. -/
def DeviceConfig.slot? (configs : List DeviceConfig) (id : UInt32) : Option Nat :=
  configs.findIdx? fun config => config.id == id

theorem DeviceConfig.slot?_spec {configs : List DeviceConfig} {id : UInt32} {slot : Nat}
    (routed : slot? configs id = some slot) : ∃ config, configs[slot]? = some config ∧
      config.id = id ∧ configs.find? (fun other => other.id == id) = some config := by
  obtain ⟨inside, same, -⟩ := List.findIdx?_eq_some_iff_getElem.mp routed
  have here := List.getElem?_eq_getElem inside
  refine ⟨configs[slot], here, by simpa using same, ?_⟩
  rw [List.find?_eq_bind_findIdx?_getElem?]
  rw [slot?] at routed
  rw [routed]
  exact here

theorem DeviceConfig.slot?_of_find {configs : List DeviceConfig} {id : UInt32}
    {config : DeviceConfig} (first : configs.find? (fun other => other.id == id) = some config) :
    ∃ slot, slot? configs id = some slot ∧ configs[slot]? = some config := by
  rw [List.find?_eq_bind_findIdx?_getElem?, Option.bind_eq_some_iff] at first
  exact first

namespace Emulator

variable {e : Emulator} {id : UInt32} {slot : Nat} {d : EmulatedDevice}

/-- The configurations of all devices. -/
def configs (e : Emulator) : List DeviceConfig := e.devices.map (·.config)

theorem slot?_configs (e : Emulator) (id : UInt32) :
    DeviceConfig.slot? e.configs id = e.devices.findIdx? fun d => d.config.id == id :=
  List.findIdx?_map

theorem device?_of_slot (routed : DeviceConfig.slot? e.configs id = some slot)
    (here : e.devices[slot]? = some d) : e.device? id = some d := by
  rw [slot?_configs] at routed
  rw [device?, List.find?_eq_bind_findIdx?_getElem?, routed]
  exact here

theorem device?_of_none (missing : DeviceConfig.slot? e.configs id = none) :
    e.device? id = none := by
  rw [slot?_configs] at missing
  rw [device?, List.find?_eq_bind_findIdx?_getElem?, missing]
  rfl

theorem updateFirst_eq (p : EmulatedDevice → Bool) (f : EmulatedDevice → EmulatedDevice)
    (devices : List EmulatedDevice) :
    updateFirst p f devices = match devices.findIdx? p with
      | none => devices
      | some slot => devices.modify slot f := by
  induction devices with
  | nil => rfl
  | cons head rest ih =>
      rw [updateFirst, List.findIdx?_cons, ih]
      by_cases here : p head = true
      · simp [here]
      · simp only [here]
        rcases rest.findIdx? p with _ | slot <;> rfl

theorem update_of_slot (routed : DeviceConfig.slot? e.configs id = some slot)
    (here : e.devices[slot]? = some d) (f : EmulatedDevice → EmulatedDevice) :
    e.update id f = { e with devices := e.devices.set slot (f d) } := by
  rw [slot?_configs] at routed
  have : Inhabited EmulatedDevice := ⟨d⟩
  simp only [update, updateFirst_eq, routed, List.modify_eq_set, here, Option.getD_some]

theorem update_of_none (missing : DeviceConfig.slot? e.configs id = none)
    (f : EmulatedDevice → EmulatedDevice) : e.update id f = e := by
  rw [slot?_configs] at missing
  simp only [update, updateFirst_eq, missing]

end Emulator

/-! ## Accesses -/

/-- The faults that can be injected. -/
inductive Fault where
  | forcedStatus (status? : Option UInt32)
  | outputLimit (limit? : Option UInt32)
  | replacedNode
  deriving DecidableEq

/-- The device with the fault. -/
def Fault.apply (d : EmulatedDevice) : Fault → EmulatedDevice
  | forcedStatus status? => { d with forcedStatus := status? }
  | outputLimit limit? => { d with outputLimit := limit? }
  | replacedNode => { d with nodeMinor := d.config.minor + 1000 }

/-- Injects a fault into the device with the number. -/
def Emulator.inject (e : Emulator) (id : UInt32) : Fault → Emulator
  | .forcedStatus status? => e.forceStatus id status?
  | .outputLimit limit? => e.limitOutput id limit?
  | .replacedNode => e.replaceNode id

theorem Emulator.inject_eq (e : Emulator) (id : UInt32) (fault : Fault) :
    e.inject id fault = e.update id fun d => fault.apply d := by
  cases fault <;> rfl

/-- What can be asked of emulated devices: the two requests that are issued through a handle, and
the faults that are injected by number. -/
inductive Access where
  | query (info : DeviceInfo) (buffer : QueryBuffer)
  | send (info : DeviceInfo) (request : SendRequest)
  | inject (id : UInt32) (fault : Fault)
  deriving DecidableEq

namespace Access

/-- What an access comes to: a verdict, and the buffer as it is left. -/
inductive Outcome where
  | queried (verdict : Except Error Unit) (buffer : QueryBuffer)
  | sent (verdict : Except Error Receipt) (output : Bytes)
  | done

/-- The outcome of a query with the buffer. -/
def Outcome.ofQuery {δ : Type} (buffer : QueryBuffer) (reply : QueryReply δ) : Outcome :=
  match reply.verdict with
  | .ok count => queried (.ok ()) (buffer.fill count reply.written)
  | .error e => queried (.error e) (buffer.fill buffer.count reply.written)

/-- The outcome of a send with the output buffer. -/
def Outcome.ofSend {δ : Type} (request : SendRequest) (reply : SendReply δ) : Outcome :=
  sent reply.verdict (overlay reply.written request.output)

/-- The number of the device that is asked. -/
def id : Access → UInt32
  | query info _ | send info _ => info.id
  | inject id _ => id

/-- Carries the access out. -/
def perform : Access → StateM (World Emulator) Outcome
  | query info buffer => do
    let (verdict, buffer) ← Emulator.backend.runQuery info buffer
    return .queried verdict buffer
  | send info request => do
    let (verdict, output) ← Emulator.backend.runSend info request
    return .sent verdict output
  | inject id fault => do
    modify fun world => { world with device := world.device.inject id fault }
    return .done

/-- What the device that is asked does. -/
def reaction (d : EmulatedDevice) : Access → Outcome × EmulatedDevice
  | query info buffer =>
    if d.HasNode info then (.ofQuery buffer (d.query buffer), (d.query buffer).device)
    else (.queried (.error (.deviceNodeInvalid info.nodePath)) buffer, d)
  | send info request =>
    if d.HasNode info then (.ofSend request (d.send info request), (d.send info request).device)
    else (.sent (.error (.deviceNodeInvalid info.nodePath)) request.output, d)
  | inject _ fault => (.done, fault.apply d)

theorem reaction_config (d : EmulatedDevice) (access : Access) :
    (access.reaction d).2.config = d.config := by
  cases access with
  | query info buffer =>
      simp only [reaction]
      split
      · exact (d.query_same buffer).config
      · rfl
  | send info request =>
      simp only [reaction]
      split
      · exact (d.send_same info request).config
      · rfl
  | inject id fault => cases fault <;> simp only [reaction, Fault.apply]

/-- Only the replacement of the node changes the node. -/
theorem reaction_nodeMinor (d : EmulatedDevice) {access : Access}
    (other : access ≠ inject access.id .replacedNode) :
    (access.reaction d).2.nodeMinor = d.nodeMinor := by
  cases access with
  | query info buffer =>
      simp only [reaction]
      split
      · exact (d.query_same buffer).nodeMinor
      · rfl
  | send info request =>
      simp only [reaction]
      split
      · exact (d.send_same info request).nodeMinor
      · rfl
  | inject id fault =>
      cases fault with
      | replacedNode => exact absurd rfl other
      | forcedStatus status? | outputLimit limit? => simp only [reaction, Fault.apply]

end Access

/-- The world with other devices, after something was logged. -/
def World.withDevices (world : World Emulator) (devices : List EmulatedDevice)
    (log : Array LogLine) : World Emulator :=
  { world with device := { world.device with devices }, log }

namespace Access

variable {world : World Emulator} {access : Access} {slot : Nat} {d : EmulatedDevice}

theorem perform_query (info : DeviceInfo) (buffer : QueryBuffer) (world : World Emulator) :
    (query info buffer).perform world =
      let reply := Emulator.backend.query world.files info buffer world.device
      (.ofQuery buffer reply,
        { world with device := reply.device, log := world.log ++ reply.log }) := by
  change (fun ran => (Outcome.queried ran.1.1 ran.1.2, ran.2))
    (Emulator.backend.runQuery info buffer world) = _
  simp only [Backend.runQuery, Outcome.ofQuery]
  generalize Emulator.backend.query world.files info buffer world.device = reply
  rcases reply.verdict with e | count <;> rfl

theorem perform_send (info : DeviceInfo) (request : SendRequest) (world : World Emulator) :
    (send info request).perform world =
      let reply := Emulator.backend.send world.files info request world.device
      (.ofSend request reply,
        { world with device := reply.device, log := world.log ++ reply.log }) :=
  rfl

/-- An access is the reaction of the device at its slot, and all other devices stay as they are. -/
theorem perform_routed
    (routed : DeviceConfig.slot? world.device.configs access.id = some slot)
    (here : world.device.devices[slot]? = some d) :
    ∃ log, access.perform world = ((access.reaction d).1,
      world.withDevices (world.device.devices.set slot (access.reaction d).2) log) := by
  have kept : world.device.devices.set slot d = world.device.devices := by
    obtain ⟨inside, rfl⟩ := List.getElem?_eq_some_iff.mp here
    exact List.set_getElem_self inside
  cases access with
  | query info buffer =>
      change DeviceConfig.slot? _ info.id = _ at routed
      have found := Emulator.device?_of_slot routed here
      rw [perform_query]
      by_cases node : d.HasNode info
      · rw [Emulator.query_reached found node, Emulator.update_of_slot routed here, reaction,
          if_pos node]
        exact ⟨_, rfl⟩
      · have untouched : buffer.fill buffer.count [] = buffer := by simp [QueryBuffer.fill]
        obtain ⟨log, refused⟩ := Emulator.query_refused found node world.files buffer
        rw [refused, reaction, if_neg node]
        simp only [kept, Outcome.ofQuery, untouched]
        exact ⟨_, rfl⟩
  | send info request =>
      change DeviceConfig.slot? _ info.id = _ at routed
      have found := Emulator.device?_of_slot routed here
      rw [perform_send]
      by_cases node : d.HasNode info
      · rw [Emulator.send_reached found node, Emulator.update_of_slot routed here, reaction,
          if_pos node]
        exact ⟨_, rfl⟩
      · obtain ⟨log, refused⟩ := Emulator.send_refused found node world.files request
        rw [refused, reaction, if_neg node]
        simp only [kept, Outcome.ofSend, overlay_nil]
        exact ⟨_, rfl⟩
  | inject id fault =>
      change DeviceConfig.slot? _ id = _ at routed
      refine ⟨world.log, ?_⟩
      change (_, { world with device := world.device.inject id fault }) = _
      rw [Emulator.inject_eq, Emulator.update_of_slot routed here]
      rfl

/-- An access to a number that no device has changes no device. -/
theorem perform_unrouted
    (missing : DeviceConfig.slot? world.device.configs access.id = none) :
    (access.perform world).2.device = world.device := by
  cases access with
  | query info buffer =>
      change DeviceConfig.slot? _ info.id = _ at missing
      have absent := Emulator.device?_of_none missing
      rw [perform_query]
      simp only [Emulator.backend, Emulator.deviceFor, absent]
  | send info request =>
      change DeviceConfig.slot? _ info.id = _ at missing
      have absent := Emulator.device?_of_none missing
      rw [perform_send]
      simp only [Emulator.backend, Emulator.deviceFor, absent]
  | inject id fault =>
      change DeviceConfig.slot? _ id = _ at missing
      change world.device.inject id fault = world.device
      rw [Emulator.inject_eq, Emulator.update_of_none missing]

/-! ## Runs -/

/-- An access has no device to go to, and changes none, or it is the reaction of one. -/
theorem perform_cases (access : Access) (world : World Emulator) :
    (DeviceConfig.slot? world.device.configs access.id = none ∧
      (access.perform world).2.device = world.device) ∨
    ∃ slot d log, DeviceConfig.slot? world.device.configs access.id = some slot ∧
      world.device.devices[slot]? = some d ∧
      access.perform world = ((access.reaction d).1,
        world.withDevices (world.device.devices.set slot (access.reaction d).2) log) := by
  rcases routed : DeviceConfig.slot? world.device.configs access.id with _ | slot
  · exact .inl ⟨rfl, perform_unrouted routed⟩
  · obtain ⟨config, here, -⟩ := DeviceConfig.slot?_spec routed
    rw [Emulator.configs, List.getElem?_map, Option.map_eq_some_iff] at here
    obtain ⟨d, here, -⟩ := here
    obtain ⟨log, ran⟩ := perform_routed routed here
    exact .inr ⟨slot, d, log, rfl, here, ran⟩

/-- The configurations stay in place. -/
theorem perform_configs (access : Access) (world : World Emulator) :
    (access.perform world).2.device.configs = world.device.configs := by
  rcases access.perform_cases world with ⟨-, same⟩ | ⟨slot, d, log, -, here, ran⟩
  · rw [same]
  · obtain ⟨inside, rfl⟩ := List.getElem?_eq_some_iff.mp here
    rw [ran]
    simp only [Emulator.configs, World.withDevices, List.map_set, reaction_config]
    rw [← List.map_set, List.set_getElem_self]

/-- A device that is not asked stays as it is. -/
theorem perform_elsewhere {configs : List DeviceConfig} {access : Access} {world : World Emulator}
    {slot : Nat} (configured : world.device.configs = configs)
    (elsewhere : DeviceConfig.slot? configs access.id ≠ some slot) :
    (access.perform world).2.device.devices[slot]? = world.device.devices[slot]? := by
  rcases access.perform_cases world with ⟨-, same⟩ | ⟨other, d, log, routed, -, ran⟩
  · rw [same]
  · rw [ran]
    have different : other ≠ slot := fun same => elsewhere (configured ▸ same ▸ routed)
    exact List.getElem?_set_ne different

/-- The part of a run that one slot sees: the accesses to it, with what they came to. -/
def seen (configs : List DeviceConfig) (slot : Nat) {α : Type} (run : List (Access × α)) :
    List (Access × α) :=
  run.filter fun entry => DeviceConfig.slot? configs entry.1.id == some slot

/-- The accesses to one slot. -/
def addressed (configs : List DeviceConfig) (slot : Nat) (accesses : List Access) : List Access :=
  accesses.filter fun access => DeviceConfig.slot? configs access.id == some slot

theorem mapM_cons_apply (access : Access) (accesses : List Access) (world : World Emulator) :
    (access :: accesses).mapM perform world =
      ((access.perform world).1 :: (accesses.mapM perform (access.perform world).2).1,
        (accesses.mapM perform (access.perform world).2).2) := by
  rw [List.mapM_cons]
  rfl

/-- A device does the same on its own as among others. -/
theorem perform_alone {access : Access} {world alone : World Emulator} {slot : Nat}
    {d : EmulatedDevice} (routed : DeviceConfig.slot? world.device.configs access.id = some slot)
    (here : world.device.devices[slot]? = some d) (only : alone.device.devices = [d]) :
    ∃ d', (access.perform world).2.device.devices[slot]? = some d' ∧
      (access.perform alone).2.device.devices = [d'] ∧
      (access.perform alone).1 = (access.perform world).1 := by
  obtain ⟨config, placed, same, -⟩ := DeviceConfig.slot?_spec routed
  have configured : d.config = config := by
    rw [Emulator.configs, List.getElem?_map, here] at placed
    exact Option.some.inj placed
  have routedAlone : DeviceConfig.slot? alone.device.configs access.id = some 0 := by
    simp [DeviceConfig.slot?, Emulator.configs, only, configured, same]
  have hereAlone : alone.device.devices[0]? = some d := by rw [only]; rfl
  obtain ⟨log, ran⟩ := perform_routed routed here
  obtain ⟨log', ranAlone⟩ := perform_routed routedAlone hereAlone
  obtain ⟨inside, -⟩ := List.getElem?_eq_some_iff.mp here
  refine ⟨(access.reaction d).2, ?_, ?_, by rw [ran, ranAlone]⟩
  · rw [ran]
    exact List.getElem?_set_self inside
  · rw [ranAlone, only]
    rfl

/-- A run, seen from one slot, is the run of the accesses to that slot on an emulator with the
device at the slot alone. -/
theorem mapM_projected {configs : List DeviceConfig} {slot : Nat} (accesses : List Access) :
    ∀ (world alone : World Emulator) (d : EmulatedDevice), world.device.configs = configs →
      world.device.devices[slot]? = some d → alone.device.devices = [d] →
      let own := addressed configs slot accesses
      let whole := accesses.mapM perform world
      let single := own.mapM perform alone
      (∃ d', whole.2.device.devices[slot]? = some d' ∧ single.2.device.devices = [d']) ∧
        seen configs slot (accesses.zip whole.1) = own.zip single.1 := by
  induction accesses with
  | nil => exact fun world alone d _ here only => ⟨⟨d, here, only⟩, rfl⟩
  | cons access accesses ih =>
      intro world alone d configured here only
      have configured' := (access.perform_configs world).trans configured
      rw [mapM_cons_apply]
      simp only [addressed, seen, List.zip_cons_cons, List.filter_cons]
      by_cases routed : DeviceConfig.slot? configs access.id = some slot
      · simp only [routed, beq_self_eq_true, if_true]
        rw [mapM_cons_apply]
        obtain ⟨d', stepped, steppedAlone, same⟩ :=
          perform_alone (configured ▸ routed) here only
        obtain ⟨ended, entries⟩ := ih _ _ d' configured' stepped steppedAlone
        exact ⟨ended, by rw [List.zip_cons_cons, same]; exact congrArg (_ :: ·) entries⟩
      · have elsewhere : (DeviceConfig.slot? configs access.id == some slot) = false :=
          beq_false_of_ne routed
        simp only [elsewhere]
        have still := perform_elsewhere configured routed
        exact ih _ alone d configured' (still.trans here) only

theorem mapM_configs (accesses : List Access) (world : World Emulator) :
    (accesses.mapM perform world).2.device.configs = world.device.configs := by
  induction accesses generalizing world with
  | nil => rfl
  | cons access accesses ih =>
      rw [mapM_cons_apply]
      exact (ih _).trans (access.perform_configs world)

/-- The device at a slot keeps its configuration, and its node unless that is replaced. -/
theorem mapM_keeps {configs : List DeviceConfig} {id : UInt32} {slot : Nat}
    (answers : DeviceConfig.slot? configs id = some slot) (accesses : List Access) :
    ∀ (world : World Emulator) (d : EmulatedDevice), world.device.configs = configs →
      world.device.devices[slot]? = some d →
      ∃ d', (accesses.mapM perform world).2.device.devices[slot]? = some d' ∧
        d'.config = d.config ∧
        (inject id .replacedNode ∉ accesses → d'.nodeMinor = d.nodeMinor) := by
  induction accesses with
  | nil => exact fun world d configured here => ⟨d, here, rfl, fun _ => rfl⟩
  | cons access accesses ih =>
      intro world d configured here
      have configured' := (access.perform_configs world).trans configured
      rw [mapM_cons_apply]
      by_cases routed : DeviceConfig.slot? configs access.id = some slot
      · obtain ⟨log, ran⟩ := perform_routed (configured ▸ routed) here
        obtain ⟨inside, -⟩ := List.getElem?_eq_some_iff.mp here
        have stepped : (access.perform world).2.device.devices[slot]? =
            some (access.reaction d).2 := by
          rw [ran]
          exact List.getElem?_set_self inside
        obtain ⟨d', ended, same, spared⟩ := ih _ _ configured' stepped
        refine ⟨d', ended, same.trans (reaction_config d access), fun kept => ?_⟩
        obtain ⟨other, kept⟩ := List.ne_and_not_mem_of_not_mem_cons kept
        have number : access.id = id := by
          obtain ⟨config, here, first, -⟩ := DeviceConfig.slot?_spec routed
          obtain ⟨config', here', second, -⟩ := DeviceConfig.slot?_spec answers
          rw [← first, ← second, Option.some.inj (here.symm.trans here')]
        exact (spared kept).trans (reaction_nodeMinor d (number ▸ other.symm))
      · have still := perform_elsewhere configured routed
        obtain ⟨d', ended, same, spared⟩ := ih _ d configured' (still.trans here)
        exact ⟨d', ended, same, fun kept => spared (List.not_mem_of_not_mem_cons kept)⟩

end Access

/-! ## Handles -/

/-- Enumeration finds the first record with each number, and leaves the devices as they are. -/
theorem Registry.devices_fresh (world : World Emulator) :
    let context := Registry.devices Emulator.backend {} world
    context.1.1 = firstById [] (world.device.configs.map DeviceConfig.info) ∧
      context.2.device.devices = world.device.devices := by
  have found : world.device.configs.map DeviceConfig.info =
      world.device.devices.map (·.config.info) := List.map_map
  rw [found]
  exact ⟨rfl, rfl⟩

/-- A handle is that of the first configuration with its number. -/
theorem DeviceConfig.of_handle {configs : List DeviceConfig} {info : DeviceInfo}
    (handle : info ∈ Registry.firstById [] (configs.map DeviceConfig.info)) :
    ∃ config, configs.find? (fun other => other.id == info.id) = some config ∧
      config.info = info := by
  obtain ⟨-, first⟩ := Registry.first_of_firstById handle
  rw [List.find?_map, Option.map_eq_some_iff] at first
  exact first

open Access

/-- **Handles match devices, and devices are isolated.**  Of every list of configurations, a handle
of a context carries the first with its number, and that is the device that answers for it, whatever
was done before; its node check passes unless the node was replaced.  What is asked through the
handle is its reaction, and leaves all other devices as they are.  So of every run, the final state
of a device and all that was answered for it are those of the accesses to it alone, on an emulator
without the others. -/
theorem devices_isolated (configs : List DeviceConfig) (world : World Emulator)
    (started : world.device.devices = configs.map .powerOn) :
    (∀ before : List Access,
      let asked := (before.mapM perform world).2
      let context := Registry.devices Emulator.backend {} asked
      context.2.device.devices = asked.device.devices ∧
      ∀ info ∈ context.1.1, ∃ config slot,
        configs.find? (fun other => other.id == info.id) = some config ∧ config.info = info ∧
        DeviceConfig.slot? configs info.id = some slot ∧
        ∀ between : List Access,
          let now := (between.mapM perform context.2).2
          ∃ d, now.device.devices[slot]? = some d ∧ d.config = config ∧
            (inject info.id .replacedNode ∉ before ++ between →
              now.device.deviceFor info = .ok d) ∧
            ∀ access : Access, access.id = info.id → ∃ log, access.perform now =
              ((access.reaction d).1,
                now.withDevices (now.device.devices.set slot (access.reaction d).2) log)) ∧
    ∀ (slot : Nat) (config : DeviceConfig), configs[slot]? = some config →
      ∀ accesses : List Access,
        let own := addressed configs slot accesses
        let whole := accesses.mapM perform world
        let alone := own.mapM perform { device := .ofConfigs [config] }
        whole.2.device.devices[slot]? = alone.2.device.devices[0]? ∧
          seen configs slot (accesses.zip whole.1) = own.zip alone.1 := by
  have configured : world.device.configs = configs := by
    rw [Emulator.configs, started, List.map_map]
    exact List.map_id configs
  have placed (slot : Nat) (config : DeviceConfig) (here : configs[slot]? = some config) :
      world.device.devices[slot]? = some (.powerOn config) := by
    rw [started, List.getElem?_map, here]
    rfl
  refine ⟨fun before => ?_, fun slot config here accesses => ?_⟩
  · intro asked context
    obtain ⟨handles, unchanged⟩ := Registry.devices_fresh asked
    have configuredThen : context.2.device.configs = configs := by
      rw [Emulator.configs, unchanged]
      exact (mapM_configs before world).trans configured
    refine ⟨unchanged, fun info handle => ?_⟩
    rw [handles, (mapM_configs before world).trans configured] at handle
    obtain ⟨config, first, same⟩ := DeviceConfig.of_handle handle
    obtain ⟨slot, routed, here⟩ := DeviceConfig.slot?_of_find first
    refine ⟨config, slot, first, same, routed, fun between => ?_⟩
    intro now
    obtain ⟨d, placedThen, config₁, node₁⟩ :=
      mapM_keeps routed before world _ configured (placed slot config here)
    obtain ⟨d', ended, config₂, node₂⟩ :=
      mapM_keeps routed between context.2 d configuredThen (unchanged ▸ placedThen)
    have configuredNow : now.device.configs = configs :=
      (mapM_configs between _).trans configuredThen
    have own : d'.config = config := config₂.trans config₁
    refine ⟨d', ended, own, fun spared => ?_, fun access addressed => ?_⟩
    · have kept := not_or.mp fun there => spared (List.mem_append.mpr there)
      have node : d'.HasNode info := by
        rw [EmulatedDevice.HasNode, own, node₂ kept.2, node₁ kept.1, ← same]
        exact ⟨rfl, rfl⟩
      have found := Emulator.device?_of_slot (configuredNow ▸ routed) ended
      rw [Emulator.deviceFor_found found, if_pos node]
    · exact perform_routed (configuredNow ▸ addressed ▸ routed) ended
  · obtain ⟨⟨d, ended, alone⟩, entries⟩ :=
      mapM_projected accesses world { device := .ofConfigs [config] } _ configured
        (placed slot config here) rfl
    exact ⟨by rw [ended, alone]; rfl, entries⟩

/-- Two transfers of one device, while the node of another is replaced and a third has the same
number: the device starts the first and is busy for the second, as it would be on its own. -/
theorem transfers_isolated :
    let configs := [DeviceConfig.withId 1, .withId 0, { DeviceConfig.withId 0 with minor := 7 }]
    let world : World Emulator := { device := .ofConfigs configs }
    let transfer := Access.send (DeviceConfig.withId 0).info (.bare Opcode.transferFirmware)
    let accesses := [transfer, inject 1 .replacedNode, transfer]
    let whole := accesses.mapM perform world
    let alone := [transfer, transfer].mapM perform { device := .ofConfigs [.withId 0] }
    whole.2.device.devices[1]? = alone.2.device.devices[0]? ∧
      seen configs 1 (accesses.zip whole.1) = [transfer, transfer].zip alone.1 := by
  intro configs world transfer accesses
  have own : addressed configs 1 accesses = [transfer, transfer] := rfl
  have isolated := (devices_isolated configs world rfl).2 1 (.withId 0) rfl accesses
  rwa [own] at isolated

end CxlMailbox
